import AsterxDriver.Recorder.Fidelity
import AsterxDriver.Sbf.DropCounters

/-! # Health counters of a recording

The drop counters that the operator sees, against those of one call that
receives the whole stream. -/

namespace AsterxDriver.Recorder

open Foundation ByteString Sbf

/-- Every failing candidate of the stream is counted once. -/
structure CountsOnce (chunked whole : FrameSyncStats) (recorder : RecorderStats) : Prop where
  crcFailed : chunked.crcFailed = whole.crcFailed
  lengthInvalid : chunked.lengthInvalid = whole.lengthInvalid
  resyncs : chunked.resyncs = whole.resyncs
  sum : chunked.resyncs = chunked.crcFailed + chunked.lengthInvalid
  recorded : recorder.crcFailed = chunked.crcFailed ∧
    recorder.lengthInvalid = chunked.lengthInvalid ∧ recorder.resyncs = chunked.resyncs

theorem fedChunks_map_feed (chunks : List (List Byte)) :
    fedChunks (chunks.map .feed) = chunks := by
  simp [fedChunks, List.filterMap_map]

/-- The counters are right exactly when no call but the last ends decided, with
new frames and with a rejected candidate behind the last of them. -/
theorem counts_once_iff (environment : Environment) (reliable : environment.Reliable)
    (config : Config) (disk : Dict String (List Byte)) (chunks : List (List Byte)) :
    ∃ chunked frames whole wholeFrames recorder,
      SbfFrameSync.fresh.feedAll chunks = .ok (chunked, frames) ∧
      SbfFrameSync.fresh.feed chunks.flatten = .ok (whole, wholeFrames) ∧
      (SbfRecorder.fresh config disk).run environment (chunks.map .feed) = .ok recorder ∧
      (CountsOnce chunked.stats whole.stats recorder.stats ↔
        ∀ before chunk after, chunks = before ++ chunk :: after → after ≠ [] →
          ¬ Rescans before.flatten chunk) := by
  rcases run_fresh reliable config disk (chunks.map .feed) with
    ⟨_, recorder, frames, ran, fed, _, _, mirrors⟩
  rw [fedChunks_map_feed] at fed
  have fedWhole := SbfFrameSync.feed_fresh chunks.flatten
  refine ⟨_, frames, _, _, recorder, fed, fedWhole, ran, ?_⟩
  rcases feedAll_fresh_counters chunks fed fedWhole with
    ⟨crcAgain, lengthAgain, crc, length, resyncs, wholeResyncs, clean⟩
  simp only [Mirrors, drops, counters, Prod.mk.injEq] at mirrors
  constructor
  · intro once
    apply clean.mp
    have := once.crcFailed
    have := once.lengthInvalid
    omega
  · intro borders
    have := clean.mpr borders
    exact ⟨by omega, by omega, by omega, resyncs, mirrors.2.2⟩

/-- A frame and behind it a header with an invalid length. -/
def frameThenBadHeader : List Byte :=
  [0x24, 0x40, 0xA9, 0x89, 0x00, 0x00, 0x08, 0x00,
    0x24, 0x40, 0x00, 0x00, 0x00, 0x00, 0x00, 0x00]

theorem counted_twice :
    ∃ chunked frames whole wholeFrames,
      SbfFrameSync.fresh.feedAll [frameThenBadHeader, []] = .ok (chunked, frames) ∧
      SbfFrameSync.fresh.feed [frameThenBadHeader, []].flatten = .ok (whole, wholeFrames) ∧
      chunked.stats.lengthInvalid = 2 ∧ whole.stats.lengthInvalid = 1 ∧
      ∀ recorder, ¬ CountsOnce chunked.stats whole.stats recorder :=
  ⟨⟨[], .idle, ⟨16, 1, 0, 2, 2⟩, 0⟩, [⟨0x89A9, 0, 8, []⟩],
    ⟨frameThenBadHeader, .idle, ⟨16, 1, 0, 1, 1⟩, 8⟩, [⟨0x89A9, 0, 8, []⟩],
    by decide +kernel, by decide +kernel, rfl, rfl,
    fun _ once => absurd once.lengthInvalid (by decide)⟩

theorem counts_once_iff_split_header :
    quietEnvironment.Reliable ∧ ∃ chunked frames whole wholeFrames recorder,
      SbfFrameSync.fresh.feedAll [[0x24, 0x40, 0x00, 0x00], [0x00, 0x00, 0x00, 0x00]] =
        .ok (chunked, frames) ∧
      SbfFrameSync.fresh.feed [0x24, 0x40, 0x00, 0x00, 0x00, 0x00, 0x00, 0x00] =
        .ok (whole, wholeFrames) ∧
      (SbfRecorder.fresh ⟨"./recordings", "asterx", 8, 3600⟩ ∅).run quietEnvironment
        [.feed [0x24, 0x40, 0x00, 0x00], .feed [0x00, 0x00, 0x00, 0x00]] = .ok recorder ∧
      (CountsOnce chunked.stats whole.stats recorder.stats ↔
        ∀ before chunk after,
          [[0x24, 0x40, 0x00, 0x00], [0x00, 0x00, 0x00, 0x00]] =
            before ++ chunk :: after → after ≠ [] → ¬ Rescans before.flatten chunk) :=
  have reliable : quietEnvironment.Reliable := ⟨fun _ _ => rfl, fun _ _ => rfl⟩
  ⟨reliable, counts_once_iff quietEnvironment reliable _ ∅
    [[0x24, 0x40, 0x00, 0x00], [0x00, 0x00, 0x00, 0x00]]⟩

end AsterxDriver.Recorder
