import AsterxDriver.Sbf.FeedSpec

/-! # Whole runs of the synchronizer

A session is a synchronizer together with the bytes it was given and the frames
it has emitted since it was made or last reset. -/

namespace AsterxDriver.Sbf

open Foundation ByteString

/-! ## The stream behind a synchronizer -/

/-- What the synchronizer keeps is the end of `stream`, from a token border on. -/
structure Tracks (stream : List Byte) (sync : SbfFrameSync) : Prop where
  consistent : sync.Consistent
  border : ∃ front position, scanner.Decides 0 stream front position ∧
    sync.pending = stream.drop position

theorem Tracks.fresh_of_idle {sync : SbfFrameSync} (idle : sync.state = .idle)
    (drain : sync.frameDrain = 0) (empty : sync.buf = []) : Tracks [] sync where
  consistent :=
    { drained := by omega
      busy := fun busy => absurd idle busy
      empty := fun _ _ => empty
      scanned := fun _ => by
        rw [SbfFrameSync.pending, empty, List.drop_nil, scanner.rest_of_none rfl,
          scanner.tokens_of_none rfl]
        exact ⟨rfl, rfl⟩ }
  border := ⟨[], 0, .nil _ _, by simp [SbfFrameSync.pending, empty]⟩

theorem Tracks.fresh : Tracks [] SbfFrameSync.fresh := .fresh_of_idle rfl rfl rfl

theorem Tracks.reset (sync : SbfFrameSync) : Tracks [] sync.reset :=
  .fresh_of_idle rfl rfl rfl

/-- Nothing that is kept can be emitted without more input. -/
theorem SbfFrameSync.Consistent.quiet {sync : SbfFrameSync}
    (consistent : sync.Consistent) : framesOf (scanner.tokens sync.pending) = [] := by
  by_cases idle : sync.state = .idle
  · exact (consistent.scanned idle).2
  · rcases consistent.busy idle with ⟨noDrain, waiting, _⟩
    rw [SbfFrameSync.pending, noDrain, List.drop_zero, scanner.tokens_of_none waiting]
    rfl

theorem Tracks.feed {stream : List Byte} {sync : SbfFrameSync}
    (tracks : Tracks stream sync) (bytes : List Byte) (stats : FrameSyncStats) :
    Tracks (stream ++ bytes) (SbfFrameSync.settle stats (sync.pending ++ bytes)) where
  consistent := SbfFrameSync.settle_consistent stats _
  border := by
    rcases tracks.border with ⟨front, position, decides, kept⟩
    rcases SbfFrameSync.settle_pending stats (sync.pending ++ bytes) with
      ⟨more, moved, decidesMore, keptMore⟩
    have inside := decides.le_length
    rw [Nat.sub_zero] at inside
    have continued : (stream ++ bytes).drop position = sync.pending ++ bytes := by
      rw [List.drop_append_of_le_length inside, kept]
    refine ⟨front ++ more.map (Token.shift position), position + moved, ?_, ?_⟩
    · apply (decides.append bytes).trans
      rw [Nat.sub_zero, continued]
      exact decidesMore.shift position
    · rw [keptMore, ← continued, List.drop_drop]

/-- Scanning the kept bytes with more input continues the scan of the stream. -/
theorem Tracks.tokens {stream : List Byte} {sync : SbfFrameSync}
    (tracks : Tracks stream sync) (bytes : List Byte) :
    ∃ front position, (stream ++ bytes).drop position = sync.pending ++ bytes ∧
      scanner.tokens stream =
        front ++ (scanner.tokens sync.pending).map (Token.shift position) ∧
      scanner.tokens (stream ++ bytes) =
        front ++ (scanner.tokens (sync.pending ++ bytes)).map (Token.shift position) ∧
      scanner.rest (stream ++ bytes) = scanner.rest (sync.pending ++ bytes) := by
  rcases tracks.border with ⟨front, position, decides, kept⟩
  have inside := decides.le_length
  rw [Nat.sub_zero] at inside
  have continued : (stream ++ bytes).drop position = sync.pending ++ bytes := by
    rw [List.drop_append_of_le_length inside, kept]
  have before := decides.run_eq
  have after := (decides.append bytes).run_eq
  rw [Nat.sub_zero, ← kept, scanner.run_eq_shift position] at before
  rw [Nat.sub_zero, continued, scanner.run_eq_shift position] at after
  exact ⟨front, position, continued, by rw [Scanner.tokens, before],
    by rw [Scanner.tokens, after], by rw [Scanner.rest, after]⟩

/-- The frames of a call are those the longer stream has in addition. -/
theorem Tracks.frames {stream : List Byte} {sync : SbfFrameSync}
    (tracks : Tracks stream sync) (bytes : List Byte) :
    framesOf (scanner.tokens (stream ++ bytes)) =
      framesOf (scanner.tokens stream) ++
        framesOf (scanner.tokens (sync.pending ++ bytes)) := by
  rcases tracks.tokens bytes with ⟨front, position, _, before, after, _⟩
  rw [before, after]
  simp only [framesOf_append, framesOf_shift, tracks.consistent.quiet, List.append_nil]

theorem SbfFrameSync.feedAll_eq {stream : List Byte} {sync : SbfFrameSync}
    (tracks : Tracks stream sync) (chunks : List (List Byte)) :
    ∃ final frames, sync.feedAll chunks = .ok (final, frames) ∧
      Tracks (stream ++ chunks.flatten) final ∧
      framesOf (scanner.tokens (stream ++ chunks.flatten)) =
        framesOf (scanner.tokens stream) ++ frames := by
  induction chunks generalizing stream sync with
  | nil => exact ⟨sync, [], rfl, by simpa using tracks, by simp⟩
  | cons chunk chunks induction =>
      have fed := feed_eq tracks.consistent chunk
      rcases induction (tracks.feed chunk (count sync.stats chunk)) with
        ⟨final, later, result, tracksFinal, frames⟩
      refine ⟨final, framesOf (scanner.tokens (sync.pending ++ chunk)) ++ later, ?_, ?_, ?_⟩
      · simp [SbfFrameSync.feedAll, fed, result]
      · simpa [List.append_assoc] using tracksFinal
      · rw [List.flatten_cons, ← List.append_assoc, frames, tracks.frames chunk,
          List.append_assoc]

theorem SbfFrameSync.feedAll_fresh (chunks : List (List Byte)) :
    ∃ final, fresh.feedAll chunks =
        .ok (final, framesOf (scanner.tokens chunks.flatten)) ∧
      Tracks chunks.flatten final := by
  rcases feedAll_eq Tracks.fresh chunks with ⟨final, frames, result, tracks, emitted⟩
  have initial : framesOf (scanner.tokens ([] : List Byte)) = [] :=
    Tracks.fresh.consistent.quiet
  rw [initial, List.nil_append, List.nil_append] at emitted
  exact ⟨final, emitted ▸ result, tracks⟩

theorem SbfFrameSync.feed_fresh (stream : List Byte) :
    fresh.feed stream = .ok
      (settle (count fresh.stats stream) stream, framesOf (scanner.tokens stream)) :=
  feed_eq Tracks.fresh.consistent stream

/-- The frames emitted for a stream do not depend on how it is cut into chunks. -/
theorem feed_chunking_independent (chunks : List (List Byte)) :
    ∃ chunked whole frames,
      SbfFrameSync.fresh.feedAll chunks = .ok (chunked, frames) ∧
      SbfFrameSync.fresh.feed chunks.flatten = .ok (whole, frames) := by
  rcases SbfFrameSync.feedAll_fresh chunks with ⟨chunked, result, _⟩
  exact ⟨chunked, _, _, result, SbfFrameSync.feed_fresh chunks.flatten⟩

/-! ## Sessions -/

inductive Op
  | feed (bytes : List Byte)
  | reset

structure Session where
  sync : SbfFrameSync
  received : List Byte
  emitted : List Frame

namespace Session

def fresh : Session := ⟨.fresh, [], []⟩

def apply (session : Session) : Op → Except Fault Session
  | .feed bytes => do
      let (sync, frames) ← session.sync.feed bytes
      return ⟨sync, session.received ++ bytes, session.emitted ++ frames⟩
  | .reset => .ok ⟨session.sync.reset, [], []⟩

def run (session : Session) (ops : List Op) : Except Fault Session :=
  ops.foldlM apply session

structure Sound (session : Session) : Prop where
  tracks : Tracks session.received session.sync
  emitted : session.emitted = framesOf (scanner.tokens session.received)

theorem sound_fresh : Sound fresh where
  tracks := Tracks.fresh
  emitted := Tracks.fresh.consistent.quiet.symm

theorem apply_feed {session : Session} (sound : session.Sound) (bytes : List Byte) :
    session.apply (.feed bytes) = .ok
      ⟨.settle (SbfFrameSync.count session.sync.stats bytes) (session.sync.pending ++ bytes),
        session.received ++ bytes,
        session.emitted ++
          framesOf (scanner.tokens (session.sync.pending ++ bytes))⟩ := by
  simp [apply, SbfFrameSync.feed_eq sound.tracks.consistent]

/-- No call faults, and every call keeps the session sound. -/
theorem apply_sound {session : Session} (sound : session.Sound) (op : Op) :
    ∃ next, session.apply op = .ok next ∧ next.Sound := by
  cases op with
  | feed bytes =>
      refine ⟨_, apply_feed sound bytes, sound.tracks.feed bytes _, ?_⟩
      rw [sound.emitted, sound.tracks.frames bytes]
  | reset => exact ⟨_, rfl, .reset _, Tracks.fresh.consistent.quiet.symm⟩

theorem run_sound {session : Session} (sound : session.Sound) (ops : List Op) :
    ∃ final, session.run ops = .ok final ∧ final.Sound := by
  induction ops generalizing session with
  | nil => exact ⟨session, rfl, sound⟩
  | cons op ops induction =>
      rcases apply_sound sound op with ⟨next, applied, soundNext⟩
      rcases induction soundNext with ⟨final, result, soundFinal⟩
      refine ⟨final, ?_, soundFinal⟩
      simpa [run, List.foldlM_cons, applied] using result

end Session

/-! ## No frame is lost -/

/-- The frames of a scanned stream with their offsets. -/
def locatedFrames (tokens : List (Token Event)) : List (Nat × Frame) :=
  tokens.filterMap fun token => token.event.frame?.map (token.start, ·)

theorem map_snd_locatedFrames (tokens : List (Token Event)) :
    (locatedFrames tokens).map Prod.snd = framesOf tokens := by
  simp only [locatedFrames, framesOf, List.map_filterMap]
  congr 1
  funext token
  cases token.event.frame? <;> rfl

theorem mem_locatedFrames {tokens : List (Token Event)} {offset : Nat} {frame : Frame} :
    (offset, frame) ∈ locatedFrames tokens ↔
      ∃ token ∈ tokens, token.start = offset ∧ token.event = .frame frame := by
  simp only [locatedFrames, List.mem_filterMap, Option.map_eq_some_iff, Prod.mk.injEq,
    Event.frame?_eq_some_iff]
  constructor
  · rintro ⟨token, member, _, event, start, rfl⟩
    exact ⟨token, member, start, event⟩
  · rintro ⟨token, member, start, event⟩
    exact ⟨token, member, frame, event, start, rfl⟩

theorem frameAt_of_mem_locatedFrames {stream : List Byte} {offset : Nat} {frame : Frame}
    (member : (offset, frame) ∈ locatedFrames (scanner.tokens stream)) :
    FrameAt stream offset frame := by
  rcases mem_locatedFrames.mp member with ⟨token, tokenMember, rfl, event⟩
  exact (frameAt_of_token tokenMember event).1

theorem locatedFrames_pairwise (stream : List Byte) :
    (locatedFrames (scanner.tokens stream)).Pairwise
      fun first second => first.1 + first.2.length.toNat ≤ second.1 := by
  have ordered := scanner.tokens_pairwise 0 stream
  rw [locatedFrames, List.pairwise_filterMap]
  refine ordered.imp_of_mem ?_
  intro first second firstMember secondMember apart left leftFound right rightFound
  rcases Option.map_eq_some_iff.mp leftFound with ⟨frame, event, rfl⟩
  rcases Option.map_eq_some_iff.mp rightFound with ⟨later, _, rfl⟩
  have whole := (frameAt_of_token firstMember (Event.frame?_eq_some_iff.mp event)).2
  rw [Token.stop, whole] at apart
  exact apart

/-- A valid frame that the largest frame size has passed by is one of the
tokens, or lies inside one. -/
theorem located_or_inside {stream : List Byte} {offset : Nat} {frame : Frame}
    (present : FrameAt stream offset frame) (passed : offset + 8188 ≤ stream.length) :
    (offset, frame) ∈ locatedFrames (scanner.tokens stream) ∨
      ∃ located ∈ locatedFrames (scanner.tokens stream),
        located.1 < offset ∧ offset < located.1 + located.2.length.toNat := by
  have waiting := length_of_waiting (scanner.verdict_rest 0 stream)
  rcases scanner.exists_token_of_lt 0 stream offset (Nat.zero_le _) (by omega) with
    ⟨token, member, after, before⟩
  have decided : verdict (stream.drop token.start) = some (token.size, token.event) := by
    simpa using (scanner.verdict_of_mem 0 stream token member).2.2
  rcases Nat.lt_or_eq_of_le after with inside | here
  · right
    cases found : token.event.frame? with
    | none =>
        have one := size_eq_one decided found
        simp only [Token.stop] at before
        omega
    | some emitted =>
        have event := Event.frame?_eq_some_iff.mp found
        have whole := (frameAt_of_token member event).2
        rw [Token.stop, whole] at before
        exact ⟨(token.start, emitted),
          mem_locatedFrames.mpr ⟨token, member, rfl, event⟩, inside, before⟩
  · left
    rw [here, verdict_frame_iff.mpr ⟨present, rfl⟩] at decided
    injection decided with decided
    injection decided with _ event
    exact mem_locatedFrames.mpr ⟨token, member, here, event.symm⟩

/-- Since construction or the last reset, every valid frame that lies 8188 bytes
back has been emitted, or starts inside an emitted frame. -/
theorem no_frame_lost (ops : List Op) :
    ∃ session, Session.fresh.run ops = .ok session ∧
      ∃ located : List (Nat × Frame),
        located.map Prod.snd = session.emitted ∧
        located.Pairwise (fun first second =>
          first.1 + first.2.length.toNat ≤ second.1) ∧
        (∀ emitted ∈ located, FrameAt session.received emitted.1 emitted.2) ∧
        ∀ offset frame, FrameAt session.received offset frame →
          offset + 8188 ≤ session.received.length →
          (offset, frame) ∈ located ∨
            ∃ emitted ∈ located, emitted.1 < offset ∧
              offset < emitted.1 + emitted.2.length.toNat := by
  rcases Session.run_sound Session.sound_fresh ops with ⟨session, result, sound⟩
  refine ⟨session, result, locatedFrames (scanner.tokens session.received), ?_, ?_, ?_, ?_⟩
  · rw [map_snd_locatedFrames, sound.emitted]
  · exact locatedFrames_pairwise session.received
  · rintro ⟨offset, frame⟩ member
    exact frameAt_of_mem_locatedFrames member
  · intro offset frame present passed
    exact located_or_inside present passed

end AsterxDriver.Sbf
