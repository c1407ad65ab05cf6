import AsterxDriver.Sbf.Session

/-! # Drop counters

A failing candidate is counted each time the synchronizer passes over it. The
bytes that a call keeps behind the last frame it emitted are passed over once
more by the next call. -/

namespace AsterxDriver.Sbf

open Foundation ByteString

def rejections (tokens : List (Token Event)) : Nat :=
  crcFailures tokens + lengthFailures tokens

theorem rejections_pos {tokens : List (Token Event)} :
    0 < rejections tokens ↔
      ∃ token ∈ tokens, token.event = .crcFailed ∨ token.event = .lengthInvalid := by
  rw [rejections, Nat.add_pos_iff_pos_or_pos, crcFailures, lengthFailures, List.countP_pos_iff,
    List.countP_pos_iff]
  constructor
  · rintro (⟨token, member, event⟩ | ⟨token, member, event⟩)
    · exact ⟨token, member, .inl (of_decide_eq_true event)⟩
    · exact ⟨token, member, .inr (of_decide_eq_true event)⟩
  · rintro ⟨token, member, event | event⟩
    · exact .inl ⟨token, member, decide_eq_true event⟩
    · exact .inr ⟨token, member, decide_eq_true event⟩

/-! ## Candidates behind the last frame -/

/-- In a stream without frames that is decided to its end, a candidate is
rejected exactly where the two sync bytes stand. -/
theorem rejections_pos_iff {input : List Byte} (decided : scanner.rest input = [])
    (quiet : framesOf (scanner.tokens input) = []) :
    0 < rejections (scanner.tokens input) ↔
      ∃ position, u8 input position = 0x24 ∧ u8 input (position + 1) = 0x40 := by
  constructor
  · intro positive
    rcases rejections_pos.mp positive with ⟨token, member, event⟩
    have verdictAt := (scanner.verdict_of_mem 0 input token member).2.2
    rw [Nat.sub_zero] at verdictAt
    rcases verdict_cases verdictAt with ⟨_, junk, _⟩ | ⟨first, second, _⟩
    · rw [junk] at event
      simp at event
    · rw [u8_drop] at first second
      exact ⟨token.start, first, second⟩
  · rintro ⟨position, first, second⟩
    have inside : position < input.length := by
      by_contra outside
      rw [u8, List.getD_eq_getElem?_getD, List.getElem?_eq_none (by omega)] at first
      exact absurd first (by decide)
    rcases scanner.exists_token_of_lt 0 input position (Nat.zero_le _)
      (by change position + (scanner.rest input).length < _; rw [decided]; simpa using inside)
      with ⟨token, member, after, before⟩
    have verdictAt := (scanner.verdict_of_mem 0 input token member).2.2
    rw [Nat.sub_zero] at verdictAt
    have skipped := frame?_of_framesOf_nil quiet member
    have one := size_eq_one verdictAt skipped
    have here : token.start = position := by
      rw [Token.stop] at before
      omega
    rcases verdict_cases verdictAt with ⟨_, _, _, mismatch⟩ |
      ⟨_, _, _, ⟨_, event, _⟩ | ⟨_, _, ⟨_, event, _⟩ | ⟨_, event, _⟩⟩⟩
    · simp only [u8_drop, here, Nat.add_zero] at mismatch
      omega
    · exact rejections_pos.mpr ⟨token, member, .inr event⟩
    · exact rejections_pos.mpr ⟨token, member, .inl event⟩
    · rw [event] at skipped
      cases skipped

theorem lastFrameStop_of_cut (otherwise : Nat) {front back : List (Token Event)}
    {token : Token Event} (emitted : token.event.frame?.isSome)
    (quiet : framesOf back = []) :
    lastFrameStop otherwise (front ++ [token] ++ back) = token.stop := by
  have last : ∀ stop, lastFrameStop stop back = stop := by
    intro stop
    rcases lastFrameStop_cases stop back with ⟨_, same⟩ | ⟨front, token, _, rfl, frame, _⟩
    · exact same
    · rw [framesOf_append, framesOf_append, List.append_eq_nil_iff,
        List.append_eq_nil_iff] at quiet
      rw [frame?_of_framesOf_nil quiet.1.2 List.mem_cons_self] at frame
      cases frame
  rcases Option.isSome_iff_exists.mp emitted with ⟨frame, event⟩
  rw [Event.frame?_eq_some_iff] at event
  rw [lastFrameStop, List.foldl_append, List.foldl_append]
  simp only [List.foldl_cons, List.foldl_nil, event]
  exact last token.stop

/-! ## Borders that make the next call count again -/

/-- When `chunk` is fed after `front`, everything is decided, frames are found,
and the two sync bytes stand somewhere behind the last of them. -/
structure Rescans (front chunk : List Byte) : Prop where
  decided : scanner.rest (front ++ chunk) = []
  emitted : (framesOf (scanner.tokens front)).length <
    (framesOf (scanner.tokens (front ++ chunk))).length
  behind : ∃ position, lastFrameStop 0 (scanner.tokens (front ++ chunk)) ≤ position ∧
    u8 (front ++ chunk) position = 0x24 ∧ u8 (front ++ chunk) (position + 1) = 0x40

/-- Where the last frame that a call has found ends in the stream. -/
theorem Tracks.lastFrameStop_eq {stream : List Byte} {sync : SbfFrameSync}
    (tracks : Tracks stream sync) {chunk : List Byte} {front back : List (Token Event)}
    {token : Token Event}
    (cut : scanner.tokens (sync.pending ++ chunk) = front ++ [token] ++ back)
    (emitted : token.event.frame?.isSome) (quiet : framesOf back = []) :
    ∃ distance, (stream ++ chunk).drop distance = sync.pending ++ chunk ∧
      lastFrameStop 0 (scanner.tokens (stream ++ chunk)) = distance + token.stop := by
  rcases tracks.tokens chunk with ⟨before, distance, continued, _, after, _⟩
  have shifted : framesOf (back.map (Token.shift distance)) = [] := by
    rw [framesOf_shift, quiet]
  refine ⟨distance, continued, ?_⟩
  rw [after, cut, List.map_append, List.map_append, ← List.append_assoc, ← List.append_assoc,
    ← Token.shift_stop]
  exact lastFrameStop_of_cut 0 emitted shifted

/-- What a call keeps holds a rejected candidate exactly at such a border. -/
theorem rejections_pending_pos_iff {stream : List Byte} {sync : SbfFrameSync}
    (tracks : Tracks stream sync) (chunk : List Byte) (stats : FrameSyncStats) :
    0 < rejections (scanner.tokens
        (SbfFrameSync.settle stats (sync.pending ++ chunk)).pending) ↔
      Rescans stream chunk := by
  rcases tracks.tokens chunk with ⟨_, _, _, _, _, rest⟩
  have frames := tracks.frames chunk
  rcases SbfFrameSync.settle_cases stats (sync.pending ++ chunk) with ⟨waiting, settled⟩ |
    ⟨_, quiet, settled⟩ | ⟨front, token, back, decided, cut, emitted, quiet, _, settled⟩
  · have nothing : scanner.tokens (scanner.rest (sync.pending ++ chunk)) = [] :=
      scanner.tokens_of_none (scanner.verdict_rest 0 (sync.pending ++ chunk))
    rw [settled]
    change 0 < rejections (scanner.tokens (scanner.rest (sync.pending ++ chunk))) ↔ _
    rw [nothing]
    constructor
    · intro positive
      exact absurd positive (Nat.lt_irrefl 0)
    · intro rescans
      exact absurd (rest.symm.trans rescans.decided) waiting
  · rw [settled, SbfFrameSync.pending, List.drop_nil, scanner.tokens_of_none rfl]
    constructor
    · intro positive
      exact absurd positive (Nat.lt_irrefl 0)
    · intro rescans
      have more := rescans.emitted
      rw [frames, quiet, List.append_nil] at more
      exact absurd more (Nat.lt_irrefl _)
  · rcases tracks.lastFrameStop_eq cut emitted quiet with ⟨distance, continued, last⟩
    have scanned := SbfFrameSync.scanned_of_cut cut quiet
    rw [← continued, List.drop_drop, continued, decided] at scanned
    have found : 0 < (framesOf (scanner.tokens (sync.pending ++ chunk))).length := by
      have member : token ∈ scanner.tokens (sync.pending ++ chunk) := by simp [cut]
      rcases Option.isSome_iff_exists.mp emitted with ⟨frame, event⟩
      exact List.length_pos_of_mem (List.mem_filterMap.mpr ⟨token, member, event⟩)
    rw [settled, SbfFrameSync.pending, ← continued, List.drop_drop,
      rejections_pos_iff scanned.2.2 scanned.2.1]
    constructor
    · rintro ⟨position, first, second⟩
      rw [u8_drop] at first second
      refine ⟨by rw [rest, decided], by rw [frames, List.length_append]; omega,
        distance + token.stop + position, by omega, first, second⟩
    · rintro ⟨_, _, position, behind, first, second⟩
      rw [last] at behind
      refine ⟨position - (distance + token.stop), ?_, ?_⟩
      · rw [u8_drop, Nat.add_sub_cancel' behind, first]
      · rw [u8_drop, ← Nat.add_assoc, Nat.add_sub_cancel' behind, second]

/-! ## Whole runs -/

/-- No border between two calls makes the second one count again. -/
def CleanBorders (stream : List Byte) (chunks : List (List Byte)) : Prop :=
  ∀ before chunk after, chunks = before ++ chunk :: after → after ≠ [] →
    ¬ Rescans (stream ++ before.flatten) chunk

theorem cleanBorders_cons (stream chunk : List Byte) (chunks : List (List Byte)) :
    CleanBorders stream (chunk :: chunks) ↔
      (chunks ≠ [] → ¬ Rescans stream chunk) ∧ CleanBorders (stream ++ chunk) chunks := by
  constructor
  · intro clean
    refine ⟨fun more => ?_, fun before next after split more => ?_⟩
    · simpa using clean [] chunk chunks rfl more
    · have here := clean (chunk :: before) next after (by rw [split]; rfl) more
      rwa [List.flatten_cons, ← List.append_assoc] at here
  · rintro ⟨first, later⟩ before next after split more
    cases before with
    | nil =>
        injection split with same rest
        subst same rest
        simpa using first more
    | cons head tail =>
        injection split with same rest
        subst same
        rw [List.flatten_cons, ← List.append_assoc]
        exact later tail next after rest more

theorem crcFailures_append (front back : List (Token Event)) :
    crcFailures (front ++ back) = crcFailures front + crcFailures back :=
  List.countP_append

theorem lengthFailures_append (front back : List (Token Event)) :
    lengthFailures (front ++ back) = lengthFailures front + lengthFailures back :=
  List.countP_append

theorem crcFailures_shift (distance : Nat) (tokens : List (Token Event)) :
    crcFailures (tokens.map (Token.shift distance)) = crcFailures tokens :=
  List.countP_map

theorem lengthFailures_shift (distance : Nat) (tokens : List (Token Event)) :
    lengthFailures (tokens.map (Token.shift distance)) = lengthFailures tokens :=
  List.countP_map

/-- How far the counters after a run are ahead of the failures of the stream. -/
theorem feedAll_counters {stream : List Byte} {sync final : SbfFrameSync}
    {frames : List Frame} (tracks : Tracks stream sync) (chunks : List (List Byte))
    (fed : sync.feedAll chunks = .ok (final, frames)) :
    ∃ crcAgain lengthAgain,
      final.stats.crcFailed + crcFailures (scanner.tokens stream) =
        sync.stats.crcFailed +
          crcFailures (scanner.tokens (stream ++ chunks.flatten)) + crcAgain ∧
      final.stats.lengthInvalid + lengthFailures (scanner.tokens stream) =
        sync.stats.lengthInvalid +
          lengthFailures (scanner.tokens (stream ++ chunks.flatten)) + lengthAgain ∧
      final.stats.resyncs + (sync.stats.crcFailed + sync.stats.lengthInvalid) =
        sync.stats.resyncs + (final.stats.crcFailed + final.stats.lengthInvalid) ∧
      (crcAgain + lengthAgain = 0 ↔
        (chunks ≠ [] → rejections (scanner.tokens sync.pending) = 0) ∧
          CleanBorders stream chunks) := by
  induction chunks generalizing stream sync frames with
  | nil =>
      cases fed
      refine ⟨0, 0, by simp, by simp, rfl, ?_⟩
      refine ⟨fun _ => ⟨fun more => absurd rfl more, ?_⟩, fun _ => rfl⟩
      intro before chunk after split
      simp at split
  | cons chunk chunks induction =>
      rw [SbfFrameSync.feedAll, SbfFrameSync.feed_eq tracks.consistent chunk,
        Checked.ok_bind] at fed
      rcases Checked.bind_eq_ok.mp fed with ⟨⟨last, later⟩, fedLater, result⟩
      cases result
      rcases induction (tracks.feed chunk _) fedLater with
        ⟨crcAgain, lengthAgain, crc, length, resyncs, exact⟩
      rcases tracks.tokens chunk with ⟨front, distance, _, before, after, _⟩
      have crcBefore := congrArg crcFailures before
      have crcAfter := congrArg crcFailures after
      have lengthBefore := congrArg lengthFailures before
      have lengthAfter := congrArg lengthFailures after
      simp only [crcFailures_append, crcFailures_shift] at crcBefore crcAfter
      simp only [lengthFailures_append, lengthFailures_shift] at lengthBefore lengthAfter
      rcases SbfFrameSync.settle_counters sync.stats chunk (sync.pending ++ chunk) with
        ⟨crcCounted, lengthCounted, resyncsCounted⟩
      rw [List.flatten_cons, ← List.append_assoc]
      refine ⟨crcAgain + crcFailures (scanner.tokens sync.pending),
        lengthAgain + lengthFailures (scanner.tokens sync.pending),
        by omega, by omega, by omega, ?_⟩
      have border := rejections_pending_pos_iff tracks chunk
        (SbfFrameSync.count sync.stats chunk)
      rw [cleanBorders_cons, ← border, Nat.not_lt, Nat.le_zero, ← exact, rejections]
      constructor
      · intro zero
        exact ⟨fun _ => by omega, by omega⟩
      · rintro ⟨here, later⟩
        have := here (List.cons_ne_nil _ _)
        omega

/-- From a fresh synchronizer: against one call that receives everything. -/
theorem feedAll_fresh_counters (chunks : List (List Byte)) {final : SbfFrameSync}
    {frames : List Frame} (fed : SbfFrameSync.fresh.feedAll chunks = .ok (final, frames))
    {whole : SbfFrameSync} {wholeFrames : List Frame}
    (fedWhole : SbfFrameSync.fresh.feed chunks.flatten = .ok (whole, wholeFrames)) :
    ∃ crcAgain lengthAgain,
      final.stats.crcFailed = whole.stats.crcFailed + crcAgain ∧
      final.stats.lengthInvalid = whole.stats.lengthInvalid + lengthAgain ∧
      final.stats.resyncs = final.stats.crcFailed + final.stats.lengthInvalid ∧
      whole.stats.resyncs = whole.stats.crcFailed + whole.stats.lengthInvalid ∧
      (crcAgain + lengthAgain = 0 ↔ CleanBorders [] chunks) := by
  rw [SbfFrameSync.feed_fresh] at fedWhole
  cases fedWhole
  rcases feedAll_counters Tracks.fresh chunks fed with
    ⟨crcAgain, lengthAgain, crc, length, resyncs, clean⟩
  rcases SbfFrameSync.settle_counters SbfFrameSync.fresh.stats chunks.flatten chunks.flatten with
    ⟨wholeCrc, wholeLength, wholeResyncs⟩
  have nothing : scanner.tokens ([] : List Byte) = [] := scanner.tokens_of_none rfl
  have noCrc : crcFailures ([] : List (Token Event)) = 0 := rfl
  have noLength : lengthFailures ([] : List (Token Event)) = 0 := rfl
  have zeroCrc : SbfFrameSync.fresh.stats.crcFailed = 0 := rfl
  have zeroLength : SbfFrameSync.fresh.stats.lengthInvalid = 0 := rfl
  have zeroResyncs : SbfFrameSync.fresh.stats.resyncs = 0 := rfl
  rw [nothing, List.nil_append] at crc length
  refine ⟨crcAgain, lengthAgain, by omega, by omega, by omega, by omega, ?_⟩
  rw [clean]
  refine and_iff_right fun _ => ?_
  rw [show SbfFrameSync.fresh.pending = [] from rfl, nothing]
  rfl

end AsterxDriver.Sbf
