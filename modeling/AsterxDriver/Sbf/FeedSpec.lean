import AsterxDriver.Sbf.LoopRefinement

/-! # One call of feed

Between calls the synchronizer keeps the bytes that wait for more input. After
a call that emitted a frame and ended idle it also keeps what it has already
passed over behind that frame. -/

namespace AsterxDriver.Sbf

open Foundation ByteString

/-! ## Ledgers of a whole scan -/

def tally (stats : FrameSyncStats) (tokens : List (Token Event)) : FrameSyncStats :=
  tokens.foldl (fun stats token => stats.record token.event) stats

/-- End of the last frame, or `otherwise` when there is none. -/
def lastFrameStop (otherwise : Nat) (tokens : List (Token Event)) : Nat :=
  tokens.foldl (fun stop token => match token.event with
    | .frame _ => token.stop
    | _ => stop) otherwise

theorem foldl_absorb (tokens : List (Token Event)) (ledger : Ledger) :
    tokens.foldl Ledger.absorb ledger =
      ⟨lastFrameStop ledger.frameDrain tokens, tally ledger.stats tokens,
        ledger.out ++ framesOf tokens⟩ := by
  induction tokens generalizing ledger with
  | nil => simp [lastFrameStop, tally]
  | cons head tail induction =>
      rw [List.foldl_cons, induction]
      simp only [Ledger.absorb, lastFrameStop, tally, List.foldl_cons, framesOf,
        List.append_assoc]
      cases event : head.event <;> simp [event, Event.frame?]

/-- Splitting the tokens of a scan at the last frame. -/
theorem lastFrameStop_cases (otherwise : Nat) (tokens : List (Token Event)) :
    (framesOf tokens = [] ∧ lastFrameStop otherwise tokens = otherwise) ∨
    (∃ front token back, tokens = front ++ [token] ++ back ∧
      token.event.frame?.isSome ∧ framesOf back = [] ∧
      lastFrameStop otherwise tokens = token.stop) := by
  induction tokens generalizing otherwise with
  | nil => exact .inl ⟨rfl, rfl⟩
  | cons head tail induction =>
      cases event : head.event with
      | frame emitted =>
          rcases induction head.stop with ⟨none, stop⟩ | ⟨front, token, back, rfl, rest⟩
          · refine .inr ⟨[], head, tail, rfl, by simp [event, Event.frame?], none, ?_⟩
            simpa [lastFrameStop, event] using stop
          · refine .inr ⟨head :: front, token, back, rfl, rest.1, rest.2.1, ?_⟩
            simpa [lastFrameStop, event] using rest.2.2
      | junk | lengthInvalid | crcFailed =>
          rcases induction otherwise with ⟨none, stop⟩ | ⟨front, token, back, rfl, rest⟩
          · refine .inl ⟨?_, ?_⟩
            · simpa [framesOf, event, Event.frame?] using none
            · simpa [lastFrameStop, event] using stop
          · refine .inr ⟨head :: front, token, back, rfl, rest.1, rest.2.1, ?_⟩
            simpa [lastFrameStop, event] using rest.2.2

theorem framesOf_shift (distance : Nat) (tokens : List (Token Event)) :
    framesOf (tokens.map (Token.shift distance)) = framesOf tokens := by
  simp [framesOf, List.filterMap_map, Function.comp_def]

def crcFailures (tokens : List (Token Event)) : Nat :=
  tokens.countP fun token => token.event = .crcFailed

def lengthFailures (tokens : List (Token Event)) : Nat :=
  tokens.countP fun token => token.event = .lengthInvalid

/-- The counters after a scan, in terms of its tokens. -/
theorem tally_counters (stats : FrameSyncStats) (tokens : List (Token Event)) :
    (tally stats tokens).crcFailed = stats.crcFailed + crcFailures tokens ∧
      (tally stats tokens).lengthInvalid = stats.lengthInvalid + lengthFailures tokens ∧
      (tally stats tokens).resyncs =
        stats.resyncs + (crcFailures tokens + lengthFailures tokens) := by
  induction tokens generalizing stats with
  | nil => exact ⟨rfl, rfl, rfl⟩
  | cons head tail induction =>
      have later := induction (stats.record head.event)
      rw [tally, List.foldl_cons, ← tally]
      simp only [crcFailures, lengthFailures, List.countP_cons] at later ⊢
      rw [later.1, later.2.1, later.2.2]
      cases head.event <;> simp only [FrameSyncStats.record] <;> simp <;> omega

theorem record_framesEmitted (stats : FrameSyncStats) (event : Event) :
    (stats.record event).framesEmitted = stats.framesEmitted + event.frame?.toList.length := by
  cases event <;> rfl

theorem framesOf_cons (head : Token Event) (tail : List (Token Event)) :
    framesOf (head :: tail) = head.event.frame?.toList ++ framesOf tail := by
  rw [framesOf, List.filterMap_cons, ← framesOf]
  cases head.event.frame? <;> rfl

theorem tally_framesEmitted (stats : FrameSyncStats) (tokens : List (Token Event)) :
    (tally stats tokens).framesEmitted = stats.framesEmitted + (framesOf tokens).length := by
  induction tokens generalizing stats with
  | nil => rfl
  | cons head tail induction =>
      rw [tally, List.foldl_cons, ← tally, induction, record_framesEmitted, framesOf_cons,
        List.length_append, Nat.add_assoc]

/-! ## The synchronizer between calls -/

namespace SbfFrameSync

/-- The bytes that the next call looks at again. -/
def pending (sync : SbfFrameSync) : List Byte := sync.buf.drop sync.frameDrain

structure Consistent (sync : SbfFrameSync) : Prop where
  drained : sync.frameDrain ≤ sync.buf.length
  busy : sync.state ≠ .idle → sync.frameDrain = 0 ∧ verdict sync.buf = none ∧
    sync.state = pendingState sync.buf
  empty : sync.state = .idle → sync.frameDrain = 0 → sync.buf = []
  scanned : sync.state = .idle → scanner.rest sync.pending = [] ∧
    framesOf (scanner.tokens sync.pending) = []

/-- The synchronizer after a call that has looked at `buf`. -/
def settle (stats : FrameSyncStats) (buf : List Byte) : SbfFrameSync :=
  if scanner.rest buf ≠ [] then
    ⟨scanner.rest buf, pendingState (scanner.rest buf), tally stats (scanner.tokens buf), 0⟩
  else if lastFrameStop 0 (scanner.tokens buf) = 0 then
    ⟨[], .idle, tally stats (scanner.tokens buf), 0⟩
  else
    ⟨buf, .idle, tally stats (scanner.tokens buf), lastFrameStop 0 (scanner.tokens buf)⟩

def count (stats : FrameSyncStats) (bytes : List Byte) : FrameSyncStats :=
  { stats with bytesConsumed := stats.bytesConsumed + bytes.length }

theorem drainEmitted_eq {sync : SbfFrameSync} (consistent : sync.Consistent) :
    drainEmitted sync = .ok sync.pending := by
  unfold drainEmitted pending
  split
  · rw [if_pos consistent.drained, eraseFront_eq_ok consistent.drained]
  · rename_i none
    rw [show sync.frameDrain = 0 by omega, List.drop_zero]

theorem pendingState_eq_idle_iff (rest : List Byte) :
    pendingState rest = .idle ↔ rest = [] := by
  unfold pendingState
  split_ifs with empty
  · simpa using empty
  all_goals simp_all

/-- A waiting candidate is still a candidate when bytes are appended. -/
theorem candidate_of_waiting {buf : List Byte} (waiting : verdict buf = none)
    (bytes : List Byte) : Candidate (buf ++ bytes) 0 (pendingState buf) := by
  have total : (buf ++ bytes).length = buf.length + bytes.length := List.length_append
  rcases verdict_none_cases waiting with empty |
    ⟨nonempty, first, one | ⟨two, second, header | ⟨header, valid, _⟩⟩⟩
  · simp [pendingState, empty, Candidate]
  · rw [pendingState, if_neg (by omega), if_pos (by omega)]
    exact ⟨by omega, by rw [u8_append_left buf bytes nonempty, first]⟩
  · rw [pendingState, if_neg (by omega), if_neg (by omega), if_pos header]
    exact ⟨by omega, by rw [u8_append_left buf bytes nonempty, first],
      by rw [u8_append_left buf bytes two, second]⟩
  · rw [pendingState, if_neg (by omega), if_neg (by omega), if_neg (by omega)]
    exact ⟨by omega, by rw [u8_append_left buf bytes nonempty, first],
      by rw [u8_append_left buf bytes two, second],
      by rwa [Nat.zero_add, u16le_append_left buf bytes (by omega)]⟩

theorem persist_eq {buf : List Byte} {final : Loop} {stats : FrameSyncStats}
    (stalled : Stalled buf final (outcome 0 buf ⟨0, stats, []⟩)) :
    persist buf final = .ok (settle stats buf) := by
  have ledger := stalled.ledger
  have rest : buf.drop final.cursor = scanner.rest buf := stalled.rest
  have state : final.state = pendingState (scanner.rest buf) := stalled.state
  have inside := stalled.inside
  have drained := stalled.drained
  simp only [outcome, foldl_absorb, List.nil_append] at ledger
  injection ledger with drainEqual statsEqual outEqual
  change final.frameDrain = lastFrameStop 0 (scanner.tokens buf) at drainEqual
  change final.stats = tally stats (scanner.tokens buf) at statsEqual
  by_cases waiting : scanner.rest buf = []
  · have idle : final.state = .idle := by
      rw [state, waiting]
      rfl
    have position : final.pos = buf.length := by
      rw [waiting, List.drop_eq_nil_iff] at rest
      simp only [Loop.cursor, idle] at rest inside
      omega
    rw [settle, if_neg (not_not.mpr waiting), ← drainEqual, ← statsEqual]
    simp only [persist, idle, ne_eq, not_true_eq_false, if_false]
    by_cases kept : final.frameDrain = 0
    · simp only [if_pos kept, position]
      by_cases nonempty : buf.length > 0
      · rw [if_pos ⟨nonempty, Nat.le_refl _⟩, eraseFront_eq_ok (Nat.le_refl _)]
        simp [kept]
      · have empty : buf = [] := List.eq_nil_of_length_eq_zero (by omega)
        rw [if_neg (by omega), empty, kept]
        rfl
    · rw [if_neg kept, if_neg kept]
      rfl
  · have busy : final.state ≠ .idle := by
      rw [state]
      exact mt (pendingState_eq_idle_iff _).mp waiting
    have cursor := final.cursor_of_busy busy
    rw [cursor] at rest inside drained
    rw [settle, if_pos waiting]
    simp only [persist]
    rw [if_pos busy]
    by_cases moved : final.frameStart > 0
    · rw [if_pos moved, if_pos drained, eraseFront_eq_ok inside, rest, statsEqual, state]
      rfl
    · have zero : final.frameStart = 0 := by omega
      rw [if_neg moved, show final.frameDrain = 0 by omega, statsEqual, state, ← rest, zero,
        List.drop_zero, Checked.pure_eq_ok]

/-- The whole effect of a call. -/
theorem feed_eq {sync : SbfFrameSync} (consistent : sync.Consistent)
    (bytes : List Byte) :
    sync.feed bytes = .ok
      (settle (count sync.stats bytes) (sync.pending ++ bytes),
        framesOf (scanner.tokens (sync.pending ++ bytes))) := by
  let loop : Loop :=
    { state := sync.state, pos := 0, frameStart := 0, frameDrain := 0,
      stats := count sync.stats bytes, out := [] }
  have cursor : loop.cursor = 0 := by
    simp only [Loop.cursor]
    split <;> rfl
  have good : Good (sync.pending ++ bytes) loop := by
    refine ⟨Nat.zero_le _, ?_⟩
    rw [cursor]
    change Candidate _ _ sync.state
    by_cases idle : sync.state = .idle
    · rw [idle]
      exact Nat.zero_le _
    · rcases consistent.busy idle with ⟨noDrain, waiting, state⟩
      rw [state, pending, noDrain, List.drop_zero]
      exact candidate_of_waiting waiting bytes
  rcases runLoop_refines good with ⟨final, result, stalled⟩
  have foretold : foretell (sync.pending ++ bytes) loop =
      outcome 0 (sync.pending ++ bytes) ⟨0, count sync.stats bytes, []⟩ := by
    rw [foretell, cursor, List.drop_zero]
    rfl
  rw [foretold] at stalled
  have out : final.out = framesOf (scanner.tokens (sync.pending ++ bytes)) := by
    have ledger := congrArg Ledger.out stalled.ledger
    simp only [outcome, foldl_absorb, List.nil_append] at ledger
    exact ledger
  have ran : runLoop (sync.pending ++ bytes)
      { state := sync.state, pos := 0, frameStart := 0, frameDrain := 0,
        stats := { sync.stats with
          bytesConsumed := sync.stats.bytesConsumed + bytes.length },
        out := [] } = .ok final := result
  simp only [feed, drainEmitted_eq consistent, Checked.ok_bind, ran, persist_eq stalled,
    out]
  rfl

/-! ## What a call leaves behind -/

theorem stop_le_length {buf : List Byte} {token : Token Event}
    (member : token ∈ scanner.tokens buf) : token.stop ≤ buf.length := by
  have within := (scanner.verdict_of_mem 0 buf token member).2.1
  omega

/-- Behind the last frame of a fully decided buffer nothing is left to emit. -/
theorem scanned_of_cut {buf : List Byte} {front back : List (Token Event)}
    {token : Token Event} (cut : scanner.tokens buf = front ++ [token] ++ back)
    (quiet : framesOf back = []) :
    scanner.Decides 0 buf (front ++ [token]) token.stop ∧
      framesOf (scanner.tokens (buf.drop token.stop)) = [] ∧
      scanner.rest (buf.drop token.stop) = scanner.rest buf := by
  rcases scanner.decides_of_run cut with ⟨position, decides, later⟩
  have position := decides.position_eq_stop
  subst position
  rw [Nat.sub_zero, scanner.run_eq_shift] at later
  injection later with tokens rest
  refine ⟨decides, ?_, rest⟩
  rw [← framesOf_shift token.stop, tokens, quiet]

/-- What a call leaves behind: a candidate that waits for more bytes, nothing, or
the buffer up to the last frame as what is to be drained. -/
theorem settle_cases (stats : FrameSyncStats) (buf : List Byte) :
    (scanner.rest buf ≠ [] ∧ settle stats buf =
      ⟨scanner.rest buf, pendingState (scanner.rest buf), tally stats (scanner.tokens buf), 0⟩) ∨
    (scanner.rest buf = [] ∧ framesOf (scanner.tokens buf) = [] ∧
      settle stats buf = ⟨[], .idle, tally stats (scanner.tokens buf), 0⟩) ∨
    (∃ front token back, scanner.rest buf = [] ∧
      scanner.tokens buf = front ++ [token] ++ back ∧ token.event.frame?.isSome ∧
      framesOf back = [] ∧ 0 < token.stop ∧
      settle stats buf = ⟨buf, .idle, tally stats (scanner.tokens buf), token.stop⟩) := by
  by_cases waiting : scanner.rest buf = []
  · rcases lastFrameStop_cases 0 (scanner.tokens buf) with ⟨quiet, zero⟩ |
      ⟨front, token, back, cut, emitted, quiet, stop⟩
    · right
      left
      rw [settle, if_neg (not_not.mpr waiting), if_pos zero]
      exact ⟨waiting, quiet, rfl⟩
    · have member : token ∈ scanner.tokens buf := by simp [cut]
      have size := scanner.positive (scanner.verdict_of_mem 0 buf token member).2.2
      have positive : 0 < token.stop := Nat.lt_of_lt_of_le size (Nat.le_add_left _ _)
      right
      right
      rw [settle, if_neg (not_not.mpr waiting), stop, if_neg (Nat.ne_of_gt positive)]
      exact ⟨front, token, back, waiting, cut, emitted, quiet, positive, rfl⟩
  · left
    rw [settle, if_pos waiting]
    exact ⟨waiting, rfl⟩

theorem settle_consistent (stats : FrameSyncStats) (buf : List Byte) :
    (settle stats buf).Consistent := by
  rcases settle_cases stats buf with ⟨waiting, settled⟩ | ⟨_, _, settled⟩ |
    ⟨front, token, back, decided, cut, _, quiet, positive, settled⟩
  · rw [settled]
    exact
      { drained := Nat.zero_le _
        busy := fun _ => ⟨rfl, scanner.verdict_rest 0 buf, rfl⟩
        empty := fun idle _ => (pendingState_eq_idle_iff _).mp idle
        scanned := fun idle =>
          absurd ((pendingState_eq_idle_iff _).mp idle) waiting }
  · rw [settled]
    exact
      { drained := Nat.zero_le _
        busy := fun busy => absurd rfl busy
        empty := fun _ _ => rfl
        scanned := fun _ => by
          rw [pending, List.drop_nil, scanner.rest_of_none rfl, scanner.tokens_of_none rfl]
          exact ⟨rfl, rfl⟩ }
  · have member : token ∈ scanner.tokens buf := by simp [cut]
    have behind := scanned_of_cut cut quiet
    rw [settled]
    exact
      { drained := stop_le_length member
        busy := fun busy => absurd rfl busy
        empty := fun _ zero => absurd zero (Nat.ne_of_gt positive)
        scanned := fun _ => ⟨behind.2.2.trans decided, behind.2.1⟩ }

theorem settle_stats (stats : FrameSyncStats) (buf : List Byte) :
    (settle stats buf).stats = tally stats (scanner.tokens buf) := by
  unfold settle
  split_ifs <;> rfl

/-- The drop counters after a call. -/
theorem settle_counters (stats : FrameSyncStats) (bytes buf : List Byte) :
    (settle (count stats bytes) buf).stats.crcFailed =
        stats.crcFailed + crcFailures (scanner.tokens buf) ∧
      (settle (count stats bytes) buf).stats.lengthInvalid =
        stats.lengthInvalid + lengthFailures (scanner.tokens buf) ∧
      (settle (count stats bytes) buf).stats.resyncs = stats.resyncs +
        (crcFailures (scanner.tokens buf) + lengthFailures (scanner.tokens buf)) := by
  rw [settle_stats]
  exact tally_counters (count stats bytes) _

theorem length_rest_of_settle {stats : FrameSyncStats} {buf : List Byte}
    (complete : (settle stats buf).state ≠ .readingBody) :
    (scanner.rest buf).length < 8 := by
  by_cases waiting : scanner.rest buf = []
  · rw [waiting]
    simp
  · rw [settle, if_pos waiting] at complete
    simp only [pendingState] at complete
    split_ifs at complete <;> first | omega | contradiction

/-- What is kept starts at a token border of the buffer. -/
theorem settle_pending (stats : FrameSyncStats) (buf : List Byte) :
    ∃ front position, scanner.Decides 0 buf front position ∧
      (settle stats buf).pending = buf.drop position := by
  have all : ∃ front position, scanner.Decides 0 buf front position ∧
      scanner.rest buf = buf.drop position := by
    rcases scanner.decides_of_run (List.append_nil (scanner.run 0 buf).1).symm with
      ⟨position, decides, later⟩
    refine ⟨_, position, decides, ?_⟩
    have kept := scanner.rest_eq_of_tokens_eq_nil (congrArg Prod.fst later)
    rw [later, Nat.sub_zero] at kept
    exact kept
  rcases settle_cases stats buf with ⟨_, settled⟩ | ⟨decided, _, settled⟩ |
    ⟨front, token, back, _, cut, _, quiet, _, settled⟩
  · rw [settled]
    exact all
  · rw [settled]
    rw [decided] at all
    exact all
  · rw [settled]
    exact ⟨_, _, (scanned_of_cut cut quiet).1, rfl⟩

end SbfFrameSync

end AsterxDriver.Sbf
