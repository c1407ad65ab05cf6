import AsterxDriver.Sbf.FrameScan
import Mathlib.Data.List.GetD

/-! # The state machine refines the scanner

From any good loop state the state machine ends where the scanner ends and has
counted and emitted what the scanner's tokens say. -/

namespace AsterxDriver.Sbf

open Foundation ByteString

/-! ## Checked reads inside the buffer -/

theorem byteAt_eq_ok {buf : List Byte} {index : Nat} (inside : index < buf.length) :
    byteAt buf index = .ok (buf.getD index 0) := by
  simp [byteAt, List.getD_eq_getElem?_getD, List.getElem?_eq_getElem inside]

theorem bufU16le_eq_ok (buf : List Byte) (offset : Nat)
    (inside : offset + 1 < buf.length) :
    bufU16le buf offset = .ok (BitVec.ofNat 16 (u16le buf offset)) := by
  simp only [bufU16le, byteAt_eq_ok (show offset < buf.length by omega),
    byteAt_eq_ok inside, Checked.ok_bind, Checked.pure_eq_ok]
  congr 1
  apply BitVec.eq_of_toNat_eq
  have low := (buf.getD offset 0).isLt
  have high := (buf.getD (offset + 1) 0).isLt
  rw [BitVec.toNat_or, BitVec.toNat_shiftLeft, BitVec.toNat_setWidth,
    BitVec.toNat_setWidth, Nat.mod_eq_of_lt (by omega), Nat.mod_eq_of_lt (by omega),
    Nat.shiftLeft_eq, Nat.mod_eq_of_lt (by omega), Nat.or_comm, Nat.mul_comm,
    ← Nat.two_pow_add_eq_or_of_lt low]
  simp only [BitVec.toNat_ofNat, u16le, u8]
  omega

theorem copyBytes_eq_ok (buf : List Byte) (offset count : Nat)
    (inside : offset + count ≤ buf.length) :
    copyBytes buf offset count = .ok (slice buf offset (offset + count)) := by
  induction count generalizing offset with
  | zero => simp [copyBytes, slice]
  | succ count induction =>
      have bound : offset < buf.length := by omega
      rw [copyBytes, byteAt_eq_ok bound, induction (offset + 1) (by omega)]
      simp only [Checked.ok_bind, Checked.pure_eq_ok, slice_eq_take_drop]
      rw [List.drop_eq_getElem_cons bound, List.getD_eq_getElem _ _ bound,
        show offset + 1 + count - (offset + 1) = count by omega,
        show offset + (count + 1) - offset = count + 1 by omega, List.take_succ_cons]

theorem eraseFront_eq_ok {buf : List Byte} {count : Nat} (inside : count ≤ buf.length) :
    eraseFront buf count = .ok (buf.drop count) := if_pos inside

theorem lengthField_valid_iff (buf : List Byte) (offset : Nat) :
    (BitVec.ofNat 16 (u16le buf offset) % 4 ≠ 0 ∨
      BitVec.ofNat 16 (u16le buf offset) < 8 ∨
      BitVec.ofNat 16 (u16le buf offset) > kMaxSbfLength) ↔
      ¬ ValidLength (u16le buf offset) := by
  have remainder : BitVec.ofNat 16 (u16le buf offset) % 4 ≠ 0 ↔
      u16le buf offset % 4 ≠ 0 := by
    rw [Ne, ← BitVec.toNat_inj, BitVec.toNat_umod]
    simp
  have least : BitVec.ofNat 16 (u16le buf offset) < 8 ↔ u16le buf offset < 8 := by
    rw [BitVec.lt_def]
    simp
  have most : BitVec.ofNat 16 (u16le buf offset) > kMaxSbfLength ↔
      8188 < u16le buf offset := by
    rw [gt_iff_lt, BitVec.lt_def]
    simp [kMaxSbfLength]
  rw [remainder, least, most]
  constructor
  · intro invalid valid
    have := valid.multiple
    have := valid.least
    have := valid.most
    omega
  · intro invalid
    by_contra allowed
    exact invalid ⟨by omega, by omega, by omega⟩

/-! ## What the loop accumulates -/

def FrameSyncStats.record (stats : FrameSyncStats) : Event → FrameSyncStats
  | .junk => stats
  | .lengthInvalid => { stats with
      lengthInvalid := stats.lengthInvalid + 1, resyncs := stats.resyncs + 1 }
  | .crcFailed => { stats with
      crcFailed := stats.crcFailed + 1, resyncs := stats.resyncs + 1 }
  | .frame _ => { stats with framesEmitted := stats.framesEmitted + 1 }

/-- The accumulating variables of the loop. -/
structure Ledger where
  frameDrain : Nat
  stats : FrameSyncStats
  out : List Frame

def Loop.ledger (loop : Loop) : Ledger := ⟨loop.frameDrain, loop.stats, loop.out⟩

def Ledger.absorb (ledger : Ledger) (token : Token Event) : Ledger where
  frameDrain := match token.event with
    | .frame _ => token.stop
    | _ => ledger.frameDrain
  stats := ledger.stats.record token.event
  out := ledger.out ++ token.event.frame?.toList

/-- What scanning `input` from `start` adds to a ledger, and what is left
waiting. -/
def outcome (start : Nat) (input : List Byte) (ledger : Ledger) : Ledger × List Byte :=
  ((scanner.run start input).1.foldl Ledger.absorb ledger, (scanner.run start input).2)

theorem outcome_of_none {start : Nat} {input : List Byte} {ledger : Ledger}
    (waiting : verdict input = none) : outcome start input ledger = (ledger, input) := by
  rw [outcome, scanner.run_of_none start waiting]
  rfl

theorem outcome_of_some {start size : Nat} {input : List Byte} {event : Event}
    {ledger : Ledger} (decided : verdict input = some (size, event)) :
    outcome start input ledger =
      outcome (start + size) (input.drop size) (ledger.absorb ⟨start, size, event⟩) := by
  rw [outcome, scanner.run_of_some start decided]
  rfl

theorem outcome_of_junk {start : Nat} {input : List Byte} {ledger : Ledger}
    (decided : verdict input = some (1, .junk)) :
    outcome start input ledger = outcome (start + 1) (input.drop 1) ledger := by
  rw [outcome_of_some decided]
  congr 1
  simp [Ledger.absorb, FrameSyncStats.record, Event.frame?]

theorem toNat_eq_iff_of_lt (byte : Byte) (value : Nat) (bound : value < 256) :
    byte.toNat = value ↔ byte = BitVec.ofNat 8 value := by
  rw [← BitVec.toNat_inj, BitVec.toNat_ofNat, Nat.mod_eq_of_lt bound]

/-- Passing over bytes that are not `$` changes nothing. -/
theorem outcome_skip (start : Nat) (input : List Byte) (ledger : Ledger) :
    outcome start input ledger =
      outcome (start + (input.takeWhile (· != 0x24)).length)
        (input.drop (input.takeWhile (· != 0x24)).length) ledger := by
  induction input generalizing start with
  | nil => simp
  | cons head tail induction =>
      by_cases dollar : head = 0x24
      · simp [dollar]
      · have notDollar : head.toNat ≠ 0x24 := fun equal =>
          dollar ((toNat_eq_iff_of_lt head 0x24 (by omega)).mp equal)
        have decided : verdict (head :: tail) = some (1, .junk) := by
          simp [verdict, notDollar]
        rw [outcome_of_junk decided, List.drop_one, List.tail_cons,
          induction (start + 1), List.takeWhile_cons_of_pos (by simpa using dollar),
          List.length_cons, List.drop_succ_cons,
          show start + 1 + (tail.takeWhile (· != 0x24)).length =
            start + ((tail.takeWhile (· != 0x24)).length + 1) by omega]

theorem u8_after_skip (input : List Byte)
    (found : (input.takeWhile (· != 0x24)).length < input.length) :
    u8 input (input.takeWhile (· != 0x24)).length = 0x24 := by
  induction input with
  | nil => simp at found
  | cons head tail induction =>
      by_cases dollar : head = 0x24
      · simp [dollar]
      · rw [List.takeWhile_cons_of_pos (by simpa using dollar)] at found ⊢
        simpa using induction (by simpa using found)

/-! ## Good loop states -/

/-- What is known of the bytes at the cursor in each state. -/
def Candidate (buf : List Byte) (cursor : Nat) : State → Prop
  | .idle => cursor ≤ buf.length
  | .gotDollar => cursor < buf.length ∧ u8 buf cursor = 0x24
  | .readingHeader => cursor + 1 < buf.length ∧ u8 buf cursor = 0x24 ∧
      u8 buf (cursor + 1) = 0x40
  | .readingBody => cursor + 8 ≤ buf.length ∧ u8 buf cursor = 0x24 ∧
      u8 buf (cursor + 1) = 0x40 ∧ ValidLength (u16le buf (cursor + 6))

structure Good (buf : List Byte) (loop : Loop) : Prop where
  drained : loop.frameDrain ≤ loop.cursor
  candidate : Candidate buf loop.cursor loop.state

def foretell (buf : List Byte) (loop : Loop) : Ledger × List Byte :=
  outcome loop.cursor (buf.drop loop.cursor) loop.ledger

/-- The state in which the machine waits on `rest`. -/
def pendingState (rest : List Byte) : State :=
  if rest.length = 0 then .idle
  else if rest.length < 2 then .gotDollar
  else if rest.length < 8 then .readingHeader
  else .readingBody

/-- The loop has stopped with the given ledger, waiting on `rest`. -/
structure Stalled (buf : List Byte) (final : Loop) (foretold : Ledger × List Byte) :
    Prop where
  ledger : final.ledger = foretold.1
  rest : buf.drop final.cursor = foretold.2
  state : final.state = pendingState foretold.2
  inside : final.cursor ≤ buf.length
  drained : final.frameDrain ≤ final.cursor

/-- An iteration either stops as foretold or goes on with the same outlook. -/
def Refines (buf : List Byte) (loop : Loop) (result : Except Fault (Bool × Loop)) : Prop :=
  (∃ next, result = .ok (true, next) ∧ Good buf next ∧
    foretell buf next = foretell buf loop) ∨
  (∃ final, result = .ok (false, final) ∧ Stalled buf final (foretell buf loop))

theorem stepIdle_refines {buf : List Byte} {loop : Loop} (idle : loop.state = .idle)
    (good : Good buf loop) : Refines buf loop (.ok (stepIdle buf loop)) := by
  have cursor : loop.cursor = loop.pos := by simp [Loop.cursor, idle]
  have drained := good.drained
  have inside : loop.pos ≤ buf.length := by
    have := good.candidate
    rwa [idle, cursor] at this
  rw [cursor] at drained
  let skipped := ((buf.drop loop.pos).takeWhile (· != 0x24)).length
  have skippedLe : skipped ≤ buf.length - loop.pos := by
    simpa [skipped] using
      List.IsPrefix.length_le (List.takeWhile_prefix (l := buf.drop loop.pos) (· != 0x24))
  have same : foretell buf loop =
      outcome (loop.pos + skipped) (buf.drop (loop.pos + skipped)) loop.ledger := by
    rw [foretell, cursor, outcome_skip, List.drop_drop]
  by_cases found : loop.pos + skipped < buf.length
  · refine .inl ⟨_, by simp only [stepIdle]; rw [if_pos found], ?_, ?_⟩
    · refine ⟨?_, ?_⟩
      · simp only [Loop.cursor]
        omega
      · have dollar := u8_after_skip (buf.drop loop.pos)
          (by simp only [List.length_drop]; omega)
        rw [u8_drop] at dollar
        exact ⟨found, dollar⟩
    · rw [same]
      rfl
  · refine .inr ⟨_, by simp only [stepIdle]; rw [if_neg found], ?_⟩
    have finished : loop.pos + skipped = buf.length := by omega
    rw [same, finished, List.drop_length, outcome_of_none (by simp [verdict])]
    constructor
    · rfl
    · simp only [Loop.cursor, idle]
      exact List.drop_eq_nil_of_le (by omega)
    · simp [idle, pendingState]
    · simp only [Loop.cursor, idle]
      omega
    · simp only [Loop.cursor, idle]
      omega

section

variable {buf : List Byte} {loop : Loop} {result : Except Fault (Bool × Loop)}

/-- Nothing more can be decided about the candidate. -/
theorem refines_stall (cursor : loop.cursor = loop.frameStart) (good : Good buf loop)
    (inside : loop.frameStart ≤ buf.length)
    (waiting : verdict (buf.drop loop.frameStart) = none)
    (state : loop.state = pendingState (buf.drop loop.frameStart))
    (stalls : result = .ok (false, loop)) : Refines buf loop result := by
  have outlook : foretell buf loop = (loop.ledger, buf.drop loop.frameStart) := by
    rw [foretell, cursor, outcome_of_none waiting]
  refine .inr ⟨loop, stalls, ?_⟩
  rw [outlook]
  exact ⟨rfl, by rw [cursor], state, by rwa [cursor], good.drained⟩

/-- The candidate is no frame: its first byte is passed over and counted. -/
theorem refines_resync (cursor : loop.cursor = loop.frameStart) (good : Good buf loop)
    (inside : loop.frameStart < buf.length) {event : Event}
    (decided : verdict (buf.drop loop.frameStart) = some (1, event))
    (skipped : event.frame? = none)
    (resyncs : result = .ok (true, { loop.resync with stats := loop.stats.record event })) :
    Refines buf loop result := by
  have drained := good.drained
  rw [cursor] at drained
  refine .inl ⟨_, resyncs, ⟨Nat.le_succ_of_le drained, inside⟩, ?_⟩
  have absorbed : Loop.ledger { loop.resync with stats := loop.stats.record event } =
      loop.ledger.absorb ⟨loop.frameStart, 1, event⟩ := by
    cases event with
    | frame emitted => cases skipped
    | junk | lengthInvalid | crcFailed =>
        simp [Loop.ledger, Loop.resync, Ledger.absorb, Event.frame?]
  rw [foretell, foretell, absorbed, cursor, outcome_of_some decided, List.drop_drop]
  rfl

end

theorem stepGotDollar_refines {buf : List Byte} {loop : Loop}
    (gotDollar : loop.state = .gotDollar) (good : Good buf loop) :
    Refines buf loop (stepGotDollar buf loop) := by
  have cursor := loop.cursor_of_busy (by simp [gotDollar])
  have drained := good.drained
  have candidate := good.candidate
  rw [cursor] at drained
  rw [gotDollar, cursor] at candidate
  rcases candidate with ⟨inside, dollar⟩
  by_cases short : loop.frameStart + 1 ≥ buf.length
  · apply refines_stall cursor good (Nat.le_of_lt inside)
    · simp only [verdict, u8_drop, List.length_drop, Nat.add_zero, dollar]
      rw [if_neg (by omega), if_neg (by simp), if_pos (by omega)]
    · simp only [gotDollar, pendingState, List.length_drop]
      rw [if_neg (by omega), if_pos (by omega)]
    · simp [stepGotDollar, short]
  · have bound : loop.frameStart + 1 < buf.length := by omega
    have read := byteAt_eq_ok bound
    by_cases at40 : buf.getD (loop.frameStart + 1) 0 = 0x40
    · have second : u8 buf (loop.frameStart + 1) = 0x40 := by rw [u8, at40]; rfl
      refine .inl ⟨_, by
        simp only [stepGotDollar, if_neg short, read, Checked.ok_bind, if_pos at40]
        rfl, ⟨drained, ?_⟩, ?_⟩
      · exact ⟨bound, dollar, second⟩
      · rw [foretell, foretell, cursor]
        rfl
    · have second : u8 buf (loop.frameStart + 1) ≠ 0x40 := fun equal =>
        at40 ((toNat_eq_iff_of_lt _ 0x40 (by omega)).mp equal)
      have decided : verdict (buf.drop loop.frameStart) = some (1, .junk) := by
        simp only [verdict, u8_drop, List.length_drop, Nat.add_zero, dollar]
        rw [if_neg (by omega), if_neg (by simp), if_neg (by omega), if_pos second]
      by_cases at24 : buf.getD (loop.frameStart + 1) 0 = 0x24
      · refine .inl ⟨_, by
          simp only [stepGotDollar, if_neg short, read, Checked.ok_bind, if_neg at40,
            if_pos at24]
          rfl, ⟨?_, ?_⟩, ?_⟩
        · simp only [Loop.cursor, gotDollar]
          omega
        · simp only [Loop.cursor, gotDollar]
          exact ⟨bound, by rw [u8, at24]; rfl⟩
        · rw [foretell, foretell, cursor, outcome_of_junk decided, List.drop_drop]
          simp only [Loop.cursor, gotDollar]
          rfl
      · apply refines_resync cursor good inside decided rfl
        simp only [stepGotDollar, if_neg short, read, Checked.ok_bind, if_neg at40, if_neg at24]
        rfl

/-- What is left to decide about a candidate with both sync bytes. -/
theorem verdict_synced {buf : List Byte} {start : Nat} (inside : start + 1 < buf.length)
    (first : u8 buf start = 0x24) (second : u8 buf (start + 1) = 0x40) :
    verdict (buf.drop start) =
      if buf.length < start + 8 then none
      else if ¬ValidLength (u16le buf (start + 6)) then some (1, .lengthInvalid)
      else if buf.length < start + u16le buf (start + 6) then none
      else if (crcCcittXmodem (slice buf (start + 4) (start + u16le buf (start + 6)))).toNat ≠
          u16le buf (start + 2) then
        some (1, .crcFailed)
      else some (u16le buf (start + 6), .frame (headFrame (buf.drop start))) := by
  simp only [verdict, u8_drop, u16le_drop, slice_drop, List.length_drop, Nat.add_zero, first,
    second]
  rw [if_neg (by omega), if_neg (by simp), if_neg (by omega), if_neg (by simp)]
  have shifted (size : Nat) : buf.length - start < size ↔ buf.length < start + size := by omega
  simp only [shifted]

theorem stepReadingHeader_refines {buf : List Byte} {loop : Loop}
    (readingHeader : loop.state = .readingHeader) (good : Good buf loop) :
    Refines buf loop (stepReadingHeader buf loop) := by
  have cursor := loop.cursor_of_busy (by simp [readingHeader])
  have drained := good.drained
  have candidate := good.candidate
  rw [cursor] at drained
  rw [readingHeader, cursor] at candidate
  rcases candidate with ⟨inside, first, second⟩
  by_cases short : loop.frameStart + 8 > buf.length
  · apply refines_stall cursor good (by omega)
    · rw [verdict_synced inside first second, if_pos short]
    · simp only [readingHeader, pendingState, List.length_drop]
      rw [if_neg (by omega), if_neg (by omega), if_pos (by omega)]
    · simp [stepReadingHeader, short]
  · have read := bufU16le_eq_ok buf (loop.frameStart + 6) (by omega)
    by_cases invalid : ¬ ValidLength (u16le buf (loop.frameStart + 6))
    · have decided : verdict (buf.drop loop.frameStart) = some (1, .lengthInvalid) := by
        rw [verdict_synced inside first second, if_neg short, if_pos invalid]
      apply refines_resync cursor good (by omega) decided rfl
      simp only [stepReadingHeader, if_neg short, read, Checked.ok_bind,
        if_pos ((lengthField_valid_iff _ _).mpr invalid)]
      rfl
    · refine .inl ⟨_, by
        simp only [stepReadingHeader, if_neg short, read, Checked.ok_bind,
          if_neg (mt (lengthField_valid_iff _ _).mp invalid)]
        rfl, ⟨drained, ?_⟩, ?_⟩
      · exact ⟨by simp only [Loop.cursor]; omega, first, second, not_not.mp invalid⟩
      · rw [foretell, foretell, cursor]
        rfl

theorem stepReadingBody_refines {buf : List Byte} {loop : Loop}
    (readingBody : loop.state = .readingBody) (good : Good buf loop) :
    Refines buf loop (stepReadingBody buf loop) := by
  have cursor := loop.cursor_of_busy (by simp [readingBody])
  have drained := good.drained
  have candidate := good.candidate
  rw [cursor] at drained
  rw [readingBody, cursor] at candidate
  rcases candidate with ⟨header, first, second, valid⟩
  have least := valid.least
  have synced := verdict_synced (by omega) first second
  rw [if_neg (by omega)] at synced
  have readLength :=
    bufU16le_eq_ok buf (loop.frameStart + 6) (by omega)
  let total := u16le buf (loop.frameStart + 6)
  have totalField : (BitVec.ofNat 16 (u16le buf (loop.frameStart + 6))).toNat = total := by
    simp [total]
  by_cases short : loop.frameStart + total > buf.length
  · apply refines_stall cursor good (by omega)
    · rw [synced, if_neg (not_not.mpr valid), if_pos short]
    · simp only [readingBody, pendingState, List.length_drop]
      rw [if_neg (by omega), if_neg (by omega), if_neg (by omega)]
    · simp only [stepReadingBody, readLength, Checked.ok_bind, totalField, if_pos short]
      rfl
  · have readCrc := bufU16le_eq_ok buf (loop.frameStart + 2) (by omega)
    have readId := bufU16le_eq_ok buf (loop.frameStart + 4) (by omega)
    have crcRange : checkedSub total 4 = .ok (total - 4) := if_pos (by omega)
    have bodyRange : checkedSub total 8 = .ok (total - 8) := if_pos (by omega)
    have copyCrc := copyBytes_eq_ok buf (loop.frameStart + 4) (total - 4) (by omega)
    have copyBody := copyBytes_eq_ok buf (loop.frameStart + 8) (total - 8) (by omega)
    rw [show loop.frameStart + 4 + (total - 4) = loop.frameStart + total by omega]
      at copyCrc
    rw [show loop.frameStart + 8 + (total - 8) = loop.frameStart + total by omega]
      at copyBody
    by_cases mismatch : crcCcittXmodem
        (slice buf (loop.frameStart + 4) (loop.frameStart + total)) ≠
        BitVec.ofNat 16 (u16le buf (loop.frameStart + 2))
    · have differ : (crcCcittXmodem (slice buf (loop.frameStart + 4)
          (loop.frameStart + total))).toNat ≠ u16le buf (loop.frameStart + 2) := by
        intro equal
        apply mismatch
        apply BitVec.eq_of_toNat_eq
        simpa using equal
      have decided : verdict (buf.drop loop.frameStart) = some (1, .crcFailed) := by
        rw [synced, if_neg (not_not.mpr valid), if_neg short, if_pos differ]
      apply refines_resync cursor good (by omega) decided rfl
      simp only [stepReadingBody, readLength, Checked.ok_bind, totalField,
        if_neg short, crcRange, copyCrc, readCrc, readId, if_pos mismatch]
      rfl
    · have checked := not_not.mp mismatch
      have decided : verdict (buf.drop loop.frameStart) =
          some (total, .frame (headFrame (buf.drop loop.frameStart))) := by
        rw [synced, if_neg (not_not.mpr valid), if_neg short, if_neg (by rw [checked]; simp)]
      refine .inl ⟨_, by
        simp only [stepReadingBody, readLength, Checked.ok_bind, totalField,
          if_neg short, crcRange, copyCrc, readCrc, readId, if_neg mismatch, bodyRange,
          copyBody]
        rfl, ⟨?_, ?_⟩, ?_⟩
      · simp only [Loop.cursor]
        omega
      · exact (by omega : loop.frameStart + total ≤ buf.length)
      · rw [foretell, foretell, cursor, outcome_of_some decided, List.drop_drop]
        simp [Loop.cursor, Loop.ledger, Ledger.absorb, Token.stop,
          FrameSyncStats.record, Event.frame?, headFrame, slice_drop, total]

/-- One iteration of the loop. -/
theorem step_refines {buf : List Byte} {loop : Loop} (good : Good buf loop) :
    Refines buf loop (step buf loop) := by
  cases state : loop.state with
  | idle => simpa [step, state] using stepIdle_refines state good
  | gotDollar => simpa [step, state] using stepGotDollar_refines state good
  | readingHeader => simpa [step, state] using stepReadingHeader_refines state good
  | readingBody => simpa [step, state] using stepReadingBody_refines state good

/-- The whole loop stops, without a fault, where the scanner stops. -/
theorem runLoop_refines {buf : List Byte} {loop : Loop} (good : Good buf loop) :
    ∃ final, runLoop buf loop = .ok final ∧ Stalled buf final (foretell buf loop) := by
  induction size : loop.measure buf using Nat.strong_induction_on
    generalizing loop with
  | _ size induction =>
      rcases step_refines good with ⟨next, progress, goodNext, same⟩ |
        ⟨final, stall, stalled⟩
      · have smaller := step_measure progress
        rcases induction _ (size ▸ smaller) goodNext rfl with ⟨final, result, stalled⟩
        exact ⟨final, by rw [runLoop_of_progress progress, result], same ▸ stalled⟩
      · exact ⟨final, runLoop_of_stall stall, stalled⟩

end AsterxDriver.Sbf
