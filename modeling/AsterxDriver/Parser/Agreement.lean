import AsterxDriver.Parser.Framing
import AsterxDriver.Sbf.Session

/-! # The driver and the offline parser agree

The three scanning loops of the parser visit the candidates that the scanner of
the driver visits. They differ where the last candidate is incomplete: the
driver waits there and the parser goes on behind it. -/

namespace AsterxDriver.Parser

open Foundation ByteString Sbf

/-! ## The two CRCs -/

theorem crcBit_toNat (crc : BitVec 16) :
    crcBit crc.toNat = (ShiftRegister.step polynomial crc).toNat := by
  have bound := crc.isLt
  have top : crc.toNat &&& 0x8000 ≠ 0 ↔ crc &&& 0x8000#16 ≠ 0#16 := by
    rw [Ne, Ne, ← BitVec.toNat_inj, BitVec.toNat_and]
    rfl
  have shifted : (crc <<< 1).toNat = (crc.toNat <<< 1) % 2 ^ 16 := BitVec.toNat_shiftLeft
  have mask : ∀ value : Nat, value &&& 0xFFFF = value % 2 ^ 16 := fun value =>
    Nat.and_two_pow_sub_one_eq_mod value 16
  rw [← crcTableRound_eq_step, crcTableRound, crcBit]
  by_cases set : crc &&& 0x8000#16 ≠ 0#16
  · rw [if_pos (top.mpr set), if_pos set, mask, Nat.xor_mod_two_pow, BitVec.toNat_xor,
      shifted]
    rfl
  · rw [if_neg (mt top.mp set), if_neg set, mask, shifted]

theorem iterate_crcBit_toNat (count : Nat) (crc : BitVec 16) :
    crcBit^[count] crc.toNat = ((ShiftRegister.step polynomial)^[count] crc).toNat := by
  induction count generalizing crc with
  | zero => rfl
  | succ count induction =>
      rw [Function.iterate_succ_apply, Function.iterate_succ_apply, crcBit_toNat, induction]

theorem crcByte_toNat (crc : BitVec 16) (byte : Byte) :
    crcByte crc.toNat byte = (crcTableStep crc byte).toNat := by
  have bound := byte.isLt
  have widened : (byte.setWidth 16 <<< 8).toNat = byte.toNat <<< 8 := by
    rw [BitVec.toNat_shiftLeft, BitVec.toNat_setWidth, Nat.mod_eq_of_lt (by omega),
      Nat.shiftLeft_eq, Nat.shiftLeft_eq, Nat.mod_eq_of_lt (by omega)]
  rw [crcByte, crcTableStep_eq_iterate, ← iterate_crcBit_toNat, BitVec.toNat_xor, widened]

theorem foldl_crcByte_toNat (data : List Byte) (crc : BitVec 16) :
    data.foldl crcByte crc.toNat = (data.foldl crcTableStep crc).toNat := by
  induction data generalizing crc with
  | nil => rfl
  | cons head tail induction =>
      rw [List.foldl_cons, List.foldl_cons, crcByte_toNat, induction]

theorem crcCcittXmodem_eq_toNat (data : List Byte) :
    crcCcittXmodem data = (Sbf.crcCcittXmodem data).toNat :=
  foldl_crcByte_toNat data 0

theorem crcCcittXmodem_lt (data : List Byte) : crcCcittXmodem data < 2 ^ 16 := by
  rw [crcCcittXmodem_eq_toNat]
  exact (Sbf.crcCcittXmodem data).isLt

/-- The driver's table lookup, in the arithmetic of `int`, against the parser's bit
loop over unbounded integers. -/
theorem table_crc_eq_bit_crc (data : List Byte) :
    (Sbf.crcCcittXmodemInt data).toNat = crcCcittXmodem data ∧
      (∀ count, (data.take count).foldl crcByte 0 < 2 ^ 16) ∧
      ∀ (crc : BitVec 16) (byte : Byte), crcTableIndexInt crc byte < 256 := by
  refine ⟨?_, ?_, ?_⟩
  · rw [crcCcittXmodemInt_eq, crcCcittXmodem_eq_toNat]
  · intro count
    exact crcCcittXmodem_lt (data.take count)
  · intro crc byte
    rw [crcTableIndexInt_eq]
    exact crcTableIndex_lt crc byte

/-! ## One candidate -/

/-- The tests of a loop at `i`, against the verdict of the scanner there. -/
theorem verdict_at {data : List Byte} {i : Nat} (header : i + 8 ≤ data.length) :
    ((u8 data i ≠ 0x24 ∨ u8 data (i + 1) ≠ 0x40) ∧
      verdict (data.drop i) = some (1, .junk)) ∨
    (¬ (u8 data i ≠ 0x24 ∨ u8 data (i + 1) ≠ 0x40) ∧
      (((u16le data (i + 6) < 8 ∨ u16le data (i + 6) > 8188 ∨
          u16le data (i + 6) % 4 ≠ 0 ∨ i + u16le data (i + 6) > data.length) ∧
        (verdict (data.drop i) = some (1, .lengthInvalid) ∨
          verdict (data.drop i) = none)) ∨
      (¬ (u16le data (i + 6) < 8 ∨ u16le data (i + 6) > 8188 ∨
          u16le data (i + 6) % 4 ≠ 0 ∨ i + u16le data (i + 6) > data.length) ∧
        ((crcCcittXmodem (slice data (i + 4) (i + u16le data (i + 6))) ≠
            u16le data (i + 2) ∧
          verdict (data.drop i) = some (1, .crcFailed)) ∨
        (crcCcittXmodem (slice data (i + 4) (i + u16le data (i + 6))) =
            u16le data (i + 2) ∧
          verdict (data.drop i) =
            some (u16le data (i + 6), .frame (headFrame (data.drop i)))))))) := by
  have verdictEq : verdict (data.drop i) =
      if u8 data i ≠ 0x24 then some (1, .junk)
      else if u8 data (i + 1) ≠ 0x40 then some (1, .junk)
      else if ¬ ValidLength (u16le data (i + 6)) then some (1, .lengthInvalid)
      else if data.length - i < u16le data (i + 6) then none
      else if crcCcittXmodem (slice data (i + 4) (i + u16le data (i + 6))) ≠
          u16le data (i + 2) then some (1, .crcFailed)
      else some (u16le data (i + 6), .frame (headFrame (data.drop i))) := by
    simp only [verdict, u8_drop, u16le_drop, slice_drop, List.length_drop, Nat.add_zero,
      crcCcittXmodem_eq_toNat]
    rw [if_neg (by omega), if_neg (show ¬ data.length - i < 2 by omega),
      if_neg (show ¬ data.length - i < 8 by omega)]
  rw [verdictEq]
  by_cases first : u8 data i ≠ 0x24
  · exact .inl ⟨.inl first, if_pos first⟩
  by_cases second : u8 data (i + 1) ≠ 0x40
  · exact .inl ⟨.inr second, by rw [if_neg first, if_pos second]⟩
  refine .inr ⟨not_or.mpr ⟨first, second⟩, ?_⟩
  rw [if_neg first, if_neg second]
  by_cases valid : ValidLength (u16le data (i + 6))
  · rw [if_neg (not_not.mpr valid)]
    have := valid.multiple
    have := valid.least
    have := valid.most
    by_cases short : data.length - i < u16le data (i + 6)
    · exact .inl ⟨by omega, .inr (if_pos short)⟩
    · refine .inr ⟨by omega, ?_⟩
      rw [if_neg short]
      by_cases mismatch : crcCcittXmodem
          (slice data (i + 4) (i + u16le data (i + 6))) ≠ u16le data (i + 2)
      · exact .inl ⟨mismatch, if_pos mismatch⟩
      · exact .inr ⟨not_not.mp mismatch, if_neg mismatch⟩
  · refine .inl ⟨?_, .inl (if_pos valid)⟩
    by_contra allowed
    exact valid ⟨by omega, by omega, by omega⟩

/-- Too close to the end for a header, the scanner can only pass over a byte. -/
theorem verdict_near_end {data : List Byte} {i size : Nat} {event : Event}
    (short : ¬ i + 8 ≤ data.length)
    (decided : verdict (data.drop i) = some (size, event)) : event = .junk := by
  rcases verdict_cases decided with ⟨_, junk, _⟩ | ⟨_, _, header, _⟩
  · exact junk
  · rw [List.length_drop] at header
    omega

/-- The parser's view of a frame the driver finds at `offset`. -/
def ofDriver (offset : Nat) (frame : Frame) : SbfFrame where
  offset := offset
  crc := frame.crc.toNat
  rawId := frame.rawId.toNat
  blockId := frame.rawId.toNat &&& 0x1FFF
  revision := (frame.rawId.toNat >>> 13) &&& 0x07
  length := frame.length.toNat
  body := frame.body

/-! ## The loops step by step -/

theorem iterFramesFrom_of_short {data : List Byte} {i : Nat}
    (short : ¬ i + 8 ≤ data.length) : iterFramesFrom data i = [] := by
  rw [iterFramesFrom, if_neg short]

theorem iterFramesFrom_skip {data : List Byte} {i : Nat}
    (skipped : ∀ size frame, verdict (data.drop i) ≠ some (size, .frame frame)) :
    iterFramesFrom data i = iterFramesFrom data (i + 1) := by
  by_cases header : i + 8 ≤ data.length
  · rw [iterFramesFrom, if_pos header]
    rcases verdict_at header with ⟨sync, _⟩ | ⟨sync, ⟨length, _⟩ |
      ⟨length, ⟨crc, _⟩ | ⟨_, frame⟩⟩⟩
    · rw [if_pos sync]
    · simp only [if_neg sync, if_pos length]
    · simp only [if_neg sync, if_neg length, if_pos crc]
    · exact absurd frame (skipped _ _)
  · rw [iterFramesFrom_of_short header, iterFramesFrom_of_short (by omega)]

theorem iterFramesFrom_frame {data : List Byte} {i size : Nat} {frame : Frame}
    (found : verdict (data.drop i) = some (size, .frame frame)) :
    iterFramesFrom data i = ofDriver i frame :: iterFramesFrom data (i + size) := by
  have present := (verdict_frame_iff.mp found).1
  have header : i + 8 ≤ data.length := by
    have := present.complete
    have := present.valid.least
    omega
  rw [iterFramesFrom, if_pos header]
  rcases verdict_at header with ⟨_, other⟩ | ⟨sync, ⟨_, other | other⟩ |
    ⟨length, ⟨_, other⟩ | ⟨crc, this⟩⟩⟩
  · rw [found] at other
    cases other
  · rw [found] at other
    cases other
  · rw [found] at other
    cases other
  · rw [found] at other
    cases other
  · rw [found] at this
    injection this with this
    injection this with sizeEqual frameEqual
    injection frameEqual with frameEqual
    simp only [if_neg sync, if_neg length, if_neg (not_not.mpr crc), sizeEqual, frameEqual]
    congr 1
    simp [ofDriver, headFrame, slice_drop]

theorem verifySbfBytesFrom_step {data : List Byte} {i size frames crcFails : Nat}
    {event : Event} (decided : verdict (data.drop i) = some (size, event)) :
    verifySbfBytesFrom data i frames crcFails =
      verifySbfBytesFrom data (i + size) (frames + event.frame?.toList.length)
        (crcFails + if event = .crcFailed then 1 else 0) := by
  by_cases header : i + 8 ≤ data.length
  · rw [verifySbfBytesFrom, if_pos header]
    rcases verdict_at header with ⟨sync, this⟩ | ⟨sync, ⟨length, this | this⟩ |
      ⟨length, ⟨crc, this⟩ | ⟨crc, this⟩⟩⟩ <;> rw [decided] at this
    · cases this
      rw [if_pos sync]
      rfl
    · cases this
      simp only [if_neg sync, if_pos length]
      rfl
    · cases this
    · cases this
      simp only [if_neg sync, if_neg length, if_pos crc]
      rfl
    · cases this
      simp only [if_neg sync, if_neg length, if_neg (not_not.mpr crc)]
      rfl
  · have junk := verdict_near_end header decided
    subst junk
    rw [size_eq_one decided rfl, verifySbfBytesFrom, if_neg header, verifySbfBytesFrom,
      if_neg (by omega)]
    rfl

/-! ## The loops against the whole scan -/

/-- The parser's frames are those of the scan, and then those it finds behind
the place where the scanner waits. -/
theorem iterFramesFrom_run (data : List Byte) :
    ∀ start input, input = data.drop start → start ≤ data.length →
      iterFramesFrom data start =
        (locatedFrames (scanner.run start input).1).map (fun found =>
          ofDriver found.1 found.2) ++
        iterFramesFrom data (data.length - (scanner.run start input).2.length) := by
  intro start input
  induction start, input using scanner.run_induction with
  | waiting start input waiting =>
      intro suffix inside
      have length : input.length = data.length - start := by simp [suffix]
      rw [scanner.run_of_none start waiting, length,
        show data.length - (data.length - start) = start by omega]
      rfl
  | decided start input size event decided _ bounded induction =>
      intro suffix inside
      have length : input.length = data.length - start := by simp [suffix]
      have later := induction (by rw [suffix, List.drop_drop]) (by omega)
      rw [scanner.run_of_some start decided]
      rw [scanner_verdict, suffix] at decided
      cases found : event.frame? with
      | none =>
          have one := size_eq_one decided found
          rw [iterFramesFrom_skip, ← one, later]
          · simp [locatedFrames, found]
          · intro otherSize frame other
            rw [decided] at other
            cases other
            cases found
      | some frame =>
          rw [Event.frame?_eq_some_iff] at found
          subst found
          rw [iterFramesFrom_frame decided, later]
          simp [locatedFrames, Event.frame?]

theorem verifySbfBytesFrom_run (data : List Byte) :
    ∀ start input, input = data.drop start → start ≤ data.length →
      ∀ frames crcFails, verifySbfBytesFrom data start frames crcFails =
        verifySbfBytesFrom data (data.length - (scanner.run start input).2.length)
          (frames + (framesOf (scanner.run start input).1).length)
          (crcFails + crcFailures (scanner.run start input).1) := by
  intro start input
  induction start, input using scanner.run_induction with
  | waiting start input waiting =>
      intro suffix inside frames crcFails
      have length : input.length = data.length - start := by simp [suffix]
      rw [scanner.run_of_none start waiting, length,
        show data.length - (data.length - start) = start by omega]
      rfl
  | decided start input size event decided _ bounded induction =>
      intro suffix inside frames crcFails
      have length : input.length = data.length - start := by simp [suffix]
      have later := induction (by rw [suffix, List.drop_drop]) (by omega)
      rw [scanner.run_of_some start decided]
      rw [scanner_verdict, suffix] at decided
      rw [verifySbfBytesFrom_step decided, later]
      congr 1
      · cases event <;> simp [framesOf, Event.frame?, Nat.add_assoc, Nat.add_comm]
      · simp only [crcFailures, List.countP_cons, decide_eq_true_eq]
        omega

/-! ## The loops against each other -/

theorem verifySbfBytesFrom_frames (data : List Byte) (i frames crcFails : Nat) :
    (verifySbfBytesFrom data i frames crcFails).1 =
      frames + (iterFramesFrom data i).length := by
  fun_induction verifySbfBytesFrom data i frames crcFails with
  | case1 i frames crcFails header sync induction =>
      rw [induction, iterFramesFrom.eq_def data i, if_pos header, if_pos sync]
  | case2 i frames crcFails header sync length invalid induction =>
      rw [induction, iterFramesFrom.eq_def data i, if_pos header]
      simp only [if_neg sync]
      rw [if_pos invalid]
  | case3 i frames crcFails header sync crc length valid mismatch induction =>
      rw [induction, iterFramesFrom.eq_def data i, if_pos header]
      simp only [if_neg sync]
      rw [if_neg valid, if_pos mismatch]
  | case4 i frames crcFails header sync crc length valid mismatch induction =>
      rw [induction, iterFramesFrom.eq_def data i, if_pos header]
      simp only [if_neg sync]
      rw [if_neg valid, if_neg mismatch, List.length_cons,
        show length = u16le data (i + 6) from rfl]
      omega
  | case5 i frames crcFails short => simp [iterFramesFrom_of_short short]

/-- `scan` has been extended by the frames `found`. -/
structure Extends (scan : RawScan) (found : List SbfFrame) (final : RawScan) : Prop where
  frames : final.frames = scan.frames + found.length
  recognizedBytes : final.recognizedBytes =
    scan.recognizedBytes + (found.map SbfFrame.length).sum
  idCounts : ∀ blockId, final.idCounts.getD blockId 0 =
    scan.idCounts.getD blockId 0 + found.countP fun frame => frame.blockId = blockId

theorem rawScanFrom_extends (data : List Byte) (i : Nat) (scan : RawScan) :
    Extends scan (iterFramesFrom data i) (rawScanFrom data i scan) := by
  fun_induction rawScanFrom data i scan with
  | case1 i scan header sync induction =>
      rwa [iterFramesFrom.eq_def data i, if_pos header, if_pos sync]
  | case2 i scan header sync length invalid induction =>
      rw [iterFramesFrom.eq_def data i, if_pos header]
      simp only [if_neg sync]
      rwa [if_pos invalid]
  | case3 i scan header sync crc rawId length blockId valid mismatch induction =>
      rw [iterFramesFrom.eq_def data i, if_pos header]
      simp only [if_neg sync]
      rw [if_neg valid, if_pos mismatch]
      exact ⟨induction.frames, induction.recognizedBytes, induction.idCounts⟩
  | case4 i scan header sync crc rawId length blockId revision valid mismatch induction =>
      rw [iterFramesFrom.eq_def data i, if_pos header]
      simp only [if_neg sync]
      rw [if_neg valid, if_neg mismatch]
      constructor
      · rw [induction.frames, List.length_cons, show length = u16le data (i + 6) from rfl]
        simp only
        omega
      · rw [induction.recognizedBytes, List.map_cons, List.sum_cons,
          show length = u16le data (i + 6) from rfl]
        simp only
        omega
      · intro other
        rw [induction.idCounts, List.countP_cons, Dict.getD_modify]
        simp only [blockId, rawId, length, decide_eq_true_eq]
        by_cases same : other = u16le data (i + 4) &&& 0x1FFF
        · subst same
          simp only [if_true]
          omega
        · simp only [if_neg same, if_neg (Ne.symm same)]
          omega
  | case5 i scan short =>
      rw [iterFramesFrom_of_short short]
      exact ⟨by simp, by simp, by simp⟩

theorem rawScanFrom_crcFails (data : List Byte) (i frames : Nat) (scan : RawScan) :
    (rawScanFrom data i scan).crcFails =
      (verifySbfBytesFrom data i frames scan.crcFails).2 := by
  fun_induction rawScanFrom data i scan generalizing frames with
  | case1 i scan header sync induction =>
      rw [induction frames, verifySbfBytesFrom.eq_def data i, if_pos header, if_pos sync]
  | case2 i scan header sync length invalid induction =>
      rw [induction frames, verifySbfBytesFrom.eq_def data i, if_pos header]
      simp only [if_neg sync]
      rw [if_pos invalid]
  | case3 i scan header sync crc rawId length blockId valid mismatch induction =>
      rw [induction frames, verifySbfBytesFrom.eq_def data i, if_pos header]
      simp only [if_neg sync]
      rw [if_neg valid, if_pos mismatch]
  | case4 i scan header sync crc rawId length blockId revision valid mismatch induction =>
      rw [induction (frames + 1), verifySbfBytesFrom.eq_def data i, if_pos header]
      simp only [if_neg sync]
      rw [if_neg valid, if_neg mismatch]
  | case5 i scan short => rw [verifySbfBytesFrom, if_neg short]

/-! ## Agreement -/

/-- What driver and parser both know of a frame. -/
def SbfFrame.fields (frame : SbfFrame) : Nat × Nat × Nat × List Byte :=
  (frame.crc, frame.rawId, frame.length, frame.body)

def driverFields (frame : Frame) : Nat × Nat × Nat × List Byte :=
  (frame.crc.toNat, frame.rawId.toNat, frame.length.toNat, frame.body)

theorem fields_iterFrames (data : List Byte) :
    (iterFrames data).map SbfFrame.fields =
      (framesOf (scanner.tokens data)).map driverFields ++
        (iterFramesFrom data (data.length - (scanner.rest data).length)).map
          SbfFrame.fields := by
  have split := iterFramesFrom_run data 0 data rfl (Nat.zero_le _)
  rw [iterFrames, split, List.map_append, List.map_map, ← map_snd_locatedFrames,
    List.map_map]
  rfl

/-- One call of the driver on a recording against the parser's three loops. -/
theorem driver_parser_agreement (data : List Byte) :
    ∃ sync frames, SbfFrameSync.fresh.feed data = .ok (sync, frames) ∧
      frames.map driverFields <+: (iterFrames data).map SbfFrame.fields ∧
      (sync.state ≠ .readingBody →
        frames.map driverFields = (iterFrames data).map SbfFrame.fields ∧
        sync.stats.crcFailed = (rawScan data).crcFails ∧
        sync.stats.crcFailed = (verifySbfBytes data).2) ∧
      (rawScan data).frames = (iterFrames data).length ∧
      (verifySbfBytes data).1 = (iterFrames data).length ∧
      (∀ blockId, (rawScan data).idCounts.getD blockId 0 =
        (iterFrames data).countP fun frame => frame.blockId = blockId) ∧
      (rawScan data).recognizedBytes = ((iterFrames data).map SbfFrame.length).sum ∧
      (rawScan data).crcFails = (verifySbfBytes data).2 := by
  have fed := SbfFrameSync.feed_fresh data
  have scanned : Extends _ (iterFrames data) (rawScan data) := rawScanFrom_extends data 0 _
  have sameFails : (rawScan data).crcFails = (verifySbfBytes data).2 :=
    rawScanFrom_crcFails data 0 0 _
  refine ⟨_, _, fed, ?_, ?_, ?_, ?_, ?_, ?_, sameFails⟩
  · rw [fields_iterFrames]
    exact List.prefix_append _ _
  · intro complete
    have short := SbfFrameSync.length_rest_of_settle complete
    have beyond : ¬ data.length - (scanner.rest data).length + 8 ≤ data.length := by
      have := scanner.length_rest_le 0 data
      change (scanner.rest data).length ≤ data.length at this
      omega
    have fails : (tally (SbfFrameSync.count SbfFrameSync.fresh.stats data)
        (scanner.tokens data)).crcFailed = (verifySbfBytes data).2 := by
      have run := verifySbfBytesFrom_run data 0 data rfl (Nat.zero_le _) 0 0
      change verifySbfBytes data = verifySbfBytesFrom data
        (data.length - (scanner.rest data).length)
        (0 + (framesOf (scanner.tokens data)).length)
        (0 + crcFailures (scanner.tokens data)) at run
      rw [run, verifySbfBytesFrom, if_neg beyond, (tally_counters _ _).1]
      rfl
    rw [SbfFrameSync.settle_stats, sameFails]
    refine ⟨?_, fails, fails⟩
    rw [fields_iterFrames, iterFramesFrom_of_short beyond, List.map_nil, List.append_nil]
  · simpa using scanned.frames
  · simpa [verifySbfBytes, iterFrames] using verifySbfBytesFrom_frames data 0 0 0
  · simpa using scanned.idCounts
  · simpa using scanned.recognizedBytes

end AsterxDriver.Parser
