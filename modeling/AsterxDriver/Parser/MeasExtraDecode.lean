import AsterxDriver.Parser.AntennaSplit
import AsterxDriver.Parser.MeasExtra

/-! # Rows of MeasExtra

`decode_meas_extra` of `scripts/parser.py`. It finds the sub-blocks with its own
copy of the count; both copies find the blocks that were written. -/

namespace AsterxDriver.Parser

open Foundation ByteString Sbf FloatArithmetic RoundedArithmetic

/-! ## Decoding -/

structure ExtraRow (F : Type) where
  towMs : Nat
  wnc : Nat
  extraIndex : Nat
  rxChannel : Nat
  antennaId : Nat
  antenna : String
  signalType : Nat
  signalName : String
  glonassFreqNumber : Option Int
  mpCorrectionM : F
  smoothingCorrectionM : F
  codeVarM2 : Option F
  carrierVarMcycle2 : Option Nat
  dopplerVarFactor : F
  dopplerVarMhz2 : Option F
  lockTimeS : Option Nat
  cumLossCont : Nat
  carrierMpCorrCycles : F
  cn0HighresExtensionDbhz : F
  info : Nat
  misc : Nat
  frameOffset : Nat

/-- What the sub-blocks of one block share. -/
structure ExtraHeader (F : Type) where
  tow : Nat
  wnc : Nat
  dopplerVarFactor : F

/-- The raw fields of a sub-block. -/
structure ExtraFields where
  rxCh : Nat
  typeB : Nat
  mpCorr : Int
  smoothCorr : Int
  codeVarRaw : Nat
  carrierVarRaw : Nat
  lock : Nat
  cumLoss : Nat
  carrierMpCorr : Int
  info : Nat
  misc : Nat

def readExtra (body : List Byte) (off : Nat) : Except PyError ExtraFields := do
  let rxCh ← byteAt body off
  let typeB ← byteAt body (off + 1)
  let mpCorr ← unpackSignedH body (off + 2)
  let smoothCorr ← unpackSignedH body (off + 4)
  let codeVarRaw ← unpackH body (off + 6)
  let carrierVarRaw ← unpackH body (off + 8)
  let lock ← unpackH body (off + 10)
  let cumLoss ← byteAt body (off + 12)
  let carrierMpCorr ← unpackSignedB body (off + 13)
  let info ← byteAt body (off + 14)
  let misc ← byteAt body (off + 15)
  return ⟨rxCh, typeB, mpCorr, smoothCorr, codeVarRaw, carrierVarRaw, lock, cumLoss,
    carrierMpCorr, info, misc⟩

section

variable {F : Type} [FloatArithmetic F]

def ExtraFields.row (fields : ExtraFields) (header : ExtraHeader F) (frameOffset idx : Nat) :
    Except PyError (ExtraRow F) := do
  let sig := signalType fields.typeB fields.misc
  let ant := antennaId fields.typeB
  let carrierMpCorrCycles ← divide (ofRat fields.carrierMpCorr) (ofRat 512)
  return {
    towMs := header.tow
    wnc := header.wnc
    extraIndex := idx
    rxChannel := fields.rxCh
    antennaId := ant
    antenna := antennaName ant
    signalType := sig
    signalName := signalName sig
    glonassFreqNumber := glonassFreqNumber sig fields.misc
    mpCorrectionM := thousandths fields.mpCorr
    smoothingCorrectionM := thousandths fields.smoothCorr
    codeVarM2 :=
      if fields.codeVarRaw = 65535 then none
      else some (mul (ofRat fields.codeVarRaw) (ofRat (1 / 10000)))
    carrierVarMcycle2 := dnuU fields.carrierVarRaw 65535
    dopplerVarFactor := header.dopplerVarFactor
    dopplerVarMhz2 :=
      if fields.carrierVarRaw = 65535 then none
      else some (mul (ofRat fields.carrierVarRaw) header.dopplerVarFactor)
    lockTimeS := dnuU fields.lock 65535
    cumLossCont := fields.cumLoss
    carrierMpCorrCycles := carrierMpCorrCycles
    cn0HighresExtensionDbhz := mul (ofRat (fields.misc &&& 0x07 : Nat)) (ofRat (1 / 32))
    info := fields.info
    misc := fields.misc
    frameOffset := frameOffset }

def parseMeasExtra (body : List Byte) (header : ExtraHeader F) (frameOffset idx off : Nat) :
    Except PyError (ExtraRow F) := do
  let fields ← readExtra body off
  fields.row header frameOffset idx

/-- `ofSingle` is the float of the four bytes that the format `<f` reads; it need
not be finite. -/
def decodeMeasExtra (ofSingle : Nat → F) (frame : SbfFrame) :
    Except PyError (List (ExtraRow F)) :=
  if frame.body.length < 12 then .ok []
  else do
    let tow ← unpackI frame.body 0
    let wnc ← unpackH frame.body 4
    let nMod ← byteAt frame.body 6
    let sbLen ← byteAt frame.body 7
    let dopplerVarFactor ← unpackI frame.body 8
    if sbLen < 16 then return []
    else
      let count ← countSubblocks (frame.body.length - 12) sbLen nMod
      subBlocks frame.body.length sbLen
        (parseMeasExtra frame.body ⟨tow, wnc, ofSingle dopplerVarFactor⟩ frame.offset)
        count 0 12

end

/-! ## One sub-block -/

/-- The fields of the sub-block at the front of `block`. -/
def extraFields (block : List Byte) : ExtraFields where
  rxCh := u8 block 0
  typeB := u8 block 1
  mpCorr := toSigned 16 (u16le block 2)
  smoothCorr := toSigned 16 (u16le block 4)
  codeVarRaw := u16le block 6
  carrierVarRaw := u16le block 8
  lock := u16le block 10
  cumLoss := u8 block 12
  carrierMpCorr := toSigned 8 (u8 block 13)
  info := u8 block 14
  misc := u8 block 15

theorem readExtra_eq {body : List Byte} {off : Nat} (inside : off + 16 ≤ body.length) :
    readExtra body off = .ok (extraFields (body.drop off)) := by
  simp (disch := omega) only [readExtra, unpackH, unpackSignedH, unpackSignedB, byteAt_eq,
    unpackFrom_eq, Checked.ok_bind, Checked.pure_eq_ok, extraFields, u8_drop, u16le_drop,
    Nat.add_zero]

theorem extraFields_append {block : List Byte} (long : 16 ≤ block.length) (rest : List Byte) :
    extraFields (block ++ rest) = extraFields block := by
  simp (disch := omega) only [extraFields, u8_append_left, u16le_append_left]

/-- A sub-block is read alone as it is read in the body. -/
theorem readExtra_slice {body : List Byte} {off sbLen : Nat} (wide : 16 ≤ sbLen)
    (inside : off + sbLen ≤ body.length) :
    readExtra (slice body off (off + sbLen)) 0 = readExtra body off := by
  have length : (slice body off (off + sbLen)).length = sbLen := by
    rw [length_slice _ inside]
    omega
  have split : slice body off (off + sbLen) ++ body.drop (off + sbLen) = body.drop off := by
    rw [slice_eq_take_drop, Nat.add_sub_cancel_left, ← List.drop_drop, List.take_append_drop]
  rw [readExtra_eq (by omega), readExtra_eq (by omega), List.drop_zero, ← split,
    extraFields_append (by omega)]

section

variable {F : Type} [RoundedArithmetic F]

theorem ExtraFields.row_ok (fields : ExtraFields)
    (small : -128 ≤ fields.carrierMpCorr ∧ fields.carrierMpCorr < 128)
    (header : ExtraHeader F) (frameOffset idx : Nat) :
    ∃ row, fields.row header frameOffset idx = .ok row := by
  have numerator : Represents (ofRat (fields.carrierMpCorr : ℚ) : F) fields.carrierMpCorr :=
    represents_int (by rw [abs_le]; omega)
  have denominator : Represents (ofRat ((512 : ℤ) : ℚ) : F) (512 : ℤ) :=
    represents_int (by norm_num)
  have bounded : |(fields.carrierMpCorr : ℚ) / (512 : ℤ)| ≤ 2 ^ 1000 := by
    have magnitude : |fields.carrierMpCorr| ≤ 2 ^ 53 := by
      rw [abs_le]
      omega
    calc |(fields.carrierMpCorr : ℚ) / (512 : ℤ)| ≤ |(fields.carrierMpCorr : ℚ)| := by
          rw [abs_div]
          exact div_le_self (abs_nonneg _) (by norm_num)
      _ ≤ 2 ^ 1000 := abs_int_le_huge magnitude
  rcases div_represents numerator denominator (by norm_num) bounded with ⟨cycles, quotient, _⟩
  have divided : divide (ofRat (fields.carrierMpCorr : ℚ) : F) (ofRat 512) = .ok cycles := by
    rw [Int.cast_ofNat] at quotient
    rw [divide, quotient]
  exact ⟨_, by rw [ExtraFields.row, divided]; rfl⟩

theorem parseMeasExtra_ok {body : List Byte} {off : Nat} (inside : off + 16 ≤ body.length)
    (header : ExtraHeader F) (frameOffset idx : Nat) :
    ∃ row, parseMeasExtra body header frameOffset idx off = .ok row := by
  have small : -128 ≤ (extraFields (body.drop off)).carrierMpCorr ∧
      (extraFields (body.drop off)).carrierMpCorr < 128 :=
    toSigned_range 8 (by norm_num) (u8_lt _ _)
  rw [parseMeasExtra, readExtra_eq inside]
  exact ExtraFields.row_ok _ small header frameOffset idx

/-! ## The rows of a body -/

/-- The header as `decode_meas_extra` reads it. -/
def extraHeader (ofSingle : Nat → F) (body : List Byte) : ExtraHeader F where
  tow := u32le body 0
  wnc := u16le body 4
  dopplerVarFactor := ofSingle (u32le body 8)

/-- The rows are those of the sub-blocks, each read alone. -/
def AreRowsOf (ofSingle : Nat → F) (frame : SbfFrame) (blocks : List (List Byte))
    (rows : List (ExtraRow F)) : Prop :=
  List.Forall₂ (fun numbered row =>
    parseMeasExtra numbered.1 (extraHeader ofSingle frame.body) frame.offset numbered.2 0 =
      .ok row) blocks.zipIdx rows

theorem zipIdx_map_range (f : Nat → α) (count : Nat) :
    ((List.range count).map f).zipIdx = (List.range count).map fun k => (f k, k) := by
  apply List.ext_getElem
  · simp
  · intro index first second
    simp

theorem decodeMeasExtra_narrow (ofSingle : Nat → F) {frame : SbfFrame}
    (narrow : frame.body.length < 12 ∨ u8 frame.body 7 < 16) :
    decodeMeasExtra ofSingle frame = .ok [] := by
  rw [decodeMeasExtra]
  split
  · rfl
  · simp (disch := omega) only [unpackI, unpackH, unpackFrom_eq, byteAt_eq, Checked.ok_bind,
      Checked.pure_eq_ok]
    rw [if_pos (by omega)]

theorem decodeMeasExtra_wide (ofSingle : Nat → F) (frame : SbfFrame)
    (long : 12 ≤ frame.body.length) (wide : 16 ≤ u8 frame.body 7) :
    ∃ rows, decodeMeasExtra ofSingle frame = .ok rows ∧
      AreRowsOf ofSingle frame (extraBlocks frame.body) rows := by
  have counted := nrSubblocks_mul_le (frame.body.length - 12) (u8 frame.body 7)
    (u8 frame.body 6)
  -- every sub-block is inside the body, so it is read there as it is read alone
  have parses : ∀ k ∈ List.range (nrSubblocks (frame.body.length - 12) (u8 frame.body 7)
      (u8 frame.body 6)), ∃ row : ExtraRow F,
      parseMeasExtra frame.body (extraHeader ofSingle frame.body) frame.offset (0 + k)
        (12 + k * u8 frame.body 7) = .ok row ∧
      parseMeasExtra (slice frame.body (12 + k * u8 frame.body 7)
        (12 + k * u8 frame.body 7 + u8 frame.body 7)) (extraHeader ofSingle frame.body)
        frame.offset k 0 = .ok row := by
    intro k member
    have before : (k + 1) * u8 frame.body 7 ≤ frame.body.length - 12 :=
      (Nat.mul_le_mul_right _ (List.mem_range.mp member)).trans counted
    rw [Nat.succ_mul] at before
    have inside : 12 + k * u8 frame.body 7 + 16 ≤ frame.body.length := by omega
    rcases parseMeasExtra_ok (F := F) inside (extraHeader ofSingle frame.body) frame.offset k with
      ⟨row, parsed⟩
    refine ⟨row, by rw [Nat.zero_add]; exact parsed, ?_⟩
    rw [parseMeasExtra, readExtra_slice wide (by omega)]
    exact parsed
  rcases Checked.mapM_eq_ok parses with ⟨rows, result, related⟩
  refine ⟨rows, ?_, ?_⟩
  · rw [decodeMeasExtra, if_neg (by omega)]
    simp (disch := omega) only [unpackI, unpackH, unpackFrom_eq, byteAt_eq, Checked.ok_bind]
    rw [if_neg (by omega), countSubblocks_eq (by omega), Checked.ok_bind,
      subBlocks_of_fits _ _ _ _ (by omega)]
    exact result
  · rw [AreRowsOf, extraBlocks, if_neg (by omega), zipIdx_map_range,
      List.forall₂_map_left_iff]
    exact related

theorem decodeMeasExtra_ok (ofSingle : Nat → F) (frame : SbfFrame) :
    ∃ rows, decodeMeasExtra ofSingle frame = .ok rows := by
  by_cases narrow : frame.body.length < 12 ∨ u8 frame.body 7 < 16
  · exact ⟨[], decodeMeasExtra_narrow ofSingle narrow⟩
  · rcases decodeMeasExtra_wide ofSingle frame (by omega) (by omega) with
      ⟨rows, result, _⟩
    exact ⟨rows, result⟩

theorem AreRowsOf.length_eq {ofSingle : Nat → F} {frame : SbfFrame} {blocks : List (List Byte)}
    {rows : List (ExtraRow F)} (areRows : AreRowsOf ofSingle frame blocks rows) :
    rows.length = blocks.length := by
  rw [← List.Forall₂.length_eq areRows, List.length_zipIdx]

end

/-! ## Counts modulo 256 -/

theorem measExtraSubblocks_layout (layout : ExtraLayout) {frame : SbfFrame}
    (same : frame.body = layout.body) :
    measExtraSubblocks frame = .ok (layout.header, u8 layout.header 7, layout.blocks) := by
  have positive := layout.positive
  have length := layout.length_body
  have header : layout.body.take 12 = layout.header := by
    rw [ExtraLayout.body, List.append_assoc, List.take_left' layout.headerSize]
  rw [measExtraSubblocks_of_long (by rw [same]; omega)
    (by rw [same, layout.u8_body (by omega)]; exact positive), same,
    layout.u8_body (by omega), layout.extraBlocks_body, header]

/-- What `meas_extra_subblocks` returns, and how much of the body that is. -/
theorem measExtraSubblocks_bounded (frame : SbfFrame) :
    ∃ header sbLen, measExtraSubblocks frame = .ok (header, sbLen, extraBlocks frame.body) ∧
      (extraBlocks frame.body).length * sbLen ≤ frame.body.length - 12 := by
  rw [measExtraSubblocks_eq]
  split
  · rename_i absent
    exact ⟨[], 0, by rw [extraBlocks, if_pos absent], Nat.zero_le _⟩
  · exact ⟨_, _, rfl, length_extraBlocks_mul_le frame.body⟩

/-- A body of selected blocks, framed and read again. -/
theorem rebuilt_extraBody_readBack {body : List Byte} {indices : List Nat}
    (some : keptBlocks (extraBlocks body) indices ≠ []) (long : 12 ≤ body.length)
    (positive : 0 < u8 body 7) {rawId : Nat} {bytes : List Byte}
    (rebuilt : rebuildSbfFrame rawId
      (extraBody body (keptBlocks (extraBlocks body) indices)) = .ok bytes) :
    ∃ alone header, iterFrames bytes = [alone] ∧ alone.rawId = rawId ∧
      measExtraSubblocks alone =
        .ok (header, u8 body 7, keptBlocks (extraBlocks body) indices) := by
  rcases intact_of_rebuildSbfFrame rebuilt with ⟨bound, small, rfl⟩
  have sizes : ∀ block ∈ keptBlocks (extraBlocks body) indices, block.length = u8 body 7 :=
    fun _ member => length_of_mem_keptBlocks member
  have length := length_extraBody long sizes
  let pad : List Byte := List.replicate
    ((4 - (8 + (extraBody body (keptBlocks (extraBlocks body) indices)).length) % 4) % 4) 0
  have short : pad.length < 256 * u8 body 7 := by
    rw [List.length_replicate]
    omega
  rcases extraBlocks_readBack long some positive sizes short with ⟨found, sbLen⟩
  let alone := ofDriver 0 (rebuiltFrame rawId
    (extraBody body (keptBlocks (extraBlocks body) indices)))
  have written : alone.body = extraBody body (keptBlocks (extraBlocks body) indices) ++ pad :=
    rfl
  have aloneLong : 12 ≤ alone.body.length := by
    rw [written, List.length_append]
    omega
  have again := measExtraSubblocks_of_long aloneLong (by rw [written, sbLen]; exact positive)
  rw [written, sbLen, found] at again
  refine ⟨alone, _, iterFrames_rebuilt bound small, ?_, again⟩
  change (BitVec.ofNat 16 rawId).toNat = rawId
  rw [BitVec.toNat_ofNat, Nat.mod_eq_of_lt bound]

/-- Both decoders recover the number of sub-blocks from its remainder, a selection
of sub-blocks that is written is read back, and no count exceeds the body. -/
theorem subblock_count_recovered (F : Type) [RoundedArithmetic F] (ofSingle : Nat → F) :
    (∀ (layout : ExtraLayout) (frame : SbfFrame), frame.body = layout.body →
      measExtraSubblocks frame = .ok (layout.header, u8 layout.header 7, layout.blocks) ∧
      (16 ≤ u8 layout.header 7 → ∃ rows, decodeMeasExtra ofSingle frame = .ok rows ∧
        rows.length = layout.blocks.length ∧ AreRowsOf ofSingle frame layout.blocks rows)) ∧
    (∀ (frame : SbfFrame) (indices : List Nat), indices ≠ [] →
      ∃ header sbLen blocks, measExtraSubblocks frame = .ok (header, sbLen, blocks) ∧
        ((keptBlocks blocks indices = [] ∧ buildMeasExtraBody frame indices = .ok none) ∨
          ∃ body, buildMeasExtraBody frame indices = .ok (some body) ∧
            ∀ rawId bytes, rebuildSbfFrame rawId body = .ok bytes →
              ∃ alone header', iterFrames bytes = [alone] ∧ alone.rawId = rawId ∧
                measExtraSubblocks alone = .ok (header', sbLen, keptBlocks blocks indices))) ∧
    ∀ frame : SbfFrame,
      (∃ header sbLen blocks, measExtraSubblocks frame = .ok (header, sbLen, blocks) ∧
        blocks.length * sbLen ≤ frame.body.length - 12) ∧
      ∃ rows, decodeMeasExtra ofSingle frame = .ok rows ∧
        rows.length * u8 frame.body 7 ≤ frame.body.length - 12 := by
  refine ⟨?_, ?_, ?_⟩
  · intro layout frame same
    refine ⟨measExtraSubblocks_layout layout same, fun wide => ?_⟩
    have length := layout.length_body
    rcases decodeMeasExtra_wide ofSingle frame (by rw [same]; omega)
      (by rw [same, layout.u8_body (by omega)]; exact wide) with ⟨rows, result, areRows⟩
    rw [same, layout.extraBlocks_body] at areRows
    exact ⟨rows, result, areRows.length_eq, areRows⟩
  · intro frame indices _
    by_cases nothing : keptBlocks (extraBlocks frame.body) indices = []
    · rcases measExtraSubblocks_bounded frame with ⟨header, sbLen, found, _⟩
      exact ⟨header, sbLen, _, found, .inl ⟨nothing, by
        rw [buildMeasExtraBody_eq, if_pos nothing]⟩⟩
    · rcases long_of_keptBlocks nothing with ⟨long, positive⟩
      refine ⟨frame.body.take 12, u8 frame.body 7, extraBlocks frame.body, ?_, .inr ?_⟩
      · exact measExtraSubblocks_of_long long positive
      · refine ⟨_, by rw [buildMeasExtraBody_eq, if_neg nothing], ?_⟩
        intro rawId bytes rebuilt
        exact rebuilt_extraBody_readBack nothing long positive rebuilt
  · intro frame
    rcases measExtraSubblocks_bounded frame with ⟨header, sbLen, found, bounded⟩
    refine ⟨⟨header, sbLen, _, found, bounded⟩, ?_⟩
    by_cases narrow : frame.body.length < 12 ∨ u8 frame.body 7 < 16
    · exact ⟨[], decodeMeasExtra_narrow ofSingle narrow, by simp⟩
    · rcases decodeMeasExtra_wide ofSingle frame (by omega) (by omega) with
        ⟨rows, result, areRows⟩
      refine ⟨rows, result, ?_⟩
      rw [areRows.length_eq]
      exact length_extraBlocks_mul_le frame.body

/-- The conversion of a single to a double, which is exact. -/
def doubleOfSingle (bits : Nat) : Binary64 :=
  (ieeeValue 8 23 bits).elim none Binary64.ofExact

/-- Two sub-blocks of sixteen bytes and three bytes behind them. -/
def twoExtras : ExtraLayout where
  header := [0, 0, 0, 0, 0, 0, 2, 16, 0, 0, 0x80, 0x3F]
  blocks := [List.replicate 16 1, List.replicate 16 2]
  trailing := [0, 0, 0]
  headerSize := rfl
  positive := by decide
  nonempty := by decide
  counted := rfl
  sameSize := by decide
  short := by decide

def twoExtrasFrame : SbfFrame := ⟨0, 0, 4000, 4000, 0, 55, twoExtras.body⟩

theorem twoExtras_recovered :
    (∃ rows, decodeMeasExtra doubleOfSingle twoExtrasFrame = .ok rows ∧ rows.length = 2) ∧
      ∃ body bytes alone header,
        buildMeasExtraBody twoExtrasFrame [1, 7] = .ok (some body) ∧
        rebuildSbfFrame 4000 body = .ok bytes ∧ iterFrames bytes = [alone] ∧
        measExtraSubblocks alone = .ok (header, 16, [List.replicate 16 2]) := by
  rcases subblock_count_recovered Binary64 doubleOfSingle with ⟨recovered, selected, _⟩
  rcases recovered twoExtras twoExtrasFrame rfl with ⟨found, decoded⟩
  refine ⟨?_, ?_⟩
  · rcases decoded (by decide) with ⟨rows, result, length, _⟩
    exact ⟨rows, result, length⟩
  · rcases selected twoExtrasFrame [1, 7] (by decide) with ⟨header, sbLen, blocks, again, cases⟩
    rw [found] at again
    cases again
    rcases cases with ⟨nothing, _⟩ | ⟨body, built, read⟩
    · exact absurd nothing (by decide)
    · have rebuilt : ∃ bytes, rebuildSbfFrame 4000 body = .ok bytes := by
        have shape := built
        rw [buildMeasExtraBody_eq] at shape
        cases shape
        exact ⟨_, rebuildSbfFrame_ok (by decide) (by decide)⟩
      rcases rebuilt with ⟨bytes, rebuilt⟩
      rcases read 4000 bytes rebuilt with ⟨alone, header, alone_eq, _, blocks_eq⟩
      exact ⟨body, bytes, alone, header, built, rebuilt, alone_eq, blocks_eq⟩

end AsterxDriver.Parser
