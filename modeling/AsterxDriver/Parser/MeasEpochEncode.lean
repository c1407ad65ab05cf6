import AsterxDriver.Parser.MeasEpochDecode
import AsterxDriver.Parser.ReadBack

/-! # What re-encoding a MeasEpoch keeps

Every decoded row becomes a Type-1 sub-block that reads back with the same
identity, but for the frequency number of some GLONASS signals. -/

namespace AsterxDriver.Parser

open Foundation ByteString FloatArithmetic RoundedArithmetic

/-! ## Packed bits -/

/-- The type byte holds the antenna and the low part of the signal number. -/
theorem typeByte_bits : ∀ antenna < 8, ∀ sigLo < 32,
    (((antenna &&& 0x07) <<< 5) ||| sigLo) < 256 ∧
      antennaId (((antenna &&& 0x07) <<< 5) ||| sigLo) = antenna ∧
      (((antenna &&& 0x07) <<< 5) ||| sigLo) &&& 0x1F = sigLo := by
  decide

/-- The info byte holds two flags and five bits of signal or channel. -/
theorem obsInfo_bits : ∀ smoothed halfCycle : Bool, ∀ upper < 32,
    (((if smoothed then 0x01 else 0) ||| (if halfCycle then 0x04 else 0) |||
        (upper <<< 3)) &&& 0xFF) < 256 ∧
      ((((if smoothed then 0x01 else 0) ||| (if halfCycle then 0x04 else 0) |||
        (upper <<< 3)) &&& 0xFF) >>> 3) &&& 0x1F = upper ∧
      decide ((((if smoothed then 0x01 else 0) ||| (if halfCycle then 0x04 else 0) |||
        (upper <<< 3)) &&& 0xFF) &&& 0x01 ≠ 0) = smoothed ∧
      decide ((((if smoothed then 0x01 else 0) ||| (if halfCycle then 0x04 else 0) |||
        (upper <<< 3)) &&& 0xFF) &&& 0x04 ≠ 0) = halfCycle := by
  decide

/-- The five bits that the encoder puts above the flags. -/
def Row.infoNumber {F : Type} (row : Row F) : Nat :=
  if row.signalType ≥ 32 then row.signalType - 32
  else if row.signalType ∈ [8, 9, 10, 11] then
    match row.glonassFreqNumber with
    | some gloK => ((gloK + 8) % 32).toNat
    | none => 0
  else 0

/-- The frequency number that the decoder finds in a rebuilt sub-block. -/
def Row.readBackNumber {F : Type} (row : Row F) : Option Int :=
  if row.signalType ∉ [8, 9, 10, 11, 12] then none else some (row.infoNumber - 8)

theorem typeByteForObservation_eq {F : Type} (row : Row F) :
    typeByteForObservation row = ((row.antennaId &&& 0x07) <<< 5) |||
      (if row.signalType ≥ 32 then 31 else row.signalType) := by
  unfold typeByteForObservation
  dsimp only
  split
  · rfl
  · rename_i small
    rw [show row.signalType &&& 0x1F = row.signalType from
      Nat.and_two_pow_sub_one_of_lt_two_pow (n := 5) (by omega)]

section

variable {F : Type} {row : Row F} (valid : row.identity.Valid)

include valid

theorem infoNumber_lt : row.infoNumber < 32 := by
  have range := valid.signalType
  change row.signalType < 64 ∧ _ at range
  unfold Row.infoNumber
  split
  · omega
  · split
    · split <;> omega
    · omega

theorem obsInfoForType1_eq :
    obsInfoForType1 row =
      ((if row.smoothed then 0x01 else 0) ||| (if row.halfCycle then 0x04 else 0) |||
        (row.infoNumber <<< 3)) &&& 0xFF := by
  have range := valid.signalType
  change row.signalType < 64 ∧ _ at range
  unfold obsInfoForType1 Row.infoNumber
  dsimp only
  split
  · rw [show (row.signalType - 32) &&& 0x1F = row.signalType - 32 from
      Nat.and_two_pow_sub_one_of_lt_two_pow (n := 5) (by omega)]
  · split
    · cases row.glonassFreqNumber with
      | some gloK => rfl
      | none => rw [Nat.zero_shiftLeft, Nat.or_zero]
    · rw [Nat.zero_shiftLeft, Nat.or_zero]

theorem typeByte_readBack :
    typeByteForObservation row < 256 ∧
      antennaId (typeByteForObservation row) = row.antennaId ∧
      typeByteForObservation row &&& 0x1F =
        if row.signalType ≥ 32 then 31 else row.signalType := by
  rw [typeByteForObservation_eq]
  exact typeByte_bits row.antennaId valid.antennaId _ (by split <;> omega)

theorem obsInfo_readBack :
    obsInfoForType1 row < 256 ∧ (obsInfoForType1 row >>> 3) &&& 0x1F = row.infoNumber ∧
      decide (obsInfoForType1 row &&& 0x01 ≠ 0) = row.smoothed ∧
      decide (obsInfoForType1 row &&& 0x04 ≠ 0) = row.halfCycle := by
  rw [obsInfoForType1_eq valid]
  exact obsInfo_bits row.smoothed row.halfCycle _ (infoNumber_lt valid)

theorem signalType_readBack :
    signalType (typeByteForObservation row) (obsInfoForType1 row) = row.signalType := by
  have range := valid.signalType
  change row.signalType < 64 ∧ row.signalType ≠ 31 at range
  unfold signalType
  dsimp only
  rw [(typeByte_readBack valid).2.2, (obsInfo_readBack valid).2.1]
  unfold Row.infoNumber
  split_ifs <;> omega

theorem glonassFreqNumber_readBack :
    glonassFreqNumber row.signalType (obsInfoForType1 row) = row.readBackNumber := by
  rw [glonassFreqNumber, (obsInfo_readBack valid).2.1, Row.readBackNumber]

end

/-! ## Sub-blocks -/

/-- The bytes of a Type-1 sub-block without Type-2 sub-blocks. -/
def Type1Fields.block (fields : Type1Fields) : List Byte :=
  [BitVec.ofNat 8 fields.rxCh, BitVec.ofNat 8 fields.typeB, BitVec.ofNat 8 fields.svid,
    BitVec.ofNat 8 fields.misc] ++ packU32le fields.codeLsb ++
    packU32le (toUnsigned 32 fields.dopplerRaw) ++ packU16le fields.carrierLsb ++
    [BitVec.ofNat 8 (toUnsigned 8 fields.carrierMsb), BitVec.ofNat 8 fields.cn0Raw] ++
    packU16le fields.lock ++ [BitVec.ofNat 8 fields.obsInfo, 0]

theorem Type1Fields.length_block (fields : Type1Fields) : fields.block.length = 20 := rfl

theorem toSigned_toUnsigned (bits : Nat) {value : Int} (positive : 0 < bits)
    (range : -2 ^ (bits - 1) ≤ value ∧ value < 2 ^ (bits - 1)) :
    toUnsigned bits value < 2 ^ bits ∧ toSigned bits (toUnsigned bits value) = value := by
  have double : 2 ^ bits = 2 ^ (bits - 1) * 2 := by
    rw [← Nat.pow_succ, Nat.succ_eq_add_one, Nat.sub_add_cancel positive]
  rw [← Nat.cast_ofNat, ← Nat.cast_pow] at range
  have reduced : value % ((2 ^ bits : ℕ) : ℤ) =
      if 0 ≤ value then value else value + ((2 ^ bits : ℕ) : ℤ) := by
    split
    · exact Int.emod_eq_of_lt (by omega) (by omega)
    · rw [← Int.add_emod_right, Int.emod_eq_of_lt (by omega) (by omega)]
  unfold toSigned toUnsigned
  rw [← Nat.cast_ofNat, ← Nat.cast_pow, reduced]
  split <;> split <;> omega

theorem Type1Fields.type1Fields_block {fields : Type1Fields} (fits : fields.Fits)
    (rest : List Byte) :
    type1Fields (fields.block ++ rest) = fields ∧ u8 (fields.block ++ rest) 19 = 0 := by
  have doppler := toSigned_toUnsigned 32 (by norm_num) fits.dopplerRaw
  have carrier := toSigned_toUnsigned 8 (by norm_num) fits.carrierMsb
  rcases fits with ⟨rxCh, typeB, svid, misc, codeLsb, _, carrierLsb, _, cn0Raw, lock, obsInfo⟩
  refine ⟨?_, rfl⟩
  cases fields
  simp only [type1Fields, Type1Fields.block, packU32le, packU16le, u16le, u32le,
    List.cons_append, List.nil_append, u8_cons_zero, u8_cons_succ, BitVec.toNat_ofNat,
    Nat.reduceAdd, Type1Fields.mk.injEq] at *
  refine ⟨by omega, by omega, by omega, by omega, by omega, ?_, by omega, ?_, by omega,
    by omega, by omega⟩
  · convert doppler.2 using 2
    omega
  · convert carrier.2 using 2
    omega

/-! ## Rows of one antenna -/

theorem rowsByAntenna_eq_group {F : Type} (rows : List (Row F)) :
    rowsByAntenna rows = Dict.group Row.antennaId id rows := rfl

theorem rowsByAntenna_eq_filter {F : Type} (rows : List (Row F)) (antenna : Nat) :
    (rowsByAntenna rows).getD antenna [] = rows.filter (·.antennaId = antenna) := by
  rw [rowsByAntenna_eq_group, Dict.getD_group, List.map_id]

theorem mem_rowsByAntenna_of_length_pos {F : Type} {rows : List (Row F)} {antenna : Nat}
    (some : 0 < ((rowsByAntenna rows).getD antenna []).length) :
    antenna ∈ rowsByAntenna rows := by
  rcases List.exists_mem_of_length_pos some with ⟨row, member⟩
  rw [rowsByAntenna_eq_filter, List.mem_filter] at member
  exact Dict.mem_group.mpr ⟨row, member.1, by simpa using member.2⟩

theorem rowsByAntenna_ne_nil {F : Type} {rows : List (Row F)} {antenna : Nat}
    (present : antenna ∈ rowsByAntenna rows) : (rowsByAntenna rows).getD antenna [] ≠ [] := by
  rcases Dict.mem_group.mp present with ⟨row, member, same⟩
  rw [rowsByAntenna_eq_filter]
  exact List.ne_nil_of_mem (List.mem_filter.mpr ⟨member, by simpa using same⟩)

/-! ## Encoding a row -/

/-- The identity with which a row comes back. -/
def Row.readBack {F : Type} (row : Row F) : Identity :=
  { row.identity with glonassFreqNumber := row.readBackNumber }

/-- The bytes are a sub-block from which the row comes back. -/
def EncodedAs {F : Type} (header : EpochHeader) (row : Row F) (block : List Byte) : Prop :=
  ∃ fields : Type1Fields, fields.Fits ∧ fields.block = block ∧
    fields.identity header = row.readBack

/-- The sub-blocks of a list of encoded rows. -/
theorem exists_fields {F : Type} {header : EpochHeader} {rows : List (Row F)}
    {encoded : List (List Byte)}
    (related : List.Forall₂ (EncodedAs header) rows encoded) :
    ∃ blocks : List Type1Fields, (∀ fields ∈ blocks, fields.Fits) ∧
      blocks.map Type1Fields.block = encoded ∧
      blocks.map (·.identity header) = rows.map Row.readBack := by
  induction related with
  | nil => exact ⟨[], by simp, rfl, rfl⟩
  | cons first _ induction =>
      rcases first with ⟨fields, fits, rfl, identity⟩
      rcases induction with ⟨blocks, allFit, rfl, identities⟩
      refine ⟨fields :: blocks, ?_, rfl, ?_⟩
      · exact List.forall_mem_cons.mpr ⟨fits, allFit⟩
      · rw [List.map_cons, List.map_cons, identity, identities]

variable {F : Type} [RoundedArithmetic F]

theorem intRound_ok {value : F} {bound : ℕ} (within : Within value bound) :
    ∃ integer, intRound value = .ok integer := by
  rcases within.roundInt with ⟨integer, rounded⟩
  exact ⟨integer, by rw [intRound, rounded]⟩

/-- A value in units of `1 / factor`. -/
theorem intRound_scaled {value : F} {bound : ℕ} (within : Within value bound) (factor : ℚ)
    (scale : ℕ) (whole : factor = scale) (small : bound * scale ≤ 2 ^ 53)
    (scaleSmall : scale ≤ 2 ^ 53) :
    ∃ integer, intRound (mul value (ofRat factor)) = .ok integer := by
  have factorWithin : Within (ofRat factor : F) scale :=
    within_ofRat (by rw [whole, Nat.abs_cast]) scaleSmall
  exact intRound_ok (within.mul factorWithin small)

theorem encodeCodeFields_ok {pseudorangeM : Option F}
    (within : ∀ value, pseudorangeM = some value → Within value (2 ^ 37)) :
    ∃ codeMsb codeLsb, encodeCodeFields pseudorangeM = .ok (codeMsb, codeLsb) ∧
      codeMsb < 16 ∧ codeLsb < 4294967296 := by
  cases pseudorangeM with
  | none => exact ⟨0, 0, rfl, by norm_num, by norm_num⟩
  | some value =>
      rcases intRound_scaled (within value rfl) 1000 1000 (by norm_num) (by norm_num)
          (by norm_num) with ⟨codeUnits, rounded⟩
      rw [encodeCodeFields, rounded, Checked.ok_bind]
      split
      · exact ⟨0, 0, rfl, by norm_num, by norm_num⟩
      · exact ⟨_, _, rfl, Nat.lt_succ_of_le Nat.and_le_right,
          Nat.lt_succ_of_le Nat.and_le_right⟩

theorem encodeDopplerRaw_ok {dopplerHz : Option F}
    (within : ∀ value, dopplerHz = some value → Within value (2 ^ 33)) :
    ∃ raw, encodeDopplerRaw dopplerHz = .ok raw ∧ -2147483648 ≤ raw ∧ raw < 2147483648 := by
  cases dopplerHz with
  | none => exact ⟨_, rfl, by norm_num, by norm_num⟩
  | some value =>
      rcases intRound_scaled (within value rfl) 10000 10000 (by norm_num) (by norm_num)
          (by norm_num) with ⟨raw, rounded⟩
      rw [encodeDopplerRaw, rounded, Checked.ok_bind]
      exact ⟨_, rfl, by omega, by omega⟩

theorem encodeCarrierFields_ok {row : Row F} (encodable : row.Encodable) (obsInfo : Nat) :
    ∃ carrierLsb carrierMsb,
      encodeCarrierFields row obsInfo = .ok (carrierLsb, carrierMsb) ∧
      carrierLsb < 65536 ∧ -128 ≤ carrierMsb ∧ carrierMsb < 128 := by
  unfold encodeCarrierFields
  split
  · rename_i pseudorange phase pseudorangeEq phaseEq
    split
    · exact ⟨0, -128, rfl, by norm_num, by norm_num, by norm_num⟩
    · rename_i freq found
      have value : FrequencyValue freq := carrierFrequencyHz_value
        (fun k number => (encodable.identity.glonassFreqNumber k number).2) found
      rcases cycles_value (encodable.pseudorange _ pseudorangeEq) value (by norm_num) with
        ⟨wavelength, cycles, first, second, cyclesWithin⟩
      rcases intRound_scaled ((encodable.phase _ phaseEq).sub cyclesWithin (by norm_num)) 1000
          1000 (by norm_num) (by norm_num) (by norm_num) with ⟨relative, rounded⟩
      rw [first, Checked.ok_bind, second, Checked.ok_bind, rounded, Checked.ok_bind]
      dsimp only
      split
      · exact ⟨0, -128, rfl, by norm_num, by norm_num, by norm_num⟩
      · exact ⟨_, _, rfl, Nat.lt_succ_of_le Nat.and_le_right, by omega, by omega⟩
  · exact ⟨0, -128, rfl, by norm_num, by norm_num, by norm_num⟩

theorem and_byte {value : Nat} (small : value < 256) : value &&& 0xFF = value :=
  Nat.and_two_pow_sub_one_of_lt_two_pow (n := 8) small

/-- Every encodable row becomes a sub-block of fields that hold its identity. -/
theorem encodeType1Observation_fields {row : Row F} (encodable : row.Encodable) :
    ∃ fields : Type1Fields, fields.Fits ∧ encodeType1Observation row = .ok fields.block ∧
      fields.identity row.header = row.readBack ∧
      encodeCodeFields row.pseudorangeM = .ok (fields.misc, fields.codeLsb) ∧
      encodeDopplerRaw row.dopplerHz = .ok fields.dopplerRaw ∧
      encodeCarrierFields row (obsInfoForType1 row) =
        .ok (fields.carrierLsb, fields.carrierMsb) := by
  have valid := encodable.identity
  have rxChannel : row.rxChannel < 256 := valid.rxChannel
  have svid : row.svid < 256 := valid.svid
  have typeByte := (typeByte_readBack valid).1
  have obsInfo := obsInfo_readBack valid
  rcases encodeCodeFields_ok encodable.pseudorange with ⟨codeMsb, codeLsb, code, msbSmall, lsbSmall⟩
  rcases encodeCarrierFields_ok encodable (obsInfoForType1 row) with
    ⟨carrierLsb, carrierMsb, carrier, carrierSmall, carrierRange⟩
  rcases encodeDopplerRaw_ok encodable.doppler with ⟨dopplerRaw, doppler, dopplerRange⟩
  have cn0 : row.cn0Raw.getD 255 < 256 ∧ dnuU (row.cn0Raw.getD 255) 255 = row.cn0Raw := by
    cases number : row.cn0Raw with
    | none => exact ⟨by norm_num, rfl⟩
    | some value =>
        have := valid.cn0Raw value number
        exact ⟨by rw [Option.getD_some]; omega, if_neg (by rw [Option.getD_some]; omega)⟩
  have lock : row.lockTimeS.getD 65535 < 65536 ∧
      dnuU (row.lockTimeS.getD 65535) 65535 = row.lockTimeS := by
    cases number : row.lockTimeS with
    | none => exact ⟨by norm_num, rfl⟩
    | some value =>
        have := valid.lockTimeS value number
        exact ⟨by rw [Option.getD_some]; omega, if_neg (by rw [Option.getD_some]; omega)⟩
  refine ⟨⟨row.rxChannel, typeByteForObservation row, row.svid, codeMsb, codeLsb,
    dopplerRaw, carrierLsb, carrierMsb, row.cn0Raw.getD 255, row.lockTimeS.getD 65535,
    obsInfoForType1 row⟩, ?_, ?_, ?_, code, doppler, carrier⟩
  · exact ⟨rxChannel, typeByte, svid, msbSmall.trans (by norm_num), lsbSmall, dopplerRange,
      carrierSmall, carrierRange, cn0.1, lock.1, obsInfo.1⟩
  · simp only [encodeType1Observation, code, carrier, doppler, Checked.ok_bind,
      and_byte rxChannel, and_byte svid, and_byte cn0.1,
      show codeMsb &&& 0x0F = codeMsb from
        Nat.and_two_pow_sub_one_of_lt_two_pow (n := 4) msbSmall,
      show min 65535 (row.lockTimeS.getD 65535) = row.lockTimeS.getD 65535 by omega,
      packB, packI, packH, packSignedI, packSignedB, if_pos rxChannel, if_pos svid,
      if_pos typeByte, if_pos obsInfo.1, if_pos cn0.1, if_pos lock.1, if_pos lsbSmall,
      if_pos carrierSmall, if_pos carrierRange, if_pos dopplerRange,
      if_pos (show codeMsb < 256 by omega), if_pos (show 0 < 256 by norm_num),
      List.mapM_cons, List.mapM_nil, id]
    rfl
  · simp only [Type1Fields.identity, Row.readBack, Row.identity, Row.header,
      signalType_readBack valid, (typeByte_readBack valid).2.1,
      glonassFreqNumber_readBack valid, cn0.2, lock.2, obsInfo.2.2.1, obsInfo.2.2.2]

theorem encodeType1Observation_ok {row : Row F} (encodable : row.Encodable) :
    ∃ block, encodeType1Observation row = .ok block ∧ EncodedAs row.header row block := by
  rcases encodeType1Observation_fields encodable with ⟨fields, fits, encoded, identity, _⟩
  exact ⟨fields.block, encoded, fields, fits, rfl, identity⟩

/-! ## A block of Type-1 sub-blocks -/

/-- The bytes before the sub-blocks of a rebuilt body. -/
def epochHeaderBytes (header : EpochHeader) (count : Nat) : List Byte :=
  packU32le header.tow ++ packU16le header.wnc ++
    [BitVec.ofNat 8 count, 20, 12, BitVec.ofNat 8 header.commonFlags,
      BitVec.ofNat 8 header.cumClkJumps, 0]

theorem epochHeader_headerBytes {header : EpochHeader} (valid : header.Valid) {count : Nat}
    (small : count < 256) (rest : List Byte) :
    epochHeader (epochHeaderBytes header count ++ rest) = header ∧
      u8 (epochHeaderBytes header count ++ rest) 6 = count := by
  rcases valid with ⟨tow, wnc, commonFlags, cumClkJumps⟩
  cases header
  simp only [epochHeader, epochHeaderBytes, packU32le, packU16le, u16le, u32le,
    List.cons_append, List.nil_append, u8_cons_zero, u8_cons_succ, BitVec.toNat_ofNat,
    Nat.reduceAdd, EpochHeader.mk.injEq] at *
  omega

/-- Decoding sub-blocks that stand one after another. -/
theorem type1Loop_blocks (frame : SbfFrame) {header : EpochHeader} (valid : header.Valid)
    {blocks : List Type1Fields} (fits : ∀ fields ∈ blocks, fields.Fits)
    (epochIndex off obsIndex : Nat)
    (there : frame.body.drop off = blocks.flatMap Type1Fields.block) :
    ∃ rows : List (ParsedRow F),
      type1Loop frame header 20 12 blocks.length epochIndex off obsIndex = .ok rows ∧
      rows.map (·.row.identity) = blocks.map (·.identity header) ∧
      ∀ parsed ∈ rows, parsed.row.level = 1 := by
  induction blocks generalizing epochIndex off obsIndex with
  | nil => exact ⟨[], rfl, rfl, by simp⟩
  | cons fields later induction =>
      rw [List.flatMap_cons] at there
      rcases Type1Fields.type1Fields_block (fits fields (List.mem_cons_self ..))
          (later.flatMap Type1Fields.block) with ⟨sameFields, noChildren⟩
      have length := congrArg List.length there
      rw [List.length_drop, List.length_append, Type1Fields.length_block] at length
      rw [← there, u8_drop] at noChildren
      rw [← there] at sameFields
      rcases Type1Fields.parse_spec (F := F) (fits fields (List.mem_cons_self ..)) epochIndex
          obsIndex frame valid with ⟨parent, parsed, identity, level, _⟩
      have next : frame.body.drop (off + 20) = later.flatMap Type1Fields.block := by
        rw [← List.drop_drop, there, ← Type1Fields.length_block fields, List.drop_left]
      rcases induction (fun other member => fits other (List.mem_cons_of_mem _ member))
          (epochIndex + 1) (off + 20) (obsIndex + 1) next with ⟨rows, result, identities, levels⟩
      refine ⟨parent :: rows, ?_, ?_, ?_⟩
      · rw [List.length_cons, type1Loop, if_neg (by omega), parseType1Measurement,
          readType1_eq (by omega), sameFields, Checked.ok_bind, parsed, Checked.ok_bind,
          byteAt_eq (by omega), noChildren, Checked.ok_bind, type2Loop, Checked.ok_bind]
        simp only [Nat.zero_mul, Nat.add_zero, List.length_nil, result]
        rfl
      · rw [List.map_cons, List.map_cons, identity, identities]
      · intro other member
        rcases List.mem_cons.mp member with rfl | member
        · exact level
        · exact levels other member

/-! ## Rebuilt blocks -/

theorem Coherent.rowsByAntenna {header : EpochHeader} {rows : List (Row F)}
    (coherent : Coherent header rows) (antenna : Nat) :
    Coherent header ((rowsByAntenna rows).getD antenna []) := by
  rw [rowsByAntenna_eq_filter]
  exact fun row member => coherent row (List.mem_of_mem_filter member)

theorem buildMeasEpochBody_ok {header : EpochHeader} (valid : header.Valid) {rows : List (Row F)}
    (coherent : Coherent header rows) (nonempty : rows ≠ []) (few : rows.length ≤ 255) :
    ∃ blocks : List Type1Fields, (∀ fields ∈ blocks, fields.Fits) ∧
      blocks.map (·.identity header) = rows.map Row.readBack ∧
      buildMeasEpochBody rows =
        .ok (epochHeaderBytes header rows.length ++ blocks.flatMap Type1Fields.block) := by
  have each : ∀ row ∈ rows, ∃ block, encodeType1Observation row = .ok block ∧
      EncodedAs header row block := by
    intro row member
    rcases coherent row member with ⟨sameHeader, encodable⟩
    rw [← sameHeader]
    exact encodeType1Observation_ok encodable
  rcases Checked.mapM_eq_ok each with ⟨encoded, result, related⟩
  rcases exists_fields related with ⟨blocks, fits, rfl, identities⟩
  refine ⟨blocks, fits, identities, ?_⟩
  cases rows with
  | nil => exact absurd rfl nonempty
  | cons first later =>
      rcases coherent first (List.mem_cons_self ..) with ⟨rfl, _⟩
      have tow : first.towMs < 4294967296 := valid.tow
      have wnc : first.wnc < 65536 := valid.wnc
      have commonFlags : first.commonFlags < 256 := valid.commonFlags
      have cumClkJumps : first.cumClkJumpsMs < 256 := valid.cumClkJumps
      simp only [buildMeasEpochBody, if_neg (show ¬(first :: later).length > 255 by omega),
        result, packB, packI, packH, if_pos tow, if_pos wnc, and_byte commonFlags,
        and_byte cumClkJumps, if_pos commonFlags, if_pos cumClkJumps,
        if_pos (show (first :: later).length < 256 by omega),
        if_pos (show 20 < 256 by norm_num), if_pos (show 12 < 256 by norm_num),
        if_pos (show 0 < 256 by norm_num), List.mapM_cons, List.mapM_nil, id,
        Checked.ok_bind, List.flatMap_def]
      rfl

theorem length_blocks (blocks : List Type1Fields) :
    (blocks.flatMap Type1Fields.block).length = 20 * blocks.length := by
  rw [List.flatMap_def, length_flatten_of_forall, List.length_map, Nat.mul_comm]
  intro block member
  rcases List.mem_map.mp member with ⟨fields, _, rfl⟩
  exact fields.length_block

/-- A rebuilt block reads back with one Type-1 row for each row. -/
theorem decodeMeasEpoch_readBack {header : EpochHeader} (valid : header.Valid)
    {blocks : List Type1Fields} (fits : ∀ fields ∈ blocks, fields.Fits)
    (few : blocks.length ≤ 255) (frame : SbfFrame)
    (body : frame.body = epochHeaderBytes header blocks.length ++
      blocks.flatMap Type1Fields.block) :
    ∃ again : List (Row F), decodeMeasEpoch frame = .ok again ∧
      again.map Row.identity = blocks.map (·.identity header) ∧
      ∀ row ∈ again, row.level = 1 := by
  rcases epochHeader_headerBytes valid (show blocks.length < 256 by omega)
      (blocks.flatMap Type1Fields.block) with ⟨sameHeader, count⟩
  rw [← body] at sameHeader count
  have sizes : u8 frame.body 7 = 20 ∧ u8 frame.body 8 = 12 := by
    rw [body]
    exact ⟨rfl, rfl⟩
  have there : frame.body.drop 12 = blocks.flatMap Type1Fields.block := by
    rw [body]
    rfl
  rcases type1Loop_blocks (F := F) frame valid fits 0 12 0 there with
    ⟨rows, result, identities, levels⟩
  refine ⟨rows.map ParsedRow.row, ?_, ?_, ?_⟩
  · rw [decodeMeasEpoch_eq frame (by rw [body, List.length_append]; exact Nat.le_add_right 12 _),
      sameHeader, sizes.1, sizes.2, count, result]
    rfl
  · rw [List.map_map]
    exact identities
  · intro row member
    rcases List.mem_map.mp member with ⟨parsed, found, rfl⟩
    exact levels parsed found

end AsterxDriver.Parser
