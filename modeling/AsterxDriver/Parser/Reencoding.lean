import AsterxDriver.Parser.CarrierReencoding

/-! # Sub-blocks that are written twice

What `encode_type1_observation` makes of a row that was read from its own output.
Only a phase without a pseudorange is lost. The arithmetic is exact. -/

namespace AsterxDriver.Parser

open Foundation ByteString FloatArithmetic

/-! ## Written fields -/

/-- The fields of a row with these measured values. -/
def Row.written (row : Row ℚ) (code : Nat × Nat) (dopplerRaw : Int) (carrier : Nat × Int) :
    Type1Fields where
  rxCh := row.rxChannel
  typeB := typeByteForObservation row
  svid := row.svid
  misc := code.1
  codeLsb := code.2
  dopplerRaw := dopplerRaw
  carrierLsb := carrier.1
  carrierMsb := carrier.2
  cn0Raw := row.cn0Raw.getD 255
  lock := row.lockTimeS.getD 65535
  obsInfo := obsInfoForType1 row

section

variable {row : Row ℚ} (encodable : row.Encodable)

include encodable

theorem cn0Raw_written :
    row.cn0Raw.getD 255 < 256 ∧ dnuU (row.cn0Raw.getD 255) 255 = row.cn0Raw := by
  cases number : row.cn0Raw with
  | none => exact ⟨by norm_num, rfl⟩
  | some value =>
      have small : value < 255 := encodable.identity.cn0Raw value number
      rw [Option.getD_some]
      exact ⟨by omega, if_neg (by omega)⟩

theorem lockTimeS_written :
    row.lockTimeS.getD 65535 < 65536 ∧
      dnuU (row.lockTimeS.getD 65535) 65535 = row.lockTimeS := by
  cases number : row.lockTimeS with
  | none => exact ⟨by norm_num, rfl⟩
  | some value =>
      have small : value < 65535 := encodable.identity.lockTimeS value number
      rw [Option.getD_some]
      exact ⟨by omega, if_neg (by omega)⟩

end

/-- The values of the row, as they are written. -/
structure Row.Measures (row : Row ℚ) (code : Nat × Nat) (dopplerRaw : Int)
    (carrier : Nat × Int) : Prop where
  code : encodeCodeFields row.pseudorangeM = .ok code
  doppler : encodeDopplerRaw row.dopplerHz = .ok dopplerRaw
  carrier : encodeCarrierFields row (obsInfoForType1 row) = .ok carrier

theorem exists_measures {row : Row ℚ} (encodable : row.Encodable) :
    ∃ code dopplerRaw carrier, row.Measures code dopplerRaw carrier := by
  rcases encodeType1Observation_fields encodable with
    ⟨fields, _, _, _, code, doppler, carrier⟩
  exact ⟨_, _, _, code, doppler, carrier⟩

section

variable {row : Row ℚ} (encodable : row.Encodable) {code : Nat × Nat} {dopplerRaw : Int}
  {carrier : Nat × Int} (measures : row.Measures code dopplerRaw carrier)

include encodable measures

/-- The ranges of what is written. -/
theorem measures_range : code.1 < 16 ∧ code.2 < 4294967296 ∧
    (-2147483648 ≤ dopplerRaw ∧ dopplerRaw < 2147483648) ∧ carrier.1 < 65536 ∧
    -128 ≤ carrier.2 ∧ carrier.2 < 128 := by
  rcases encodeCodeFields_ok encodable.pseudorange with ⟨codeMsb, codeLsb, found, msb, lsb⟩
  rw [measures.code] at found
  cases found
  rcases encodeDopplerRaw_ok encodable.doppler with ⟨raw, found, range⟩
  rw [measures.doppler] at found
  cases found
  rcases encodeCarrierFields_ok encodable (obsInfoForType1 row) with
    ⟨carrierLsb, carrierMsb, found, small, carrierRange⟩
  rw [measures.carrier] at found
  cases found
  exact ⟨msb, lsb, range, small, carrierRange⟩

theorem fits_written : (row.written code dopplerRaw carrier).Fits := by
  rcases measures_range encodable measures with ⟨msb, lsb, doppler, carrierLsb, carrierMsb⟩
  have valid := encodable.identity
  exact ⟨valid.rxChannel, (typeByte_readBack valid).1, valid.svid, msb.trans (by norm_num), lsb,
    doppler, carrierLsb, carrierMsb, (cn0Raw_written encodable).1,
    (lockTimeS_written encodable).1, (obsInfo_readBack valid).1⟩

omit measures in
theorem identity_written :
    (row.written code dopplerRaw carrier).identity row.header = row.readBack := by
  have valid := encodable.identity
  have obsInfo := obsInfo_readBack valid
  simp only [Type1Fields.identity, Row.written, Row.readBack, Row.identity, Row.header,
    signalType_readBack valid, (typeByte_readBack valid).2.1, glonassFreqNumber_readBack valid,
    (cn0Raw_written encodable).2, (lockTimeS_written encodable).2]
  congr 1
  · exact obsInfo.2.2.1
  · exact obsInfo.2.2.2

theorem encodeType1Observation_written :
    encodeType1Observation row = .ok (row.written code dopplerRaw carrier).block := by
  rcases measures_range encodable measures with ⟨msb, lsb, doppler, carrierLsb, carrierMsb⟩
  have rxChannel : row.rxChannel < 256 := encodable.identity.rxChannel
  have svid : row.svid < 256 := encodable.identity.svid
  have cn0 := (cn0Raw_written encodable).1
  have lock := (lockTimeS_written encodable).1
  simp only [encodeType1Observation, measures.code, measures.carrier, measures.doppler,
    Checked.ok_bind, and_byte rxChannel, and_byte svid, and_byte cn0,
    show code.1 &&& 0x0F = code.1 from Nat.and_two_pow_sub_one_of_lt_two_pow (n := 4) msb,
    show min 65535 (row.lockTimeS.getD 65535) = row.lockTimeS.getD 65535 by omega,
    packB, packI, packH, packSignedI, packSignedB, if_pos rxChannel, if_pos svid,
    if_pos (typeByte_readBack encodable.identity).1,
    if_pos (obsInfo_readBack encodable.identity).1, if_pos cn0, if_pos lock, if_pos lsb,
    if_pos carrierLsb, if_pos carrierMsb, if_pos doppler, if_pos (show code.1 < 256 by omega),
    if_pos (show 0 < 256 by norm_num), List.mapM_cons, List.mapM_nil, id]
  rfl

end

/-! ## The second time -/

section

variable {first second : Row ℚ} (same : second.identity = first.readBack)

include same

/-- A row that was read back keeps its five bits. -/
theorem infoNumber_twice (valid : first.identity.Valid) :
    second.infoNumber = first.infoNumber := by
  have small := infoNumber_lt valid
  have signal : second.signalType = first.signalType := congrArg Identity.signalType same
  have number : second.glonassFreqNumber = first.readBackNumber :=
    congrArg Identity.glonassFreqNumber same
  rw [Row.infoNumber, signal, number]
  split
  · rename_i upper
    rw [Row.infoNumber, if_pos upper]
  · rename_i lower
    split
    · rename_i glonass
      have numbered : ¬first.signalType ∉ [8, 9, 10, 11, 12] :=
        not_not.mpr (List.mem_append_left [12] glonass)
      rw [Row.readBackNumber, if_neg numbered]
      dsimp only
      omega
    · rename_i other
      rw [Row.infoNumber, if_neg lower, if_neg other]

theorem typeByte_twice : typeByteForObservation second = typeByteForObservation first := by
  have signal : second.signalType = first.signalType := congrArg Identity.signalType same
  have antenna : second.antennaId = first.antennaId := congrArg Identity.antennaId same
  rw [typeByteForObservation_eq, typeByteForObservation_eq, signal, antenna]

theorem readBack_twice (valid : first.identity.Valid) (validAgain : second.identity.Valid) :
    second.readBack = second.identity ∧ obsInfoForType1 second = obsInfoForType1 first := by
  have signal : second.signalType = first.signalType := congrArg Identity.signalType same
  have info := infoNumber_twice same valid
  constructor
  · have number : second.readBackNumber = second.glonassFreqNumber := by
      rw [Row.readBackNumber, signal, info]
      exact (congrArg Identity.glonassFreqNumber same).symm
    rw [Row.readBack, number]
    rfl
  · have smoothed : second.smoothed = first.smoothed := congrArg Identity.smoothed same
    have halfCycle : second.halfCycle = first.halfCycle := congrArg Identity.halfCycle same
    rw [obsInfoForType1_eq validAgain, obsInfoForType1_eq valid, info, smoothed, halfCycle]

/-- Only the measured values of the fields can change. -/
theorem written_twice (valid : first.identity.Valid) (validAgain : second.identity.Valid)
    (code : Nat × Nat) (dopplerRaw : Int) (carrier : Nat × Int) :
    second.written code dopplerRaw carrier = first.written code dopplerRaw carrier := by
  have rxChannel : second.rxChannel = first.rxChannel := congrArg Identity.rxChannel same
  have svid : second.svid = first.svid := congrArg Identity.svid same
  have cn0Raw : second.cn0Raw = first.cn0Raw := congrArg Identity.cn0Raw same
  have lockTimeS : second.lockTimeS = first.lockTimeS := congrArg Identity.lockTimeS same
  rw [Row.written, Row.written, rxChannel, svid, cn0Raw, lockTimeS, typeByte_twice same,
    (readBack_twice same valid validAgain).2]

end

/-- The code fields come back from the pseudorange that is read from them. -/
theorem encodeCodeFields_type1Pseudorange {misc codeLsb : Nat} (msb : misc < 16)
    (lsb : codeLsb < 4294967296) :
    encodeCodeFields (type1Pseudorange (F := ℚ) (misc &&& 0x0F) codeLsb) =
      .ok (misc, codeLsb) := by
  have masked : misc &&& 0x0F = misc := Nat.and_two_pow_sub_one_of_lt_two_pow (n := 4) msb
  rw [masked, type1Pseudorange]
  split
  · rename_i known
    rw [thousandths_eq, encodeCodeFields_units, if_neg (by omega), Int.toNat_natCast]
    have high : (misc * 4294967296 + codeLsb) >>> 32 = misc := by
      rw [Nat.shiftRight_eq_div_pow]
      omega
    have low : (misc * 4294967296 + codeLsb) &&& 0xFFFFFFFF = codeLsb := by
      rw [show (0xFFFFFFFF : Nat) = 2 ^ 32 - 1 from rfl, Nat.and_two_pow_sub_one_eq_mod]
      omega
    rw [high, low, masked]
  · rename_i unknown
    have zero : misc = 0 ∧ codeLsb = 0 := by omega
    rw [zero.1, zero.2]
    rfl

/-- The upper field is -128 only for a phase that is not known. -/
theorem carrier_known {row : Row ℚ} {obsInfo : Nat} {carrier : Nat × Int}
    (encoded : encodeCarrierFields row obsInfo = .ok carrier) :
    carrier = (0, -128) ∨ carrier.2 ≠ -128 := by
  unfold encodeCarrierFields at encoded
  split at encoded
  · split at encoded
    · cases encoded
      exact .inl rfl
    · rcases Checked.bind_eq_ok.mp encoded with ⟨wavelength, _, encoded⟩
      rcases Checked.bind_eq_ok.mp encoded with ⟨cycles, _, encoded⟩
      rcases Checked.bind_eq_ok.mp encoded with ⟨relative, _, encoded⟩
      dsimp only at encoded
      split at encoded
      · cases encoded
        exact .inl rfl
      · cases encoded
        exact .inr (by omega)
  · cases encoded
    exact .inl rfl

theorem encodeCarrierFields_of_noFrequency {row : Row ℚ} {obsInfo : Nat}
    (noFrequency : carrierFrequencyHz (F := ℚ) row.signalType obsInfo row.glonassFreqNumber =
      none) : encodeCarrierFields row obsInfo = .ok (0, -128) := by
  unfold encodeCarrierFields
  split
  · rw [noFrequency]
  · rfl

theorem encodeCarrierFields_of_noRange {row : Row ℚ} {obsInfo : Nat}
    (noRange : row.pseudorangeM = none) : encodeCarrierFields row obsInfo = .ok (0, -128) := by
  unfold encodeCarrierFields
  rw [noRange]

section

variable {first second : Row ℚ} (encodable : first.Encodable) {code : Nat × Nat}
  {dopplerRaw : Int} {carrier : Nat × Int} (measures : first.Measures code dopplerRaw carrier)
  (encodableAgain : second.Encodable) (same : second.identity = first.readBack)
  (computed : carrierPhase second.pseudorangeM second.frequency carrier.2 carrier.1 =
    .ok second.carrierPhaseCycles)

include encodable measures encodableAgain same computed

/-- With a pseudorange, a carrier phase that was written is written again. -/
theorem carrier_twice {range : ℚ} (hasRange : second.pseudorangeM = some range) :
    encodeCarrierFields second (obsInfoForType1 second) = .ok carrier := by
  have signal : second.signalType = first.signalType := congrArg Identity.signalType same
  have number : second.glonassFreqNumber = first.readBackNumber :=
    congrArg Identity.glonassFreqNumber same
  have written := frequency_written encodableAgain.identity
  rw [hasRange] at computed
  cases hasFrequency : second.frequency with
  | none =>
      rw [hasFrequency] at written
      rw [encodeCarrierFields_of_noFrequency written]
      have read := frequency_read encodable.identity
      rw [← signal, ← number, ← Row.frequency, hasFrequency, signal] at read
      split at read
      · cases read
      · have absent := frequency_written encodable.identity
        rw [← read] at absent
        exact (encodeCarrierFields_of_noFrequency absent).symm.trans measures.carrier
  | some frequency =>
      rw [hasFrequency] at computed
      have phase := carrierPhase_eq_ok computed
      split at phase
      · rename_i unknown
        rw [encodeCarrierFields_of_none phase, ← unknown.1, ← unknown.2]
      · rename_i known
        have msb : carrier.2 ≠ -128 := by
          rcases carrier_known measures.carrier with rfl | msb
          · exact absurd ⟨rfl, rfl⟩ known
          · exact msb
        rcases measures_range encodable measures with ⟨_, _, _, lsb, low, high⟩
        rw [hasFrequency] at written
        rcases encodeCarrierFields_ok encodableAgain (obsInfoForType1 second) with
          ⟨carrierLsb, carrierMsb, encoded, small, _⟩
        rcases encodeCarrierFields_eq_ok hasRange phase written (roundHalfEven_of_phase rfl)
          encoded with ⟨_, _, value⟩ | ⟨unstorable, _⟩
        · rw [encoded]
          have lsbSame : carrierLsb = carrier.1 := by omega
          have msbSame : carrierMsb = carrier.2 := by omega
          rw [lsbSame, msbSame]
        · exact absurd ⟨by omega, by omega⟩ unstorable

end

/-! ## Settled fields -/

/-- The fields without a phase that has no pseudorange to refer to. -/
def Type1Fields.settled (fields : Type1Fields) : Type1Fields :=
  if fields.misc = 0 ∧ fields.codeLsb = 0 then
    { fields with carrierLsb := 0, carrierMsb := -128 }
  else fields

/-- Fields that some row of the epoch is written as. -/
def IsWritten (header : EpochHeader) (fields : Type1Fields) : Prop :=
  ∃ (row : Row ℚ) (code : Nat × Nat) (dopplerRaw : Int) (carrier : Nat × Int),
    row.header = header ∧ row.Encodable ∧ row.Measures code dopplerRaw carrier ∧
      fields = row.written code dopplerRaw carrier

theorem IsWritten.fits {header : EpochHeader} {fields : Type1Fields}
    (isWritten : IsWritten header fields) : fields.Fits := by
  rcases isWritten with ⟨row, code, dopplerRaw, carrier, _, encodable, measures, rfl⟩
  exact fits_written encodable measures

/-- A row is read from the fields, and they are settled when it is written. -/
def Type1Fields.Rewrites (header : EpochHeader) (fields : Type1Fields) (row : Row ℚ) : Prop :=
  row.header = header ∧ row.Encodable ∧ row.antennaId = antennaId fields.typeB ∧
    encodeType1Observation row = .ok fields.settled.block

theorem IsWritten.rewrites {header : EpochHeader} (valid : header.Valid) {fields : Type1Fields}
    (isWritten : IsWritten header fields) {epochIndex obsIndex : Nat} {frame : SbfFrame}
    {again : ParsedRow ℚ} (parses : fields.parse epochIndex obsIndex frame header = .ok again) :
    fields.Rewrites header again.row ∧ IsWritten header fields.settled := by
  have fits := isWritten.fits
  rcases isWritten with ⟨row, code, dopplerRaw, carrier, rfl, encodable, measures, rfl⟩
  rcases Type1Fields.parse_spec (F := ℚ) fits epochIndex obsIndex frame valid with
    ⟨parsed, parsesAgain, identity, _, sound⟩
  rw [parses] at parsesAgain
  cases parsesAgain
  have encodableAgain := sound.encodable (by norm_num) (by norm_num)
  have same : again.row.identity = row.readBack :=
    identity.trans (identity_written encodable)
  rcases measures_range encodable measures with ⟨msb, lsb, dopplerRange, _⟩
  rcases Checked.bind_eq_ok.mp parses with ⟨phase, computed, returned⟩
  have ranges : again.row.pseudorangeM = type1Pseudorange (code.1 &&& 0x0F) code.2 := by
    cases returned
    rfl
  have doppler : again.row.dopplerHz = type1Doppler dopplerRaw := by
    cases returned
    rfl
  have sameHeader : again.row.header = row.header := by
    cases returned
    rfl
  have antenna : again.row.antennaId = antennaId (typeByteForObservation row) := by
    cases returned
    rfl
  have phases : carrierPhase again.row.pseudorangeM again.row.frequency carrier.2 carrier.1 =
      .ok again.row.carrierPhaseCycles := by
    cases returned
    rw [Row.frequency, ← carrierFrequencyHz_infoBits]
    exact computed
  have codeAgain : encodeCodeFields again.row.pseudorangeM = .ok code := by
    rw [ranges, encodeCodeFields_type1Pseudorange msb lsb]
  have dopplerAgain : encodeDopplerRaw again.row.dopplerHz = .ok dopplerRaw := by
    rcases encodeDopplerRaw_ok encodableAgain.doppler with ⟨raw, encoded, _⟩
    rw [doppler] at encoded ⊢
    rw [encoded, doppler_kept dopplerRange.1 dopplerRange.2 encoded]
  have carrierAgain : ∃ after : Nat × Int,
      encodeCarrierFields again.row (obsInfoForType1 again.row) = .ok after ∧
      (row.written code dopplerRaw carrier).settled = row.written code dopplerRaw after := by
    by_cases unknown : code.1 = 0 ∧ code.2 = 0
    · refine ⟨(0, -128), encodeCarrierFields_of_noRange ?_, if_pos unknown⟩
      rw [ranges, unknown.1, unknown.2]
      rfl
    · refine ⟨carrier, ?_, if_neg unknown⟩
      have hasRange : ∃ range, again.row.pseudorangeM = some range := by
        have masked : code.1 &&& 0x0F = code.1 :=
          Nat.and_two_pow_sub_one_of_lt_two_pow (n := 4) msb
        rw [ranges, masked, type1Pseudorange, if_pos (by omega)]
        exact ⟨_, rfl⟩
      rcases hasRange with ⟨range, hasRange⟩
      exact carrier_twice encodable measures encodableAgain same phases hasRange
  rcases carrierAgain with ⟨after, carried, settled⟩
  have measuresAgain : again.row.Measures code dopplerRaw after :=
    ⟨codeAgain, dopplerAgain, carried⟩
  have twice := written_twice same encodable.identity encodableAgain.identity code dopplerRaw after
  rw [settled, ← twice]
  refine ⟨⟨sameHeader, encodableAgain, antenna, ?_⟩, ?_⟩
  · rw [settled, ← twice]
    exact encodeType1Observation_written encodableAgain measuresAgain
  · exact ⟨again.row, code, dopplerRaw, after, sameHeader, encodableAgain, measuresAgain, rfl⟩

/-! ## Whole blocks -/

/-- A body with these sub-blocks. -/
def epochBody (header : EpochHeader) (blocks : List Type1Fields) : List Byte :=
  epochHeaderBytes header blocks.length ++ blocks.flatMap Type1Fields.block

theorem length_epochBody (header : EpochHeader) (blocks : List Type1Fields) :
    (epochBody header blocks).length = 12 + 20 * blocks.length := by
  rw [epochBody, List.length_append, length_blocks]
  rfl

/-- A body is built from the sub-blocks of its rows. -/
theorem buildMeasEpochBody_of_encoded {header : EpochHeader} (valid : header.Valid)
    {rows : List (Row ℚ)} (headers : ∀ row ∈ rows, row.header = header) (nonempty : rows ≠ [])
    (few : rows.length ≤ 255) {blocks : List Type1Fields}
    (encoded : List.Forall₂ (fun row fields =>
      encodeType1Observation row = .ok (Type1Fields.block fields)) rows blocks) :
    buildMeasEpochBody rows = .ok (epochBody header blocks) := by
  have result : rows.mapM encodeType1Observation = .ok (blocks.map Type1Fields.block) := by
    clear headers nonempty few
    induction encoded with
    | nil => rfl
    | cons first _ induction =>
        rw [List.mapM_cons, first, Checked.ok_bind, induction]
        rfl
  have count := encoded.length_eq
  cases rows with
  | nil => exact absurd rfl nonempty
  | cons first later =>
      have sameHeader := headers first (List.mem_cons_self ..)
      subst sameHeader
      have tow : first.towMs < 4294967296 := valid.tow
      have wnc : first.wnc < 65536 := valid.wnc
      have commonFlags : first.commonFlags < 256 := valid.commonFlags
      have cumClkJumps : first.cumClkJumpsMs < 256 := valid.cumClkJumps
      simp only [buildMeasEpochBody, if_neg (show ¬(first :: later).length > 255 by omega),
        result, packB, packI, packH, if_pos tow, if_pos wnc, and_byte commonFlags,
        and_byte cumClkJumps, if_pos commonFlags, if_pos cumClkJumps,
        if_pos (show (first :: later).length < 256 by omega),
        if_pos (show 20 < 256 by norm_num), if_pos (show 12 < 256 by norm_num),
        if_pos (show 0 < 256 by norm_num), List.mapM_cons, List.mapM_nil, id,
        Checked.ok_bind, epochBody, ← count, List.flatMap_def]
      rfl

/-- The rows of an antenna become a body of written sub-blocks with that antenna. -/
theorem exists_epochBody {header : EpochHeader} (valid : header.Valid) {rows : List (Row ℚ)}
    (coherent : Coherent header rows) (nonempty : rows ≠ []) (few : rows.length ≤ 255)
    {antenna : Nat} (own : ∀ row ∈ rows, row.antennaId = antenna) :
    ∃ blocks : List Type1Fields, blocks.length = rows.length ∧
      (∀ fields ∈ blocks, IsWritten header fields ∧ antennaId fields.typeB = antenna) ∧
      buildMeasEpochBody rows = .ok (epochBody header blocks) := by
  have each : ∃ blocks : List Type1Fields, List.Forall₂ (fun row fields =>
      encodeType1Observation row = .ok (Type1Fields.block fields)) rows blocks ∧
      ∀ fields ∈ blocks, IsWritten header fields ∧ antennaId fields.typeB = antenna := by
    clear nonempty few
    induction rows with
    | nil => exact ⟨[], .nil, List.forall_mem_nil _⟩
    | cons row later induction =>
        rcases List.forall_mem_cons.mp coherent with ⟨⟨sameHeader, encodable⟩, laterCoherent⟩
        rcases List.forall_mem_cons.mp own with ⟨ownRow, ownLater⟩
        rcases induction laterCoherent ownLater with ⟨blocks, encoded, written⟩
        rcases exists_measures encodable with ⟨code, dopplerRaw, carrier, measures⟩
        have first := encodeType1Observation_written encodable measures
        refine ⟨_ :: blocks, .cons first encoded, List.forall_mem_cons.mpr ⟨⟨?_, ?_⟩, written⟩⟩
        · exact ⟨row, code, dopplerRaw, carrier, sameHeader, encodable, measures, rfl⟩
        · exact (typeByte_readBack encodable.identity).2.1.trans ownRow
  rcases each with ⟨blocks, encoded, written⟩
  refine ⟨blocks, encoded.length_eq.symm, written, ?_⟩
  exact buildMeasEpochBody_of_encoded valid (fun row member => (coherent row member).1) nonempty
    few encoded

theorem type1Loop_written (frame : SbfFrame) {header : EpochHeader} (valid : header.Valid)
    {blocks : List Type1Fields} (written : ∀ fields ∈ blocks, IsWritten header fields)
    (epochIndex off obsIndex : Nat)
    (there : frame.body.drop off = blocks.flatMap Type1Fields.block) :
    ∃ rows : List (ParsedRow ℚ),
      type1Loop frame header 20 12 blocks.length epochIndex off obsIndex = .ok rows ∧
      List.Forall₂ (fun fields parsed => Type1Fields.Rewrites header fields (ParsedRow.row parsed))
        blocks rows := by
  induction blocks generalizing epochIndex off obsIndex with
  | nil => exact ⟨[], rfl, .nil⟩
  | cons fields later induction =>
      rcases List.forall_mem_cons.mp written with ⟨first, laterWritten⟩
      rw [List.flatMap_cons] at there
      rcases Type1Fields.type1Fields_block first.fits (later.flatMap Type1Fields.block) with
        ⟨sameFields, noChildren⟩
      have length := congrArg List.length there
      rw [List.length_drop, List.length_append, Type1Fields.length_block] at length
      rw [← there, u8_drop] at noChildren
      rw [← there] at sameFields
      rcases Type1Fields.parse_spec (F := ℚ) first.fits epochIndex obsIndex frame valid with
        ⟨parent, parsed, _⟩
      have next : frame.body.drop (off + 20) = later.flatMap Type1Fields.block := by
        rw [← List.drop_drop, there, ← Type1Fields.length_block fields, List.drop_left]
      rcases induction laterWritten (epochIndex + 1) (off + 20) (obsIndex + 1) next with
        ⟨rows, result, rewrites⟩
      refine ⟨parent :: rows, ?_, .cons (first.rewrites valid parsed).1 rewrites⟩
      rw [List.length_cons, type1Loop, if_neg (by omega), parseType1Measurement,
        readType1_eq (by omega), sameFields, Checked.ok_bind, parsed, Checked.ok_bind,
        byteAt_eq (by omega), noChildren, Checked.ok_bind, type2Loop, Checked.ok_bind]
      simp only [Nat.zero_mul, Nat.add_zero, List.length_nil, result]
      rfl

/-- The rows of a written body are written as the settled sub-blocks. -/
structure RewritesTo (header : EpochHeader) (blocks : List Type1Fields) (rows : List (Row ℚ)) :
    Prop where
  coherent : Coherent header rows
  length : rows.length = blocks.length
  antennas : rows.map Row.antennaId = blocks.map fun fields => antennaId fields.typeB
  built : buildMeasEpochBody rows = .ok (epochBody header (blocks.map Type1Fields.settled))

theorem rewritesTo_of_forall₂ {header : EpochHeader} (valid : header.Valid)
    {blocks : List Type1Fields} {rows : List (Row ℚ)}
    (rewrites : List.Forall₂ (Type1Fields.Rewrites header) blocks rows) (nonempty : blocks ≠ [])
    (few : blocks.length ≤ 255) : RewritesTo header blocks rows := by
  have length := rewrites.length_eq
  have coherent : Coherent header rows := by
    intro row member
    rcases List.getElem_of_mem member with ⟨k, inside, rfl⟩
    have rewritten := rewrites.get (by omega) inside
    exact ⟨rewritten.1, rewritten.2.1⟩
  have encoded : List.Forall₂ (fun row fields =>
      encodeType1Observation row = .ok (Type1Fields.block fields)) rows
      (blocks.map Type1Fields.settled) := by
    rw [List.forall₂_map_right_iff]
    exact rewrites.flip.imp fun row fields rewritten => rewritten.2.2.2
  refine ⟨coherent, length.symm, ?_, ?_⟩
  · rw [← List.forall₂_eq_eq_eq, List.forall₂_map_left_iff, List.forall₂_map_right_iff]
    exact rewrites.flip.imp fun row fields rewritten => rewritten.2.2.1
  · refine buildMeasEpochBody_of_encoded valid (fun row member => (coherent row member).1) ?_
      (by omega) encoded
    rintro rfl
    exact nonempty (List.eq_nil_of_length_eq_zero length)

theorem decodeMeasEpoch_written {header : EpochHeader} (valid : header.Valid)
    {blocks : List Type1Fields} (written : ∀ fields ∈ blocks, IsWritten header fields)
    (nonempty : blocks ≠ []) (few : blocks.length ≤ 255) {frame : SbfFrame}
    (body : frame.body = epochBody header blocks) :
    ∃ rows : List (Row ℚ), decodeMeasEpoch frame = .ok rows ∧ RewritesTo header blocks rows := by
  rcases epochHeader_headerBytes valid (show blocks.length < 256 by omega)
      (blocks.flatMap Type1Fields.block) with ⟨sameHeader, count⟩
  rw [← epochBody, ← body] at sameHeader count
  have sizes : u8 frame.body 7 = 20 ∧ u8 frame.body 8 = 12 := by
    rw [body]
    exact ⟨rfl, rfl⟩
  have there : frame.body.drop 12 = blocks.flatMap Type1Fields.block := by
    rw [body]
    rfl
  rcases type1Loop_written frame valid written 0 12 0 there with ⟨parsed, result, rewrites⟩
  have decoded : decodeMeasEpoch frame = .ok (parsed.map ParsedRow.row) := by
    have long : 12 ≤ frame.body.length := by
      rw [body, length_epochBody]
      omega
    rw [decodeMeasEpoch_eq frame long, sameHeader, sizes.1, sizes.2, count, result]
    rfl
  refine ⟨_, decoded, rewritesTo_of_forall₂ valid ?_ nonempty few⟩
  rw [List.forall₂_map_right_iff]
  exact rewrites

end AsterxDriver.Parser
