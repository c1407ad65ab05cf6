import AsterxDriver.Foundation.ExactArithmetic
import AsterxDriver.Parser.MeasEpochEncode

/-! # Pseudoranges and Dopplers that are written again

`encode_code_fields` keeps 36 bits of the number of millimetres. A Type-2
pseudorange may need one more. The arithmetic here is exact. -/

namespace AsterxDriver.Parser

open Foundation ByteString FloatArithmetic

/-! ## Decoded values -/

/-- What the loops give, if the parsers give it. -/
theorem forall_type2Loop {F : Type} [FloatArithmetic F] {frame : SbfFrame} {header : EpochHeader}
    {sb2Len epochIndex count off obsIndex : Nat} {parent : ParsedRow F}
    {Child : ParsedRow F → Prop}
    (children : ∀ {off epochIndex obsIndex parsed}, off + 12 ≤ frame.body.length →
      parseType2Measurement frame.body off parent epochIndex obsIndex frame header = .ok parsed →
      Child parsed)
    {rows : List (ParsedRow F)}
    (loop : type2Loop frame header sb2Len parent epochIndex count off obsIndex = .ok rows) :
    ∀ parsed ∈ rows, Child parsed := by
  induction count generalizing off obsIndex rows with
  | zero =>
      cases loop
      exact List.forall_mem_nil _
  | succ count induction =>
      rw [type2Loop] at loop
      split at loop
      · cases loop
        exact List.forall_mem_nil _
      · rename_i inside
        rcases Checked.bind_eq_ok.mp loop with ⟨child, parses, rest⟩
        rcases Checked.bind_eq_ok.mp rest with ⟨later, laterLoop, returned⟩
        cases returned
        exact List.forall_mem_cons.mpr ⟨children (by omega) parses, induction laterLoop⟩

theorem forall_type1Loop {F : Type} [FloatArithmetic F] {frame : SbfFrame} {header : EpochHeader}
    {sb1Len sb2Len epochIndex count off obsIndex : Nat} {Parent Child : ParsedRow F → Prop}
    (parents : ∀ {off epochIndex obsIndex parsed}, off + 20 ≤ frame.body.length →
      parseType1Measurement frame.body off epochIndex obsIndex frame header = .ok parsed →
      Parent parsed)
    (children : ∀ {off parent epochIndex obsIndex parsed}, Parent parent →
      off + 12 ≤ frame.body.length →
      parseType2Measurement frame.body off parent epochIndex obsIndex frame header = .ok parsed →
      Child parsed)
    {rows : List (ParsedRow F)}
    (loop : type1Loop frame header sb1Len sb2Len count epochIndex off obsIndex = .ok rows) :
    ∀ parsed ∈ rows, Parent parsed ∨ Child parsed := by
  induction count generalizing epochIndex off obsIndex rows with
  | zero =>
      cases loop
      exact List.forall_mem_nil _
  | succ count induction =>
      rw [type1Loop] at loop
      split at loop
      · cases loop
        exact List.forall_mem_nil _
      · rename_i inside
        rcases Checked.bind_eq_ok.mp loop with ⟨parent, parses, rest⟩
        rcases Checked.bind_eq_ok.mp rest with ⟨n2, _, rest⟩
        rcases Checked.bind_eq_ok.mp rest with ⟨inner, innerLoop, rest⟩
        rcases Checked.bind_eq_ok.mp rest with ⟨later, laterLoop, returned⟩
        cases returned
        have isParent := parents (by omega) parses
        refine List.forall_mem_cons.mpr ⟨.inl isParent, ?_⟩
        intro parsed member
        rcases List.mem_append.mp member with fromInner | fromLater
        · exact .inr (forall_type2Loop (children isParent) innerLoop parsed fromInner)
        · exact induction laterLoop parsed fromLater

theorem forall_decodeMeasEpoch {F : Type} [RoundedArithmetic F] {frame : SbfFrame}
    {Parent Child : Row F → Prop}
    (parents : ∀ {off epochIndex obsIndex parsed}, off + 20 ≤ frame.body.length →
      parseType1Measurement frame.body off epochIndex obsIndex frame (epochHeader frame.body) =
        .ok parsed → Parent parsed.row)
    (children : ∀ {off parent epochIndex obsIndex parsed}, Parent (ParsedRow.row parent) →
      off + 12 ≤ frame.body.length →
      parseType2Measurement frame.body off parent epochIndex obsIndex frame
        (epochHeader frame.body) = .ok parsed → Child parsed.row)
    {rows : List (Row F)} (decoded : decodeMeasEpoch frame = .ok rows) :
    ∀ row ∈ rows, Parent row ∨ Child row := by
  by_cases long : 12 ≤ frame.body.length
  · rw [decodeMeasEpoch_eq frame long] at decoded
    rcases Checked.bind_eq_ok.mp decoded with ⟨parsed, loop, returned⟩
    cases returned
    exact List.forall_mem_map.mpr (forall_type1Loop parents children loop)
  · rw [decodeMeasEpoch, if_pos (by omega)] at decoded
    cases decoded
    exact List.forall_mem_nil _

theorem thousandths_eq (count : ℤ) : (thousandths count : ℚ) = count / 1000 := by
  change (count : ℚ) * (1 / 1000) = count / 1000
  ring

/-- A Type-1 row: 36 bits of millimetres and 32 bits of Doppler. -/
structure IsType1 (row : Row ℚ) : Prop where
  level : row.level = 1
  pseudorange : ∀ value, row.pseudorangeM = some value →
    ∃ units : ℤ, value = units / 1000 ∧ 0 < units ∧ units < 2 ^ 36
  doppler : ∃ raw : ℤ, -2147483648 ≤ raw ∧ raw < 2147483648 ∧ row.dopplerHz = type1Doppler raw

/-- A Type-2 row: any whole number of millimetres. -/
structure IsType2 (row : Row ℚ) : Prop where
  level : row.level = 2
  pseudorange : ∀ value, row.pseudorangeM = some value → ∃ units : ℤ, value = units / 1000

theorem isType1_of_parse {body : List Byte} {off epochIndex obsIndex : Nat} {frame : SbfFrame}
    {header : EpochHeader} {parsed : ParsedRow ℚ} (inside : off + 20 ≤ body.length)
    (parses : parseType1Measurement body off epochIndex obsIndex frame header = .ok parsed) :
    IsType1 parsed.row := by
  rw [parseType1Measurement, readType1_eq inside, Checked.ok_bind] at parses
  have fits := type1Fields_fits (body.drop off)
  rcases Checked.bind_eq_ok.mp parses with ⟨phase, _, returned⟩
  cases returned
  refine ⟨rfl, ?_, _, fits.dopplerRaw.1, fits.dopplerRaw.2, rfl⟩
  intro value found
  have masked : (type1Fields (body.drop off)).misc &&& 0x0F ≤ 0x0F := Nat.and_le_right
  have lsb := fits.codeLsb
  change type1Pseudorange _ _ = some value at found
  unfold type1Pseudorange at found
  split at found
  · cases found
    refine ⟨_, thousandths_eq _, ?_, ?_⟩ <;> omega
  · cases found

theorem type2Pseudorange_units {parentPr : Option ℚ} {msb : ℤ} {lsb : Nat} {value : ℚ}
    (parent : ∀ value, parentPr = some value → ∃ units : ℤ, value = units / 1000)
    (found : type2Pseudorange parentPr msb lsb = some value) :
    ∃ units : ℤ, value = units / 1000 := by
  cases parentPr with
  | none => cases found
  | some parentValue =>
      rcases parent parentValue rfl with ⟨units, rfl⟩
      rw [type2Pseudorange] at found
      split at found
      · cases found
      · cases found
        refine ⟨units + (msb * 65536 + lsb), ?_⟩
        rw [thousandths_eq]
        change (units : ℚ) / 1000 + _ = _
        rw [← add_div, ← Int.cast_add]

theorem isType2_of_parse {body : List Byte} {off epochIndex obsIndex : Nat} {frame : SbfFrame}
    {header : EpochHeader} {parent parsed : ParsedRow ℚ} (isParent : IsType1 parent.row)
    (inside : off + 12 ≤ body.length)
    (parses : parseType2Measurement body off parent epochIndex obsIndex frame header =
      .ok parsed) : IsType2 parsed.row := by
  rw [parseType2Measurement, readType2_eq inside, Checked.ok_bind] at parses
  rcases Checked.bind_eq_ok.mp parses with ⟨doppler, _, rest⟩
  rcases Checked.bind_eq_ok.mp rest with ⟨phase, _, returned⟩
  cases returned
  refine ⟨rfl, ?_⟩
  intro value found
  refine type2Pseudorange_units ?_ found
  intro parentValue known
  rcases isParent.pseudorange parentValue known with ⟨units, same, _⟩
  exact ⟨units, same⟩

theorem isType_of_decode {frame : SbfFrame} {rows : List (Row ℚ)}
    (decoded : decodeMeasEpoch frame = .ok rows) : ∀ row ∈ rows, IsType1 row ∨ IsType2 row :=
  forall_decodeMeasEpoch isType1_of_parse isType2_of_parse decoded

/-! ## Written again -/

theorem intRound_intCast {value : ℚ} {integer : ℤ} (same : value = integer) :
    intRound value = .ok integer := by
  rw [same]
  change (Except.ok (roundHalfEven (integer : ℚ)) : Except PyError ℤ) = _
  rw [roundHalfEven_intCast]

theorem encodeCodeFields_units (units : ℤ) :
    encodeCodeFields (some ((units : ℚ) / 1000)) =
      .ok (if units ≤ 0 then (0, 0)
        else ((units.toNat >>> 32) &&& 0x0F, units.toNat &&& 0xFFFFFFFF)) := by
  have scaled : (units : ℚ) / 1000 * 1000 = units := by
    rw [div_mul_cancel₀]
    norm_num
  have rounded : intRound (mul ((units : ℚ) / 1000) (ofRat 1000)) = .ok units :=
    intRound_intCast scaled
  rw [encodeCodeFields, rounded, Checked.ok_bind]
  split <;> rfl

/-- The fields hold the number of millimetres modulo 36 bits. -/
theorem codeFields_value (count : Nat) :
    ((count >>> 32) &&& 0x0F) * 4294967296 + (count &&& 0xFFFFFFFF) = count % 2 ^ 36 := by
  have high : (count >>> 32) &&& 0x0F = count / 2 ^ 32 % 2 ^ 4 := by
    rw [Nat.shiftRight_eq_div_pow]
    exact Nat.and_two_pow_sub_one_eq_mod _ 4
  have low : count &&& 0xFFFFFFFF = count % 2 ^ 32 := Nat.and_two_pow_sub_one_eq_mod _ 32
  rw [high, low]
  omega

/-- The pseudorange comes back, or it was not positive and is gone. -/
def RangeKept (value : ℚ) (again : Option ℚ) : Prop :=
  again = some value ∨ again = none ∧ value ≤ 0

theorem rangeKept_iff {units : ℤ} {codeMsb codeLsb : Nat}
    (encoded : encodeCodeFields (some ((units : ℚ) / 1000)) = .ok (codeMsb, codeLsb)) :
    RangeKept ((units : ℚ) / 1000) (type1Pseudorange (codeMsb &&& 0x0F) codeLsb) ↔
      (units : ℚ) / 1000 < 2 ^ 36 / 1000 := by
  have limit : (units : ℚ) / 1000 < 2 ^ 36 / 1000 ↔ units < 2 ^ 36 := by
    rw [div_lt_div_iff_of_pos_right (by norm_num)]
    exact_mod_cast Iff.rfl
  rw [limit]
  rw [encodeCodeFields_units] at encoded
  by_cases positive : units ≤ 0
  · rw [if_pos positive] at encoded
    cases encoded
    have nonpositive : (units : ℚ) / 1000 ≤ 0 :=
      div_nonpos_of_nonpos_of_nonneg (by exact_mod_cast positive) (by norm_num)
    exact iff_of_true (.inr ⟨rfl, nonpositive⟩) (by omega)
  · rw [if_neg positive] at encoded
    cases encoded
    have masked : (units.toNat >>> 32 &&& 0x0F) &&& 0x0F = units.toNat >>> 32 &&& 0x0F := by
      rw [Nat.and_assoc]
      rfl
    have value := codeFields_value units.toNat
    have notNonpositive : ¬(units : ℚ) / 1000 ≤ 0 := by
      rw [not_le]
      exact div_pos (by exact_mod_cast not_le.mp positive) (by norm_num)
    rw [masked, type1Pseudorange, value, thousandths_eq, RangeKept]
    split
    · constructor
      · rintro (same | ⟨impossible, _⟩)
        · have counts : (((units.toNat % 2 ^ 36 : ℕ) : ℤ) : ℚ) = units :=
            (div_left_inj' (by norm_num)).mp (Option.some.inj same)
          have wrapped : ((units.toNat % 2 ^ 36 : ℕ) : ℤ) = units := by exact_mod_cast counts
          omega
        · cases impossible
      · intro small
        left
        rw [Nat.mod_eq_of_lt (by omega), Int.toNat_of_nonneg (by omega)]
    · rename_i zero
      have gone : units.toNat % 2 ^ 36 = 0 := by omega
      refine iff_of_false ?_ (by omega)
      rintro (impossible | ⟨_, nonpositive⟩)
      · cases impossible
      · exact notNonpositive nonpositive

theorem doppler_kept {raw raw' : ℤ} (low : -2147483648 ≤ raw) (high : raw < 2147483648)
    (encoded : encodeDopplerRaw (type1Doppler (F := ℚ) raw) = .ok raw') : raw' = raw := by
  unfold type1Doppler at encoded
  split at encoded
  · rename_i unknown
    cases encoded
    exact unknown.symm
  · rename_i known
    have scaled : ((raw : ℚ) * (1 / 10000)) * 10000 = raw := by ring
    have rounded : intRound (mul (mul (ofRat (raw : ℚ)) (ofRat (1 / 10000))) (ofRat 10000) : ℚ) =
        .ok raw := intRound_intCast scaled
    rw [encodeDopplerRaw, rounded, Checked.ok_bind] at encoded
    cases encoded
    omega

/-- The info bits add nothing to the number that was read from them. -/
theorem carrierFrequencyHz_infoBits (signal infoBits : Nat) :
    (carrierFrequencyHz signal infoBits (glonassFreqNumber signal infoBits) : Option ℚ) =
      carrierFrequencyHz signal 0 (glonassFreqNumber signal infoBits) := by
  by_cases other : signal ∉ [8, 9, 10, 11, 12]
  · have absent : ∀ bits, glonassFreqNumber signal bits = none := fun _ => if_pos other
    simp only [carrierFrequencyHz, absent]
  · rw [glonassFreqNumber, if_neg other]
    rfl

/-- Decoding what a row was written as. -/
theorem exists_again {row : Row ℚ} (encodable : row.Encodable) (frame : SbfFrame)
    (valid : row.header.Valid) :
    ∃ fields : Type1Fields, ∃ block, ∃ again : ParsedRow ℚ,
      encodeType1Observation row = .ok block ∧
      parseType1Measurement block 0 0 0 frame row.header = .ok again ∧
      encodeCodeFields row.pseudorangeM = .ok (fields.misc, fields.codeLsb) ∧
      encodeDopplerRaw row.dopplerHz = .ok fields.dopplerRaw ∧
      again.row.pseudorangeM = type1Pseudorange (fields.misc &&& 0x0F) fields.codeLsb ∧
      again.row.dopplerHz = type1Doppler fields.dopplerRaw ∧
      encodeCarrierFields row (obsInfoForType1 row) =
        .ok (fields.carrierLsb, fields.carrierMsb) ∧
      carrierPhase again.row.pseudorangeM
        (carrierFrequencyHz row.signalType 0 row.readBackNumber) fields.carrierMsb
        fields.carrierLsb = .ok again.row.carrierPhaseCycles := by
  rcases encodeType1Observation_fields encodable with
    ⟨fields, fits, encoded, identity, code, doppler, carrier⟩
  rcases Type1Fields.parse_spec (F := ℚ) fits 0 0 frame valid with ⟨again, parses, _⟩
  have read : type1Fields fields.block = fields := by
    have behind := (Type1Fields.type1Fields_block fits []).1
    rwa [List.append_nil] at behind
  refine ⟨fields, fields.block, again, encoded, ?_, code, doppler, ?_⟩
  · rw [parseType1Measurement, readType1_eq (by rw [Type1Fields.length_block]), List.drop_zero,
      read, Checked.ok_bind, parses]
  · have signal : signalType fields.typeB fields.obsInfo = row.signalType :=
      congrArg Identity.signalType identity
    have number : glonassFreqNumber (signalType fields.typeB fields.obsInfo) fields.obsInfo =
        row.readBackNumber := congrArg Identity.glonassFreqNumber identity
    rcases Checked.bind_eq_ok.mp parses with ⟨phase, computed, returned⟩
    cases returned
    refine ⟨rfl, rfl, carrier, ?_⟩
    rw [← number, ← signal, ← carrierFrequencyHz_infoBits]
    exact computed

/-- The pseudorange of a row is kept, and the Doppler of a Type-1 row. -/
def ValuesKept (row again : Row ℚ) : Prop :=
  (∀ value, row.pseudorangeM = some value → RangeKept value again.pseudorangeM) ∧
    (row.level = 1 → again.dopplerHz = row.dopplerHz)

/-- Writing a decoded row keeps its values if and only if its pseudorange has at
most 36 bits of millimetres, as it always has in a Type-1 row. -/
theorem valuesKept_iff (frame : SbfFrame) : ∃ rows : List (Row ℚ),
    decodeMeasEpoch frame = .ok rows ∧
    ∀ row ∈ rows, ∃ block, ∃ again : ParsedRow ℚ,
      encodeType1Observation row = .ok block ∧
      parseType1Measurement block 0 0 0 frame row.header = .ok again ∧
      (ValuesKept row again.row ↔
        ∀ value, row.pseudorangeM = some value → value < 2 ^ 36 / 1000) ∧
      (row.level = 1 → ∀ value, row.pseudorangeM = some value → value < 2 ^ 36 / 1000) := by
  rcases decodeMeasEpoch_spec (F := ℚ) frame with ⟨rows, decoded, coherent⟩
  refine ⟨rows, decoded, ?_⟩
  intro row member
  rcases coherent row member with ⟨sameHeader, encodable⟩
  have valid : row.header.Valid := by
    rw [sameHeader]
    exact epochHeader_valid frame.body
  rcases exists_again encodable frame valid with
    ⟨fields, block, again, encoded, parses, code, doppler, againRange, againDoppler, _⟩
  have isType := isType_of_decode decoded row member
  have units : ∀ value, row.pseudorangeM = some value → ∃ units : ℤ, value = units / 1000 := by
    intro value found
    rcases isType with type1 | type2
    · rcases type1.pseudorange value found with ⟨units, same, _⟩
      exact ⟨units, same⟩
    · exact type2.pseudorange value found
  have range : ∀ value, row.pseudorangeM = some value →
      (RangeKept value again.row.pseudorangeM ↔ value < 2 ^ 36 / 1000) := by
    intro value found
    rcases units value found with ⟨count, rfl⟩
    rw [againRange]
    rw [found] at code
    exact rangeKept_iff code
  have rate : row.level = 1 → again.row.dopplerHz = row.dopplerHz := by
    intro level
    rcases isType with type1 | type2
    · rcases type1.doppler with ⟨raw, low, high, same⟩
      rw [same] at doppler
      rw [againDoppler, same, doppler_kept low high doppler]
    · rw [type2.level] at level
      cases level
  refine ⟨block, again, encoded, parses, ?_, ?_⟩
  · constructor
    · intro kept value found
      exact (range value found).mp (kept.1 value found)
    · intro small
      exact ⟨fun value found => (range value found).mpr (small value found), rate⟩
  · intro level value found
    rcases isType with type1 | type2
    · rcases type1.pseudorange value found with ⟨count, rfl, _, small⟩
      rw [div_lt_div_iff_of_pos_right (by norm_num)]
      exact_mod_cast small
    · rw [type2.level] at level
      cases level

/-- A satellite at the end of the 36 bits and a signal 100 millimetres further. -/
def wideBody : List Byte :=
  [0, 0, 0, 0, 0, 0, 1, 20, 12, 0, 0, 0] ++
    [1, 0, 5, 0x0F, 0xFF, 0xFF, 0xFF, 0xFF, 0, 0, 0, 0, 0, 0, 0x80, 0x80, 0, 0, 0, 1] ++
    [3, 0, 0x80, 0, 0x80, 0, 100, 0, 0, 0, 0, 0]

def wideFrame : SbfFrame := ⟨0, 0, 4027, 4027, 0, 52, wideBody⟩

/-- The pseudoranges of the second row before and after it is written. -/
def secondRange (frame : SbfFrame) : Except PyError (Option ℚ × Option ℚ) := do
  match ← decodeMeasEpoch frame with
  | [_, row] =>
      let block ← encodeType1Observation row
      let again : ParsedRow ℚ ← parseType1Measurement block 0 0 0 frame row.header
      return (row.pseudorangeM, again.row.pseudorangeM)
  | _ => .error .indexError

/-- The second row comes back as 99 millimetres. -/
theorem wideFrame_wraps : ∃ rows : List (Row ℚ), decodeMeasEpoch wideFrame = .ok rows ∧
    ∃ row ∈ rows, row.pseudorangeM = some (68719476835 / 1000) ∧
      ∃ block, ∃ again : ParsedRow ℚ, encodeType1Observation row = .ok block ∧
        parseType1Measurement block 0 0 0 wideFrame row.header = .ok again ∧
        again.row.pseudorangeM = some (99 / 1000) ∧ ¬ValuesKept row again.row := by
  have evaluated : secondRange wideFrame =
      .ok (some (68719476835 / 1000), some (99 / 1000)) := by
    decide +kernel
  rcases Checked.bind_eq_ok.mp evaluated with ⟨rows, decoded, rest⟩
  refine ⟨rows, decoded, ?_⟩
  split at rest
  · rename_i first row
    rcases Checked.bind_eq_ok.mp rest with ⟨block, encoded, rest⟩
    rcases Checked.bind_eq_ok.mp rest with ⟨again, parses, returned⟩
    simp only [Checked.pure_eq_ok, Except.ok.injEq, Prod.mk.injEq] at returned
    refine ⟨row, by simp, returned.1, block, again, encoded, parses, returned.2, ?_⟩
    intro kept
    rcases kept.1 _ returned.1 with same | ⟨gone, _⟩
    · rw [returned.2] at same
      norm_num at same
    · rw [returned.2] at gone
      cases gone
  · cases rest

end AsterxDriver.Parser
