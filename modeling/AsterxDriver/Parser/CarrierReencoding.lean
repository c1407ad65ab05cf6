import AsterxDriver.Parser.AntennaSplit
import AsterxDriver.Parser.CodeReencoding

/-! # Carrier phases that are written again

A phase is stored relative to the pseudorange in wavelengths, as a number of
thousandths of a cycle. Its wavelength must be the same when it is read again.
The arithmetic here is exact. -/

namespace AsterxDriver.Parser

open Foundation ByteString FloatArithmetic

/-! ## Relative phases -/

/-- The cycles of a carrier in a pseudorange. -/
def cyclesIn (range frequency : ℚ) : ℚ := range * frequency / 299792458

/-- The thousandths of a cycle that the two fields can hold; -128 in the upper one
stands for a phase that is not known. -/
def Storable (mcycles : ℤ) : Prop := -127 * 65536 ≤ mcycles ∧ mcycles < 128 * 65536

theorem divide_eq_ok {dividend divisor quotient : ℚ}
    (divided : divide dividend divisor = .ok quotient) : quotient = dividend / divisor := by
  unfold divide at divided
  split at divided
  · rename_i value found
    cases divided
    change (if divisor = 0 then none else some (dividend / divisor)) = some quotient at found
    split at found
    · cases found
    · exact (Option.some.inj found).symm
  · cases divided

/-- The wavelength is only a detour. -/
theorem cycles_of_divide {range frequency wavelength cycles : ℚ}
    (first : divide lightSpeedMps frequency = .ok wavelength)
    (second : divide range wavelength = .ok cycles) : cycles = cyclesIn range frequency := by
  rw [divide_eq_ok second, divide_eq_ok first, cyclesIn]
  exact div_div_eq_mul_div range _ frequency

theorem carrierPhase_eq_ok {range frequency : ℚ} {carrierMsb : ℤ} {carrierLsb : Nat}
    {phase : Option ℚ}
    (computed : carrierPhase (some range) (some frequency) carrierMsb carrierLsb = .ok phase) :
    phase = if carrierMsb = -128 ∧ carrierLsb = 0 then none
      else some (cyclesIn range frequency +
        ((carrierMsb * 65536 + carrierLsb : ℤ) : ℚ) / 1000) := by
  rw [carrierPhase] at computed
  split at computed
  · rename_i unknown
    cases computed
    rw [if_pos unknown]
  · rename_i known
    rcases Checked.bind_eq_ok.mp computed with ⟨wavelength, first, computed⟩
    rcases Checked.bind_eq_ok.mp computed with ⟨cycles, second, computed⟩
    cases computed
    rw [if_neg known, cycles_of_divide first second, thousandths_eq]
    rfl

/-- Without a pseudorange or a frequency there is no phase. -/
theorem carrierPhase_unknown {range frequency phase : Option ℚ}
    (computed : carrierPhase range frequency (-128) 0 = .ok phase) : phase = none := by
  unfold carrierPhase at computed
  split at computed
  · cases computed
    rfl
  · cases computed
    rfl

/-- What the two fields are for a number of thousandths. -/
theorem encodeCarrierFields_eq_ok {row : Row ℚ} {obsInfo : Nat} {range phase frequency : ℚ}
    (hasRange : row.pseudorangeM = some range) (hasPhase : row.carrierPhaseCycles = some phase)
    (hasFrequency : carrierFrequencyHz row.signalType obsInfo row.glonassFreqNumber =
      some frequency) {carrierLsb : Nat} {carrierMsb mcycles : ℤ}
    (rounded : roundHalfEven ((phase - cyclesIn range frequency) * 1000) = mcycles)
    (encoded : encodeCarrierFields row obsInfo = .ok (carrierLsb, carrierMsb)) :
    (Storable mcycles ∧ carrierMsb ≠ -128 ∧ carrierMsb * 65536 + carrierLsb = mcycles) ∨
    (¬Storable mcycles ∧ carrierMsb = -128 ∧ carrierLsb = 0) := by
  simp only [encodeCarrierFields, hasRange, hasPhase, hasFrequency] at encoded
  rcases Checked.bind_eq_ok.mp encoded with ⟨wavelength, first, encoded⟩
  rcases Checked.bind_eq_ok.mp encoded with ⟨cycles, second, encoded⟩
  rcases Checked.bind_eq_ok.mp encoded with ⟨relative, third, encoded⟩
  rw [cycles_of_divide first second] at third
  have same : relative = mcycles := by
    rw [← rounded]
    exact (Except.ok.inj third).symm
  subst same
  unfold Storable
  split at encoded
  · rename_i outside
    cases encoded
    exact .inr ⟨by omega, rfl, rfl⟩
  · rename_i inside
    cases encoded
    have masked : (relative - relative / 65536 * 65536).toNat &&& 0xFFFF =
        (relative - relative / 65536 * 65536).toNat :=
      Nat.and_two_pow_sub_one_of_lt_two_pow (n := 16) (by omega)
    rw [masked]
    exact .inl ⟨by omega, by omega, by omega⟩

/-! ## Frequencies -/

/-- The carrier frequency of a row; a GLONASS signal without a frequency number is
taken for number -8. -/
def Row.frequency (row : Row ℚ) : Option ℚ :=
  carrierFrequencyHz row.signalType 0 row.glonassFreqNumber

/-- Without a number the info bits give it. -/
theorem carrierFrequencyHz_none (signal infoBits : Nat) :
    (carrierFrequencyHz signal infoBits none : Option ℚ) =
      carrierFrequencyHz signal infoBits (glonassFreqNumber signal infoBits) := by
  have same : (none.orElse fun _ => glonassFreqNumber signal infoBits) =
      (glonassFreqNumber signal infoBits).orElse fun _ => glonassFreqNumber signal infoBits := by
    cases glonassFreqNumber signal infoBits <;> rfl
  simp only [carrierFrequencyHz, same]

section

variable {row : Row ℚ} (valid : row.identity.Valid)

include valid

/-- The encoder takes this frequency. -/
theorem frequency_written :
    carrierFrequencyHz row.signalType (obsInfoForType1 row) row.glonassFreqNumber =
      row.frequency := by
  unfold Row.frequency
  cases number : row.glonassFreqNumber with
  | some k => rfl
  | none =>
      have readBack : glonassFreqNumber row.signalType (obsInfoForType1 row) =
          glonassFreqNumber row.signalType 0 := by
        rw [glonassFreqNumber_readBack valid, Row.readBackNumber, glonassFreqNumber]
        by_cases other : row.signalType ∉ [8, 9, 10, 11, 12]
        · rw [if_pos other, if_pos other]
        · have small : ¬row.signalType ≥ 32 := by
            simp only [not_not, List.mem_cons, List.not_mem_nil, or_false] at other
            omega
          rw [if_neg other, if_neg other, Row.infoNumber, if_neg small, number]
          split <;> rfl
      simp only [carrierFrequencyHz, readBack]

/-- The decoder finds the same frequency, except that it takes every L3 signal for
number -8. -/
theorem frequency_read :
    carrierFrequencyHz row.signalType 0 row.readBackNumber =
      if row.signalType = 12 then carrierFrequencyHz 12 0 (some (-8)) else row.frequency := by
  by_cases l3 : row.signalType = 12
  · have number : row.readBackNumber = some (-8) := by
      rw [Row.readBackNumber, Row.infoNumber, l3]
      rfl
    rw [if_pos l3, number, l3]
  · rw [if_neg l3, Row.frequency]
    by_cases loses : row.identity.LosesFrequency
    · rcases loses with ⟨isL3, _⟩ | ⟨(glonass : row.signalType ∈ [8, 9, 10, 11]),
        (number : row.glonassFreqNumber = none)⟩
      · exact absurd isL3 l3
      · have numbered : ¬row.signalType ∉ [8, 9, 10, 11, 12] :=
          not_not.mpr (List.mem_append_left [12] glonass)
        have small : ¬row.signalType ≥ 32 := by
          simp only [not_not, List.mem_cons, List.not_mem_nil, or_false] at numbered
          omega
        have readBack : row.readBackNumber = glonassFreqNumber row.signalType 0 := by
          rw [Row.readBackNumber, glonassFreqNumber, if_neg numbered, if_neg numbered,
            Row.infoNumber, if_neg small, if_pos glonass, number]
          rfl
        rw [number, readBack, carrierFrequencyHz_none]
    · rw [(readBackNumber_eq_iff valid).mpr loses]

end

/-! ## Decoded phases -/

/-- The phase of a row with a frequency number belongs to that number. -/
def PhaseOfNumber (row : Row ℚ) : Prop :=
  ∀ phase k, row.carrierPhaseCycles = some phase → row.glonassFreqNumber = some k →
    ∃ range frequency, ∃ mcycles : ℤ, row.pseudorangeM = some range ∧
      row.frequency = some frequency ∧ phase = cyclesIn range frequency + mcycles / 1000

theorem phaseOfNumber_of_carrierPhase {row : Row ℚ} {infoBits : Nat} {carrierMsb : ℤ}
    {carrierLsb : Nat}
    (computed : carrierPhase row.pseudorangeM
      (carrierFrequencyHz row.signalType infoBits row.glonassFreqNumber) carrierMsb carrierLsb =
        .ok row.carrierPhaseCycles) : PhaseOfNumber row := by
  intro phase k hasPhase number
  have frequencies : carrierFrequencyHz row.signalType infoBits row.glonassFreqNumber =
      row.frequency := by
    rw [Row.frequency, number]
    rfl
  rw [frequencies, hasPhase] at computed
  cases hasRange : row.pseudorangeM with
  | none =>
      rw [hasRange] at computed
      cases computed
  | some range =>
      cases hasFrequency : row.frequency with
      | none =>
          rw [hasRange, hasFrequency] at computed
          cases computed
      | some frequency =>
          rw [hasRange, hasFrequency] at computed
          have value := carrierPhase_eq_ok computed
          split at value
          · cases value
          · exact ⟨range, frequency, _, rfl, rfl, Option.some.inj value⟩

theorem phaseOfNumber_type1 {body : List Byte} {off epochIndex obsIndex : Nat}
    {frame : SbfFrame} {header : EpochHeader} {parsed : ParsedRow ℚ}
    (parses : parseType1Measurement body off epochIndex obsIndex frame header = .ok parsed) :
    PhaseOfNumber parsed.row := by
  rcases Checked.bind_eq_ok.mp parses with ⟨fields, _, parses⟩
  rcases Checked.bind_eq_ok.mp parses with ⟨phase, computed, returned⟩
  cases returned
  exact phaseOfNumber_of_carrierPhase computed

theorem phaseOfNumber_type2 {body : List Byte} {off epochIndex obsIndex : Nat}
    {frame : SbfFrame} {header : EpochHeader} {parent parsed : ParsedRow ℚ}
    (parses : parseType2Measurement body off parent epochIndex obsIndex frame header =
      .ok parsed) : PhaseOfNumber parsed.row := by
  rcases Checked.bind_eq_ok.mp parses with ⟨fields, _, parses⟩
  rcases Checked.bind_eq_ok.mp parses with ⟨doppler, _, parses⟩
  rcases Checked.bind_eq_ok.mp parses with ⟨phase, computed, returned⟩
  cases returned
  exact phaseOfNumber_of_carrierPhase computed

theorem phaseOfNumber_of_decode {frame : SbfFrame} {rows : List (Row ℚ)}
    (decoded : decodeMeasEpoch frame = .ok rows) : ∀ row ∈ rows, PhaseOfNumber row := by
  intro row member
  rcases forall_decodeMeasEpoch (fun _ parses => phaseOfNumber_type1 parses)
    (fun _ _ parses => phaseOfNumber_type2 parses) decoded row member with type1 | type2
  · exact type1
  · exact type2

/-! ## Written again -/

/-- The row can be written so that its phase is read again: an L3 signal has no
frequency number or -8, and the phase is as many thousandths of a cycle from the
pseudorange as can be stored. -/
def PhaseFits (row : Row ℚ) (range phase : ℚ) : Prop :=
  (row.signalType = 12 → row.glonassFreqNumber = none ∨ row.glonassFreqNumber = some (-8)) ∧
    ∃ frequency, row.frequency = some frequency ∧ ∃ mcycles : ℤ, Storable mcycles ∧
      phase = cyclesIn range frequency + mcycles / 1000

/-- The nearest number of thousandths is the exact one, if there is one. -/
theorem roundHalfEven_of_phase {range frequency phase : ℚ} {mcycles : ℤ}
    (exact : phase = cyclesIn range frequency + mcycles / 1000) :
    roundHalfEven ((phase - cyclesIn range frequency) * 1000) = mcycles := by
  have scaled : (phase - cyclesIn range frequency) * 1000 = mcycles := by
    rw [exact]
    ring
  rw [scaled, roundHalfEven_intCast]

theorem cyclesIn_inj {range first second : ℚ} (positive : 0 < range)
    (same : cyclesIn range first = cyclesIn range second) : first = second := by
  have products : range * first = range * second := (div_left_inj' (by norm_num)).mp same
  exact mul_left_cancel₀ positive.ne' products

section

variable {row : Row ℚ} {fields : Type1Fields} {range phase : ℚ} {again : Option ℚ}
  (valid : row.identity.Valid) (hasRange : row.pseudorangeM = some range)
  (hasPhase : row.carrierPhaseCycles = some phase)
  (encoded : encodeCarrierFields row (obsInfoForType1 row) =
    .ok (fields.carrierLsb, fields.carrierMsb))
  (computed : carrierPhase (some range) (carrierFrequencyHz row.signalType 0 row.readBackNumber)
    fields.carrierMsb fields.carrierLsb = .ok again)

include valid hasRange hasPhase encoded computed

/-- Where both frequencies are the same. -/
theorem phase_again_iff {frequency : ℚ} (written : row.frequency = some frequency)
    (read : carrierFrequencyHz row.signalType 0 row.readBackNumber = some frequency) :
    again = some phase ↔ ∃ mcycles : ℤ, Storable mcycles ∧
      phase = cyclesIn range frequency + mcycles / 1000 := by
  rw [← frequency_written valid] at written
  rw [read] at computed
  rw [carrierPhase_eq_ok computed]
  rcases encodeCarrierFields_eq_ok hasRange hasPhase written rfl encoded with
    ⟨storable, known, value⟩ | ⟨unstorable, unknown⟩
  · rw [if_neg fun unknown => known unknown.1, value, Option.some.injEq]
    constructor
    · intro same
      exact ⟨_, storable, same.symm⟩
    · rintro ⟨mcycles, _, exact⟩
      rw [roundHalfEven_of_phase exact, exact]
  · rw [if_pos unknown]
    constructor
    · intro impossible
      cases impossible
    · rintro ⟨mcycles, storable, exact⟩
      rw [roundHalfEven_of_phase exact] at unstorable
      exact absurd storable unstorable

/-- An L3 signal with another number comes back with the wavelength of number -8. -/
theorem phase_again_ne (positive : 0 < range) (ofNumber : PhaseOfNumber row)
    (l3 : row.signalType = 12) {k : ℤ} (number : row.glonassFreqNumber = some k)
    (other : k ≠ -8) : again ≠ some phase := by
  rcases ofNumber phase k hasPhase number with
    ⟨range', frequency, mcycles, hasRange', written, exact⟩
  rw [hasRange] at hasRange'
  cases hasRange'
  have frequencyValue : frequency = 1202025000 + k * 437500 := by
    rw [Row.frequency, l3, number] at written
    exact (Option.some.inj written).symm
  have read : carrierFrequencyHz row.signalType 0 row.readBackNumber =
      some (1202025000 + (-8 : ℤ) * 437500 : ℚ) := by
    rw [frequency_read valid, if_pos l3]
    rfl
  rw [← frequency_written valid] at written
  rw [read] at computed
  rw [carrierPhase_eq_ok computed]
  rcases encodeCarrierFields_eq_ok hasRange hasPhase written (roundHalfEven_of_phase exact)
    encoded with ⟨_, known, value⟩ | ⟨_, unknown⟩
  · rw [if_neg fun unknown => known unknown.1, value, Ne, Option.some.injEq, exact]
    intro same
    have frequencies := cyclesIn_inj positive (add_right_cancel same)
    rw [frequencyValue] at frequencies
    have numbers : ((-8 : ℤ) : ℚ) = k := by linarith
    exact other (by exact_mod_cast numbers.symm)
  · rw [if_pos unknown]
    intro impossible
    cases impossible

end

theorem encodeCarrierFields_of_none {row : Row ℚ} {obsInfo : Nat}
    (noPhase : row.carrierPhaseCycles = none) :
    encodeCarrierFields row obsInfo = .ok (0, -128) := by
  unfold encodeCarrierFields
  rw [noPhase]
  split
  · rename_i impossible
    cases impossible
  · rfl

/-- Which phases come back. -/
theorem phase_again {row : Row ℚ} (valid : row.identity.Valid) (ofNumber : PhaseOfNumber row)
    {fields : Type1Fields}
    (encoded : encodeCarrierFields row (obsInfoForType1 row) =
      .ok (fields.carrierLsb, fields.carrierMsb))
    {range phase : ℚ} (hasRange : row.pseudorangeM = some range)
    (hasPhase : row.carrierPhaseCycles = some phase) (positive : 0 < range) {again : Option ℚ}
    (computed : carrierPhase (some range)
      (carrierFrequencyHz row.signalType 0 row.readBackNumber) fields.carrierMsb
      fields.carrierLsb = .ok again) : again = some phase ↔ PhaseFits row range phase := by
  unfold PhaseFits
  by_cases numbered : row.signalType = 12 →
      row.glonassFreqNumber = none ∨ row.glonassFreqNumber = some (-8)
  · have read : carrierFrequencyHz row.signalType 0 row.readBackNumber = row.frequency := by
      rw [frequency_read valid]
      split
      · rename_i l3
        rw [Row.frequency, l3]
        rcases numbered l3 with number | number
        · rw [number]
          rfl
        · rw [number]
      · rfl
    cases written : row.frequency with
    | none =>
        have unknown := encoded
        simp only [encodeCarrierFields, hasRange, hasPhase, frequency_written valid, written,
          Except.ok.injEq, Prod.mk.injEq] at unknown
        rw [← unknown.1, ← unknown.2] at computed
        rw [carrierPhase_unknown computed]
        simp
    | some frequency =>
        rw [written] at read
        rw [phase_again_iff valid hasRange hasPhase encoded computed written read]
        simp only [Option.some.injEq, exists_eq_left']
        exact (and_iff_right numbered).symm
  · refine iff_of_false ?_ fun fits => numbered fits.1
    push Not at numbered
    rcases numbered with ⟨l3, hasNumber, other⟩
    rcases Option.ne_none_iff_exists'.mp hasNumber with ⟨k, number⟩
    refine phase_again_ne valid hasRange hasPhase encoded computed positive ofNumber l3 number ?_
    rintro rfl
    exact other number

/-- Writing a decoded row keeps its carrier phase if and only if the phase fits: not
for an L3 signal whose frequency number is not -8, not for a GLONASS signal without a
number whose phase is no whole number of thousandths from number -8, and not
where the upper field was -128. -/
theorem phaseKept_iff (frame : SbfFrame) : ∃ rows : List (Row ℚ),
    decodeMeasEpoch frame = .ok rows ∧
    ∀ row ∈ rows, ∃ block, ∃ again : ParsedRow ℚ,
      encodeType1Observation row = .ok block ∧
      parseType1Measurement block 0 0 0 frame row.header = .ok again ∧
      (row.carrierPhaseCycles = none → again.row.carrierPhaseCycles = none) ∧
      ∀ phase range, row.carrierPhaseCycles = some phase → row.pseudorangeM = some range →
        0 < range → range < 2 ^ 36 / 1000 →
        (again.row.carrierPhaseCycles = some phase ↔ PhaseFits row range phase) := by
  rcases decodeMeasEpoch_spec (F := ℚ) frame with ⟨rows, decoded, coherent⟩
  refine ⟨rows, decoded, ?_⟩
  intro row member
  rcases coherent row member with ⟨sameHeader, encodable⟩
  have valid : row.header.Valid := by
    rw [sameHeader]
    exact epochHeader_valid frame.body
  rcases exists_again encodable frame valid with
    ⟨fields, block, again, encoded, parses, code, _, againRange, _, carrier, computed⟩
  refine ⟨block, again, encoded, parses, ?_, ?_⟩
  · intro noPhase
    rw [encodeCarrierFields_of_none noPhase] at carrier
    simp only [Except.ok.injEq, Prod.mk.injEq] at carrier
    rw [← carrier.1, ← carrier.2] at computed
    exact carrierPhase_unknown computed
  · intro phase range hasPhase hasRange positive small
    have units : ∃ units : ℤ, range = units / 1000 := by
      rcases isType_of_decode decoded row member with type1 | type2
      · rcases type1.pseudorange range hasRange with ⟨units, same, _⟩
        exact ⟨units, same⟩
      · exact type2.pseudorange range hasRange
    have rangeAgain : again.row.pseudorangeM = some range := by
      rcases units with ⟨units, rfl⟩
      rw [hasRange] at code
      rw [againRange]
      rcases (rangeKept_iff code).mpr small with same | ⟨_, nonpositive⟩
      · exact same
      · exact absurd nonpositive (not_le.mpr positive)
    rw [rangeAgain] at computed
    exact phase_again encodable.identity (phaseOfNumber_of_decode decoded row member) carrier
      hasRange hasPhase positive computed

/-- The pseudorange of the only row, and its phase before and after it is written. -/
def onlyPhase (frame : SbfFrame) : Except PyError (Option ℚ × Option ℚ × Option ℚ) := do
  match ← decodeMeasEpoch frame with
  | [row] =>
      let block ← encodeType1Observation row
      let again : ParsedRow ℚ ← parseType1Measurement block 0 0 0 frame row.header
      return (row.pseudorangeM, row.carrierPhaseCycles, again.row.carrierPhaseCycles)
  | _ => .error .indexError

/-- The phase of an L3 signal is read again with the frequency of another channel. -/
theorem glonassL3_phase_changed : ∃ rows : List (Row ℚ), decodeMeasEpoch glonassL3 = .ok rows ∧
    ∃ row ∈ rows, ∃ phase, row.carrierPhaseCycles = some phase ∧
      row.pseudorangeM = some 20000000 ∧ (0 : ℚ) < 20000000 ∧ (20000000 : ℚ) < 2 ^ 36 / 1000 ∧
      ∃ block, ∃ again : ParsedRow ℚ, encodeType1Observation row = .ok block ∧
        parseType1Measurement block 0 0 0 glonassL3 row.header = .ok again ∧
        again.row.carrierPhaseCycles ≠ some phase := by
  have evaluated : onlyPhase glonassL3 =
      .ok (some 20000000, some (20000000 * 1202462500 / 299792458 + 4660 / 1000),
        some (20000000 * 1198525000 / 299792458 + 4660 / 1000)) := by
    decide +kernel
  rcases Checked.bind_eq_ok.mp evaluated with ⟨rows, decoded, rest⟩
  refine ⟨rows, decoded, ?_⟩
  split at rest
  · rename_i row
    rcases Checked.bind_eq_ok.mp rest with ⟨block, encoded, rest⟩
    rcases Checked.bind_eq_ok.mp rest with ⟨again, parses, returned⟩
    simp only [Checked.pure_eq_ok, Except.ok.injEq, Prod.mk.injEq] at returned
    refine ⟨row, by simp, _, returned.2.1, returned.1, by norm_num, by norm_num, block, again,
      encoded, parses, ?_⟩
    rw [returned.2.2]
    norm_num
  · cases rest

end AsterxDriver.Parser
