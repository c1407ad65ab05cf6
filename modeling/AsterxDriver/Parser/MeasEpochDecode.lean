import AsterxDriver.Parser.MeasEpoch

/-! # What decoding a MeasEpoch gives

Decoding never raises. Every row keeps to the ranges of its fields, and its
float values are far from the limits of the arithmetic. -/

namespace AsterxDriver.Parser

open Foundation ByteString FloatArithmetic RoundedArithmetic

/-! ## Ranges of integer fields -/

theorem toSigned_range (bits : Nat) {value : Nat} (positive : 0 < bits)
    (small : value < 2 ^ bits) :
    -2 ^ (bits - 1) ≤ toSigned bits value ∧ toSigned bits value < 2 ^ (bits - 1) := by
  have double : 2 ^ bits = 2 ^ (bits - 1) * 2 := by
    rw [← Nat.pow_succ, Nat.succ_eq_add_one, Nat.sub_add_cancel positive]
  unfold toSigned
  rw [← Nat.cast_ofNat, ← Nat.cast_pow, ← Nat.cast_pow]
  split <;> omega

theorem signExtend_range (bits : Nat) {value : Nat} (positive : 0 < bits)
    (small : value < 2 ^ bits) :
    -2 ^ (bits - 1) ≤ signExtend value bits ∧ signExtend value bits < 2 ^ (bits - 1) := by
  have double : 2 ^ bits = 2 ^ (bits - 1) * 2 := by
    rw [← Nat.pow_succ, Nat.succ_eq_add_one, Nat.sub_add_cancel positive]
  have flipped : value ^^^ 2 ^ (bits - 1) < 2 ^ bits :=
    Nat.xor_lt_two_pow small (Nat.pow_lt_pow_right (by decide) (by omega))
  unfold signExtend
  rw [Nat.one_shiftLeft, ← Nat.cast_ofNat, ← Nat.cast_pow]
  dsimp only
  omega

theorem signalType_range (typeByte auxBits : Nat) :
    signalType typeByte auxBits < 64 ∧ signalType typeByte auxBits ≠ 31 := by
  have low : typeByte &&& 0x1F ≤ 0x1F := Nat.and_le_right
  have high : (auxBits >>> 3) &&& 0x1F ≤ 0x1F := Nat.and_le_right
  unfold signalType
  dsimp only
  split <;> omega

theorem antennaId_lt (typeByte : Nat) : antennaId typeByte < 8 :=
  Nat.lt_succ_of_le Nat.and_le_right

theorem dnuU_eq_some_iff {value dnu found : Nat} :
    dnuU value dnu = some found ↔ value ≠ dnu ∧ value = found := by
  unfold dnuU
  split <;> simp_all

theorem glonass_of_eq_some {signal infoBits : Nat} {k : Int}
    (found : glonassFreqNumber signal infoBits = some k) : 8 ≤ signal ∧ signal ≤ 12 := by
  unfold glonassFreqNumber at found
  split at found
  · cases found
  · rename_i member
    simp only [List.mem_cons, List.not_mem_nil, or_false, not_not] at member
    omega

theorem glonassFreqNumber_range {signal infoBits : Nat} {k : Int}
    (found : glonassFreqNumber signal infoBits = some k) : -8 ≤ k ∧ k ≤ 23 := by
  unfold glonassFreqNumber at found
  split at found
  · cases found
  · have masked : (infoBits >>> 3) &&& 0x1F ≤ 0x1F := Nat.and_le_right
    injection found with found
    omega

theorem type2GloK_range {parentGlo : Option Int} {sig obsInfo : Nat} {k : Int}
    (parent : ∀ k, parentGlo = some k → -8 ≤ k ∧ k ≤ 23)
    (found : type2GloK parentGlo sig obsInfo = some k) :
    (8 ≤ sig ∧ sig ≤ 12) ∧ -8 ≤ k ∧ k ≤ 23 := by
  unfold type2GloK at found
  split at found
  · rename_i member
    simp only [List.mem_cons, List.not_mem_nil, or_false] at member
    exact ⟨by omega, parent k found⟩
  · exact ⟨glonass_of_eq_some found, glonassFreqNumber_range found⟩

/-! ## Identity of an observation -/

/-- The fields that tell an observation apart, without the measured values. -/
structure Identity where
  towMs : Nat
  wnc : Nat
  rxChannel : Nat
  antennaId : Nat
  svid : Nat
  signalType : Nat
  glonassFreqNumber : Option Int
  cn0Raw : Option Nat
  lockTimeS : Option Nat
  smoothed : Bool
  halfCycle : Bool
  commonFlags : Nat
  cumClkJumpsMs : Nat
  deriving DecidableEq, Repr

def Row.identity {F : Type} (row : Row F) : Identity where
  towMs := row.towMs
  wnc := row.wnc
  rxChannel := row.rxChannel
  antennaId := row.antennaId
  svid := row.svid
  signalType := row.signalType
  glonassFreqNumber := row.glonassFreqNumber
  cn0Raw := row.cn0Raw
  lockTimeS := row.lockTimeS
  smoothed := row.smoothed
  halfCycle := row.halfCycle
  commonFlags := row.commonFlags
  cumClkJumpsMs := row.cumClkJumpsMs

def Row.header {F : Type} (row : Row F) : EpochHeader :=
  ⟨row.towMs, row.wnc, row.commonFlags, row.cumClkJumpsMs⟩

/-- Every field fits its place in a Type-1 sub-block or the block header. -/
structure Identity.Valid (identity : Identity) : Prop where
  towMs : identity.towMs < 4294967296
  wnc : identity.wnc < 65536
  rxChannel : identity.rxChannel < 256
  antennaId : identity.antennaId < 8
  svid : identity.svid < 256
  signalType : identity.signalType < 64 ∧ identity.signalType ≠ 31
  glonassFreqNumber : ∀ k, identity.glonassFreqNumber = some k →
    (8 ≤ identity.signalType ∧ identity.signalType ≤ 12) ∧ -8 ≤ k ∧ k ≤ 23
  cn0Raw : ∀ value, identity.cn0Raw = some value → value < 255
  lockTimeS : ∀ value, identity.lockTimeS = some value → value < 65535
  commonFlags : identity.commonFlags < 256
  cumClkJumpsMs : identity.cumClkJumpsMs < 256

structure EpochHeader.Valid (header : EpochHeader) : Prop where
  tow : header.tow < 4294967296
  wnc : header.wnc < 65536
  commonFlags : header.commonFlags < 256
  cumClkJumps : header.cumClkJumps < 256

/-! ## Raw fields -/

/-- The fields of the Type-1 sub-block at the front of `block`. -/
def type1Fields (block : List Byte) : Type1Fields where
  rxCh := u8 block 0
  typeB := u8 block 1
  svid := u8 block 2
  misc := u8 block 3
  codeLsb := u32le block 4
  dopplerRaw := toSigned 32 (u32le block 8)
  carrierLsb := u16le block 12
  carrierMsb := toSigned 8 (u8 block 14)
  cn0Raw := u8 block 15
  lock := u16le block 16
  obsInfo := u8 block 18

/-- The fields of the Type-2 sub-block at the front of `block`. -/
def type2Fields (block : List Byte) : Type2Fields where
  typeB := u8 block 0
  lock := u8 block 1
  cn0Raw := u8 block 2
  offsetsMsb := u8 block 3
  carrierMsb := toSigned 8 (u8 block 4)
  obsInfo := u8 block 5
  codeOffsetLsb := u16le block 6
  carrierLsb := u16le block 8
  dopplerOffsetLsb := u16le block 10

theorem readType1_eq {body : List Byte} {off : Nat} (inside : off + 20 ≤ body.length) :
    readType1 body off = .ok (type1Fields (body.drop off)) := by
  simp (disch := omega) only [readType1, unpackI, unpackH, unpackSignedI, unpackSignedB,
    byteAt_eq, unpackFrom_eq, Checked.ok_bind, Checked.pure_eq_ok, type1Fields, u8_drop,
    u16le_drop, u32le_drop, Nat.add_zero]

theorem readType2_eq {body : List Byte} {off : Nat} (inside : off + 12 ≤ body.length) :
    readType2 body off = .ok (type2Fields (body.drop off)) := by
  simp (disch := omega) only [readType2, unpackH, unpackSignedB, byteAt_eq, unpackFrom_eq,
    Checked.ok_bind, Checked.pure_eq_ok, type2Fields, u8_drop, u16le_drop, Nat.add_zero]

/-- Every field fits the number of bits it was read from. -/
structure Type1Fields.Fits (fields : Type1Fields) : Prop where
  rxCh : fields.rxCh < 256
  typeB : fields.typeB < 256
  svid : fields.svid < 256
  misc : fields.misc < 256
  codeLsb : fields.codeLsb < 4294967296
  dopplerRaw : -2147483648 ≤ fields.dopplerRaw ∧ fields.dopplerRaw < 2147483648
  carrierLsb : fields.carrierLsb < 65536
  carrierMsb : -128 ≤ fields.carrierMsb ∧ fields.carrierMsb < 128
  cn0Raw : fields.cn0Raw < 256
  lock : fields.lock < 65536
  obsInfo : fields.obsInfo < 256

structure Type2Fields.Fits (fields : Type2Fields) : Prop where
  lock : fields.lock < 256
  cn0Raw : fields.cn0Raw < 256
  carrierMsb : -128 ≤ fields.carrierMsb ∧ fields.carrierMsb < 128
  codeOffsetLsb : fields.codeOffsetLsb < 65536
  carrierLsb : fields.carrierLsb < 65536
  dopplerOffsetLsb : fields.dopplerOffsetLsb < 65536

theorem type1Fields_fits (block : List Byte) : (type1Fields block).Fits where
  rxCh := u8_lt block 0
  typeB := u8_lt block 1
  svid := u8_lt block 2
  misc := u8_lt block 3
  codeLsb := u32le_lt block 4
  dopplerRaw := toSigned_range 32 (by norm_num) (u32le_lt block 8)
  carrierLsb := u16le_lt block 12
  carrierMsb := toSigned_range 8 (by norm_num) (u8_lt block 14)
  cn0Raw := u8_lt block 15
  lock := u16le_lt block 16
  obsInfo := u8_lt block 18

theorem type2Fields_fits (block : List Byte) : (type2Fields block).Fits where
  lock := u8_lt block 1
  cn0Raw := u8_lt block 2
  carrierMsb := toSigned_range 8 (by norm_num) (u8_lt block 4)
  codeOffsetLsb := u16le_lt block 6
  carrierLsb := u16le_lt block 8
  dopplerOffsetLsb := u16le_lt block 10

/-- The identity that a Type-1 sub-block gives its row. -/
def Type1Fields.identity (fields : Type1Fields) (header : EpochHeader) : Identity where
  towMs := header.tow
  wnc := header.wnc
  rxChannel := fields.rxCh
  antennaId := antennaId fields.typeB
  svid := fields.svid
  signalType := signalType fields.typeB fields.obsInfo
  glonassFreqNumber := glonassFreqNumber (signalType fields.typeB fields.obsInfo)
    fields.obsInfo
  cn0Raw := dnuU fields.cn0Raw 255
  lockTimeS := dnuU fields.lock 65535
  smoothed := fields.obsInfo &&& 0x01 ≠ 0
  halfCycle := fields.obsInfo &&& 0x04 ≠ 0
  commonFlags := header.commonFlags
  cumClkJumpsMs := header.cumClkJumps

theorem Type1Fields.identity_valid {fields : Type1Fields} (fits : fields.Fits)
    {header : EpochHeader} (valid : header.Valid) : (fields.identity header).Valid where
  towMs := valid.tow
  wnc := valid.wnc
  rxChannel := fits.rxCh
  antennaId := antennaId_lt _
  svid := fits.svid
  signalType := signalType_range _ _
  glonassFreqNumber := fun _ found => ⟨glonass_of_eq_some found, glonassFreqNumber_range found⟩
  cn0Raw := fun value found => by
    have raw := dnuU_eq_some_iff.mp found
    have := fits.cn0Raw
    omega
  lockTimeS := fun value found => by
    have raw := dnuU_eq_some_iff.mp found
    have := fits.lock
    omega
  commonFlags := valid.commonFlags
  cumClkJumpsMs := valid.cumClkJumps

variable {F : Type} [RoundedArithmetic F]

/-! ## Float values -/

/-- Carrier frequencies are whole numbers of Hertz, of the order of one GHz. -/
def FrequencyValue (freq : F) : Prop :=
  ∃ hertz : ℤ, Represents freq hertz ∧ 10 ^ 9 ≤ hertz ∧ hertz ≤ 2 * 10 ^ 9

theorem fixedFrequency_value {hertz : Nat} {freq : F} (low : 10 ^ 9 ≤ hertz)
    (high : hertz ≤ 2 * 10 ^ 9) (found : fixedFrequency hertz = some freq) :
    FrequencyValue freq := by
  cases found
  have exact : Represents (ofRat ((hertz : ℤ) : ℚ) : F) (hertz : ℤ) :=
    represents_int (by rw [abs_le]; omega)
  exact ⟨hertz, by exact_mod_cast exact, by omega, by omega⟩

/-- A GLONASS channel is at most 23 steps above and 8 below its base. -/
theorem channelFrequency_value {gloK : Option Int} {base step : Nat} {freq : F}
    (range : ∀ k, gloK = some k → -8 ≤ k ∧ k ≤ 23) (stepHigh : step ≤ 10 ^ 6)
    (low : 10 ^ 9 + 8 * 10 ^ 6 ≤ base) (high : base + 23 * 10 ^ 6 ≤ 2 * 10 ^ 9)
    (found : channelFrequency gloK base step = some freq) : FrequencyValue freq := by
  rcases Option.map_eq_some_iff.mp found with ⟨k, number, rfl⟩
  rcases range k number with ⟨kLow, kHigh⟩
  have productLow : -8 * 10 ^ 6 ≤ k * step := by nlinarith
  have productHigh : k * step ≤ 23 * 10 ^ 6 := by nlinarith
  have product : Represents (mul (ofRat k) (ofRat (step : ℤ)) : F) ((k * step : ℤ) : ℚ) :=
    (represents_int (by rw [abs_le]; omega)).mul_int
      (represents_int (by rw [abs_le]; omega)) (by rw [abs_le]; omega)
  have sum : Represents (add (ofRat (base : ℤ)) (mul (ofRat k) (ofRat (step : ℤ))) : F)
      ((base + k * step : ℤ) : ℚ) :=
    (represents_int (by rw [abs_le]; omega)).add_int product (by rw [abs_le]; omega)
  exact ⟨base + k * step, by exact_mod_cast sum, by omega, by omega⟩

theorem ite_eq_some {α : Type} {condition : Prop} [Decidable condition]
    {yes no : Option α} {value : α}
    (found : (if condition then yes else no) = some value) :
    yes = some value ∨ no = some value := by
  split at found
  · exact .inl found
  · exact .inr found

theorem carrierFrequencyHz_value {signal infoBits : Nat} {gloK : Option Int} {freq : F}
    (range : ∀ k, gloK = some k → -8 ≤ k ∧ k ≤ 23)
    (found : carrierFrequencyHz signal infoBits gloK = some freq) : FrequencyValue freq := by
  have known : ∀ k, (gloK.orElse fun _ => glonassFreqNumber signal infoBits) = some k →
      -8 ≤ k ∧ k ≤ 23 := by
    intro k number
    cases gloK with
    | none => exact glonassFreqNumber_range number
    | some given => exact range k number
  rcases ite_eq_some found with found | found
  · exact fixedFrequency_value (by norm_num) (by norm_num) found
  rcases ite_eq_some found with found | found
  · exact fixedFrequency_value (by norm_num) (by norm_num) found
  rcases ite_eq_some found with found | found
  · exact fixedFrequency_value (by norm_num) (by norm_num) found
  rcases ite_eq_some found with found | found
  · exact channelFrequency_value known (by norm_num) (by norm_num) (by norm_num) found
  rcases ite_eq_some found with found | found
  · exact channelFrequency_value known (by norm_num) (by norm_num) (by norm_num) found
  rcases ite_eq_some found with found | found
  · exact channelFrequency_value known (by norm_num) (by norm_num) (by norm_num) found
  iterate 9
    rcases ite_eq_some found with found | found
    · exact fixedFrequency_value (by norm_num) (by norm_num) found
  cases found

/-- The number of cycles in a pseudorange can always be computed. -/
theorem cycles_value {pseudorange freq : F} {bound : ℕ} (within : Within pseudorange bound)
    (value : FrequencyValue freq) (small : bound * 2 ^ 3 ≤ 2 ^ 53) :
    ∃ wavelength cycles, divide lightSpeedMps freq = .ok wavelength ∧
      divide pseudorange wavelength = .ok cycles ∧ Within cycles (bound * 2 ^ 3) := by
  rcases value with ⟨hertz, represents, low, high⟩
  have light : Represents (lightSpeedMps : F) ((299792458 : ℤ) : ℚ) := by
    have exact : Represents (ofRat ((299792458 : ℤ) : ℚ) : F) ((299792458 : ℤ) : ℚ) :=
      represents_int (by norm_num)
    exact_mod_cast exact
  rcases div_int_between 1 3 1 light represents (by omega) (by norm_num) (by norm_num)
      (by norm_num) (by push_cast; omega) (by push_cast; omega) with
    ⟨wavelength, value, divided, wavelengthValue, away, _⟩
  rcases within.div wavelengthValue (by simpa using away) small with
    ⟨cycles, dividedAgain, cyclesWithin⟩
  refine ⟨wavelength, cycles, ?_, ?_, cyclesWithin⟩
  · rw [divide, divided]
  · rw [divide, dividedAgain]

theorem within_ofInt {count : Int} {bound : ℕ} (within : |count| ≤ bound)
    (small : bound ≤ 2 ^ 53) : Within (ofRat (count : ℚ) : F) bound :=
  within_ofRat (by rw [← Int.cast_abs]; exact_mod_cast within) small

theorem thousandths_within {count : Int} {bound : ℕ} (within : |count| ≤ bound)
    (small : bound ≤ 2 ^ 53) : Within (thousandths count : F) bound := by
  have unit : Within (ofRat (1 / 1000) : F) 1 :=
    within_ofRat (by rw [abs_of_nonneg] <;> norm_num) (by norm_num)
  have product := (within_ofInt within small).mul unit (by rwa [Nat.mul_one])
  rwa [Nat.mul_one] at product

theorem carrierPhase_value {pseudorange freq : Option F} {bound : ℕ} {carrierMsb : Int}
    {carrierLsb : Nat} (within : ∀ value, pseudorange = some value → Within value bound)
    (known : ∀ value, freq = some value → FrequencyValue value)
    (range : |carrierMsb * 65536 + carrierLsb| ≤ 2 ^ 24)
    (small : bound * 2 ^ 3 + 2 ^ 24 ≤ 2 ^ 53) :
    ∃ phase, carrierPhase pseudorange freq carrierMsb carrierLsb = .ok phase ∧
      ∀ value, phase = some value → Within value (bound * 2 ^ 3 + 2 ^ 24) := by
  cases pseudorange with
  | none => exact ⟨none, rfl, fun _ impossible => by cases impossible⟩
  | some pseudorange =>
      cases freq with
      | none => exact ⟨none, rfl, fun _ impossible => by cases impossible⟩
      | some freq =>
          rcases cycles_value (within _ rfl) (known _ rfl) (by omega) with
            ⟨wavelength, cycles, first, second, cyclesWithin⟩
          rw [carrierPhase]
          split
          · exact ⟨none, rfl, fun _ impossible => by cases impossible⟩
          · rw [first, Checked.ok_bind, second, Checked.ok_bind]
            refine ⟨_, rfl, fun _ equal => ?_⟩
            cases equal
            exact cyclesWithin.add (thousandths_within (by exact_mod_cast range) (by norm_num))
              small

/-! ## Sub-blocks -/

/-- A decoded row with the bounds of its pseudorange and Doppler. -/
structure ParsedRow.Sound (parsed : ParsedRow F) (range rate : ℕ) : Prop where
  identity : parsed.row.identity.Valid
  freq : ∀ value, parsed.freqHz = some value → FrequencyValue value
  gloFreqNumber : parsed.gloFreqNumber = parsed.row.glonassFreqNumber
  pseudorange : ∀ value, parsed.row.pseudorangeM = some value → Within value range
  doppler : ∀ value, parsed.row.dopplerHz = some value → Within value rate
  phase : ∀ value, parsed.row.carrierPhaseCycles = some value → Within value (2 ^ 41)

theorem type1Pseudorange_within {misc codeLsb : Nat} (small : codeLsb < 4294967296)
    {value : F} (found : type1Pseudorange (misc &&& 0x0F) codeLsb = some value) :
    Within value (2 ^ 36) := by
  have masked : misc &&& 0x0F ≤ 0x0F := Nat.and_le_right
  unfold type1Pseudorange at found
  split at found
  · cases found
    exact thousandths_within (by rw [abs_le]; push_cast; omega) (by norm_num)
  · cases found

theorem within_rate {count : Int} {bound : ℕ} (within : |count| ≤ bound)
    (small : bound ≤ 2 ^ 53) :
    Within (mul (ofRat count) (ofRat (1 / 10000)) : F) bound := by
  have unit : Within (ofRat (1 / 10000) : F) 1 :=
    within_ofRat (by rw [abs_of_nonneg] <;> norm_num) (by norm_num)
  have product := (within_ofInt within small).mul unit (by rwa [Nat.mul_one])
  rwa [Nat.mul_one] at product

theorem type1Doppler_within {raw : Int} (range : |raw| ≤ 2 ^ 31) {value : F}
    (found : type1Doppler raw = some value) : Within value (2 ^ 31) := by
  unfold type1Doppler at found
  split at found
  · cases found
  · cases found
    exact within_rate (by exact_mod_cast range) (by norm_num)

theorem Type1Fields.parse_spec {fields : Type1Fields} (fits : fields.Fits)
    (epochIndex obsIndex : Nat) (frame : SbfFrame) {header : EpochHeader}
    (valid : header.Valid) :
    ∃ parsed : ParsedRow F, fields.parse epochIndex obsIndex frame header = .ok parsed ∧
      parsed.row.identity = fields.identity header ∧ parsed.row.level = 1 ∧
      parsed.Sound (2 ^ 36) (2 ^ 31) := by
  have carrierRange : |fields.carrierMsb * 65536 + fields.carrierLsb| ≤ 2 ^ 24 := by
    have := fits.carrierMsb
    have := fits.carrierLsb
    rw [abs_le]
    omega
  have dopplerRange : |fields.dopplerRaw| ≤ 2 ^ 31 := by
    have := fits.dopplerRaw
    rw [abs_le]
    omega
  have frequency : ∀ value : F, carrierFrequencyHz
      (signalType fields.typeB fields.obsInfo) fields.obsInfo
      (glonassFreqNumber (signalType fields.typeB fields.obsInfo) fields.obsInfo) =
        some value → FrequencyValue value := fun _ found =>
    carrierFrequencyHz_value (fun _ number => glonassFreqNumber_range number) found
  rcases carrierPhase_value (fun _ found => type1Pseudorange_within fits.codeLsb found) frequency
      carrierRange (by norm_num) with ⟨phase, computed, phaseWithin⟩
  rw [Type1Fields.parse, computed]
  refine ⟨_, rfl, rfl, rfl, ?_⟩
  exact
    { identity := identity_valid fits valid
      freq := frequency
      gloFreqNumber := rfl
      pseudorange := fun _ found => type1Pseudorange_within fits.codeLsb found
      doppler := fun _ found => type1Doppler_within dopplerRange found
      phase := fun value found => (phaseWithin value found).mono (by norm_num) }

theorem type2Pseudorange_within {parentPr : Option F}
    (parent : ∀ value, parentPr = some value → Within value (2 ^ 36)) {msb : Int} {lsb : Nat}
    (msbRange : -4 ≤ msb ∧ msb < 4) (lsbSmall : lsb < 65536) {value : F}
    (found : type2Pseudorange parentPr msb lsb = some value) : Within value (2 ^ 37) := by
  cases parentPr with
  | none => cases found
  | some parentPr =>
      rw [type2Pseudorange] at found
      split at found
      · cases found
      · cases found
        have offset : Within (thousandths (msb * 65536 + lsb) : F) (2 ^ 19) :=
          thousandths_within (by rw [abs_le]; push_cast; omega) (by norm_num)
        exact ((parent _ rfl).add offset (by norm_num)).mono (by norm_num)

theorem frequencyRatio_value {freq parentFreq : Option F}
    (known : ∀ value, freq = some value → FrequencyValue value)
    (parentKnown : ∀ value, parentFreq = some value → FrequencyValue value) :
    ∃ alpha, frequencyRatio freq parentFreq = .ok alpha ∧ Within alpha 2 := by
  have one : Within (ofRat 1 : F) 2 := within_ofRat (by norm_num) (by norm_num)
  cases freq with
  | none => exact ⟨_, rfl, one⟩
  | some freq =>
      cases parentFreq with
      | none => exact ⟨_, rfl, one⟩
      | some parentFreq =>
          rcases known _ rfl with ⟨hertz, represents, low, high⟩
          rcases parentKnown _ rfl with ⟨parentHertz, parentRepresents, parentLow, parentHigh⟩
          rcases div_int_between 0 0 2 represents parentRepresents (by omega) (by norm_num)
              (by norm_num) (by norm_num) (by push_cast; omega) (by push_cast; omega) with
            ⟨alpha, ratio, divided, ratioValue, nonneg, upper⟩
          rw [frequencyRatio]
          split
          · exact ⟨_, rfl, one⟩
          · refine ⟨alpha, by rw [divide, divided], ratio, ratioValue, ?_⟩
            rw [abs_of_nonneg (by simpa using nonneg)]
            exact upper

theorem type2Doppler_value {parentDoppler parentFreq freq : Option F}
    (doppler : ∀ value, parentDoppler = some value → Within value (2 ^ 31))
    (known : ∀ value, freq = some value → FrequencyValue value)
    (parentKnown : ∀ value, parentFreq = some value → FrequencyValue value)
    {msb : Int} {lsb : Nat} (msbRange : -16 ≤ msb ∧ msb < 16) (lsbSmall : lsb < 65536) :
    ∃ result, type2Doppler parentDoppler parentFreq freq msb lsb = .ok result ∧
      ∀ value, result = some value → Within value (2 ^ 33) := by
  cases parentDoppler with
  | none => exact ⟨none, rfl, fun _ impossible => by cases impossible⟩
  | some parentDoppler =>
      rcases frequencyRatio_value known parentKnown with ⟨alpha, computed, alphaWithin⟩
      have offset : Within
          (mul (ofRat (msb * 65536 + lsb : Int)) (ofRat (1 / 10000)) : F) (2 ^ 21) :=
        within_rate (by rw [abs_le]; push_cast; omega) (by norm_num)
      rw [type2Doppler]
      split
      · exact ⟨none, rfl, fun _ impossible => by cases impossible⟩
      · rw [computed, Checked.ok_bind]
        refine ⟨_, rfl, fun _ found => ?_⟩
        cases found
        exact (((doppler _ rfl).mul alphaWithin (by norm_num)).add offset (by norm_num)).mono
          (by norm_num)

theorem Type2Fields.parse_spec {fields : Type2Fields} (fits : fields.Fits)
    {parent : ParsedRow F} (sound : parent.Sound (2 ^ 36) (2 ^ 31))
    (epochIndex obsIndex : Nat) (frame : SbfFrame) {header : EpochHeader}
    (valid : header.Valid) :
    ∃ parsed, fields.parse parent epochIndex obsIndex frame header = .ok parsed ∧
      parsed.row.header = header ∧ parsed.Sound (2 ^ 37) (2 ^ 33) := by
  have codeRange := signExtend_range 3 (by norm_num)
    (Nat.lt_succ_of_le (Nat.and_le_right : fields.offsetsMsb &&& 0x07 ≤ 0x07))
  have dopplerRange := signExtend_range 5 (by norm_num)
    (Nat.lt_succ_of_le (Nat.and_le_right : (fields.offsetsMsb >>> 3) &&& 0x1F ≤ 0x1F))
  have carrierRange : |fields.carrierMsb * 65536 + fields.carrierLsb| ≤ 2 ^ 24 := by
    have := fits.carrierMsb
    have := fits.carrierLsb
    rw [abs_le]
    omega
  have number : ∀ k, type2GloK parent.gloFreqNumber
      (signalType fields.typeB fields.obsInfo) fields.obsInfo = some k →
      (8 ≤ signalType fields.typeB fields.obsInfo ∧
        signalType fields.typeB fields.obsInfo ≤ 12) ∧ -8 ≤ k ∧ k ≤ 23 := by
    intro k found
    rw [sound.gloFreqNumber] at found
    exact type2GloK_range (fun k known => (sound.identity.glonassFreqNumber k known).2) found
  have frequency : ∀ value : F, carrierFrequencyHz
      (signalType fields.typeB fields.obsInfo) fields.obsInfo
      (type2GloK parent.gloFreqNumber (signalType fields.typeB fields.obsInfo)
        fields.obsInfo) = some value → FrequencyValue value := fun _ found =>
    carrierFrequencyHz_value (fun k known => (number k known).2) found
  have pseudorange : ∀ value, type2Pseudorange parent.row.pseudorangeM _
      fields.codeOffsetLsb = some value → Within value (2 ^ 37) := fun _ found =>
    type2Pseudorange_within sound.pseudorange codeRange fits.codeOffsetLsb found
  rcases type2Doppler_value sound.doppler frequency sound.freq dopplerRange fits.dopplerOffsetLsb
      with
    ⟨doppler, dopplerComputed, dopplerWithin⟩
  rcases carrierPhase_value pseudorange frequency carrierRange (by norm_num) with
    ⟨phase, phaseComputed, phaseWithin⟩
  rw [Type2Fields.parse, dopplerComputed, Checked.ok_bind, phaseComputed]
  refine ⟨_, rfl, rfl, ?_⟩
  exact
    { identity :=
        { towMs := valid.tow
          wnc := valid.wnc
          rxChannel := sound.identity.rxChannel
          antennaId := antennaId_lt _
          svid := sound.identity.svid
          signalType := signalType_range _ _
          glonassFreqNumber := number
          cn0Raw := fun value found => by
            have raw := dnuU_eq_some_iff.mp found
            have := fits.cn0Raw
            omega
          lockTimeS := fun value found => by
            have raw := dnuU_eq_some_iff.mp found
            have := fits.lock
            omega
          commonFlags := valid.commonFlags
          cumClkJumpsMs := valid.cumClkJumps }
      freq := frequency
      gloFreqNumber := rfl
      pseudorange := pseudorange
      doppler := dopplerWithin
      phase := fun value found => (phaseWithin value found).mono (by norm_num) }

/-! ## Whole blocks -/

/-- What the encoder relies on. -/
structure Row.Encodable (row : Row F) : Prop where
  identity : row.identity.Valid
  pseudorange : ∀ value, row.pseudorangeM = some value → Within value (2 ^ 37)
  doppler : ∀ value, row.dopplerHz = some value → Within value (2 ^ 33)
  phase : ∀ value, row.carrierPhaseCycles = some value → Within value (2 ^ 41)

theorem ParsedRow.Sound.encodable {parsed : ParsedRow F} {range rate : ℕ}
    (sound : parsed.Sound range rate) (rangeSmall : range ≤ 2 ^ 37)
    (rateSmall : rate ≤ 2 ^ 33) : parsed.row.Encodable where
  identity := sound.identity
  pseudorange := fun value found => (sound.pseudorange value found).mono rangeSmall
  doppler := fun value found => (sound.doppler value found).mono rateSmall
  phase := sound.phase

/-- Every row is encodable and carries the header of its block. -/
def Coherent (header : EpochHeader) (rows : List (Row F)) : Prop :=
  ∀ row ∈ rows, row.header = header ∧ row.Encodable

theorem Coherent.append {header : EpochHeader} {front back : List (Row F)}
    (first : Coherent header front) (second : Coherent header back) :
    Coherent header (front ++ back) := by
  intro row member
  rcases List.mem_append.mp member with member | member
  · exact first row member
  · exact second row member

variable (frame : SbfFrame) {header : EpochHeader} (valid : header.Valid)

include valid

theorem type2Loop_spec {parent : ParsedRow F} (sound : parent.Sound (2 ^ 36) (2 ^ 31))
    (sb2Len epochIndex count off obsIndex : Nat) :
    ∃ rows, type2Loop frame header sb2Len parent epochIndex count off obsIndex = .ok rows ∧
      Coherent header (rows.map ParsedRow.row) := by
  induction count generalizing off obsIndex with
  | zero => exact ⟨[], rfl, by simp [Coherent]⟩
  | succ count induction =>
      rw [type2Loop]
      split
      · exact ⟨[], rfl, by simp [Coherent]⟩
      · rename_i inside
        rcases Type2Fields.parse_spec (type2Fields_fits (frame.body.drop off)) sound
          epochIndex obsIndex frame valid with ⟨child, parsed, sameHeader, childSound⟩
        rcases induction (off + sb2Len) (obsIndex + 1) with ⟨later, result, coherent⟩
        refine ⟨child :: later, ?_, ?_⟩
        · rw [parseType2Measurement, readType2_eq (by omega), Checked.ok_bind, parsed,
            Checked.ok_bind, result]
          rfl
        · intro row member
          rcases List.mem_cons.mp member with rfl | member
          · exact ⟨sameHeader, childSound.encodable (le_refl _) (le_refl _)⟩
          · exact coherent row member

theorem type1Loop_spec (sb1Len sb2Len count epochIndex off obsIndex : Nat) :
    ∃ rows : List (ParsedRow F),
      type1Loop frame header sb1Len sb2Len count epochIndex off obsIndex = .ok rows ∧
      Coherent header (rows.map ParsedRow.row) := by
  induction count generalizing epochIndex off obsIndex with
  | zero => exact ⟨[], rfl, by simp [Coherent]⟩
  | succ count induction =>
      rw [type1Loop]
      split
      · exact ⟨[], rfl, by simp [Coherent]⟩
      · rename_i inside
        rcases Type1Fields.parse_spec (F := F) (type1Fields_fits (frame.body.drop off))
          epochIndex obsIndex frame valid with ⟨parent, parsed, identity, _, sound⟩
        rcases type2Loop_spec frame valid sound sb2Len epochIndex
          (u8 frame.body (off + 19)) (off + sb1Len) (obsIndex + 1) with
          ⟨children, childrenResult, childrenCoherent⟩
        rcases induction (epochIndex + 1)
          (off + (sb1Len + u8 frame.body (off + 19) * sb2Len))
          (obsIndex + 1 + children.length) with ⟨later, result, coherent⟩
        refine ⟨parent :: (children ++ later), ?_, ?_⟩
        · rw [parseType1Measurement, readType1_eq (by omega), Checked.ok_bind, parsed,
            Checked.ok_bind, byteAt_eq (by omega), Checked.ok_bind, childrenResult,
            Checked.ok_bind, result]
          rfl
        · rw [List.map_cons, List.map_append]
          intro row member
          rcases List.mem_cons.mp member with rfl | member
          · refine ⟨?_, sound.encodable (by norm_num) (by norm_num)⟩
            have fields := congrArg (fun identity => (⟨identity.towMs, identity.wnc,
              identity.commonFlags, identity.cumClkJumpsMs⟩ : EpochHeader)) identity
            exact fields
          · exact (childrenCoherent.append coherent) row member

omit valid

/-- The header fields of a MeasEpoch body. -/
def epochHeader (body : List Byte) : EpochHeader :=
  ⟨u32le body 0, u16le body 4, u8 body 9, u8 body 10⟩

omit [RoundedArithmetic F] in
theorem epochHeader_valid (body : List Byte) : (epochHeader body).Valid :=
  ⟨u32le_lt body 0, u16le_lt body 4, u8_lt body 9, u8_lt body 10⟩

theorem decodeMeasEpoch_eq (long : 12 ≤ frame.body.length) :
    decodeMeasEpoch frame = (do
      let rows : List (ParsedRow F) ← type1Loop frame (epochHeader frame.body)
        (u8 frame.body 7) (u8 frame.body 8) (u8 frame.body 6) 0 12 0
      return rows.map ParsedRow.row) := by
  rw [decodeMeasEpoch, if_neg (by omega)]
  simp (disch := omega) only [unpackI, unpackH, unpackFrom_eq, byteAt_eq, Checked.ok_bind]
  rfl

/-- Decoding never raises. -/
theorem decodeMeasEpoch_spec :
    ∃ rows : List (Row F), decodeMeasEpoch frame = .ok rows ∧
      Coherent (epochHeader frame.body) rows := by
  by_cases long : 12 ≤ frame.body.length
  · rcases type1Loop_spec (F := F) frame (epochHeader_valid frame.body) (u8 frame.body 7)
      (u8 frame.body 8) (u8 frame.body 6) 0 12 0 with ⟨rows, result, coherent⟩
    refine ⟨rows.map ParsedRow.row, ?_, coherent⟩
    rw [decodeMeasEpoch_eq frame long, result]
    rfl
  · exact ⟨[], if_pos (by omega), by simp [Coherent]⟩

end AsterxDriver.Parser
