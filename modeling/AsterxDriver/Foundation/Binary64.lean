import AsterxDriver.Foundation.FloatArithmetic
import Mathlib.Data.Int.Log
import Mathlib.Algebra.Order.Field.Power

/-! # Binary64

Rounding to 53 significant bits, to the even one of two neighbours, with the
subnormal numbers near zero. -/

namespace Foundation

/-! ## Rounding to an integer -/

theorem roundHalfEven_le_floor_add_one (value : ℚ) :
    ⌊value⌋ ≤ roundHalfEven value ∧ roundHalfEven value ≤ ⌊value⌋ + 1 := by
  unfold roundHalfEven
  dsimp only
  split_ifs <;> omega

@[simp] theorem roundHalfEven_intCast (integer : ℤ) : roundHalfEven integer = integer := by
  simp [roundHalfEven]

/-- The distance to the value decides, and parity where it does not. -/
theorem roundHalfEven_le_roundHalfEven {low high : ℚ} (le : low ≤ high) :
    roundHalfEven low ≤ roundHalfEven high := by
  have floors : ⌊low⌋ ≤ ⌊high⌋ := Int.floor_mono le
  rcases floors.lt_or_eq with below | same
  · have lowUpper := (roundHalfEven_le_floor_add_one low).2
    have highLower := (roundHalfEven_le_floor_add_one high).1
    omega
  · unfold roundHalfEven
    rw [same]
    dsimp only
    split_ifs <;> first | omega | linarith

theorem abs_roundHalfEven_le {value : ℚ} {bound : ℤ} (within : |value| ≤ bound) :
    |roundHalfEven value| ≤ bound := by
  rw [abs_le] at within ⊢
  constructor
  · have := roundHalfEven_le_roundHalfEven within.1
    rwa [← Int.cast_neg, roundHalfEven_intCast] at this
  · have := roundHalfEven_le_roundHalfEven within.2
    rwa [roundHalfEven_intCast] at this

/-! ## Rounding to the grid -/

/-- The exponent of the distance between the floats around `value`. -/
def gridExponent (value : ℚ) : ℤ := max (Int.log 2 |value| - 52) (-1074)

def roundBinary64 (value : ℚ) : ℚ :=
  roundHalfEven (value / 2 ^ gridExponent value) * 2 ^ gridExponent value

theorem two_zpow_pos (exponent : ℤ) : (0 : ℚ) < 2 ^ exponent :=
  zpow_pos (by norm_num) exponent

theorem abs_lt_two_zpow (value : ℚ) : |value| < 2 ^ (gridExponent value + 53) := by
  calc |value| < ((2 : ℕ) : ℚ) ^ (Int.log 2 |value| + 1) :=
        Int.lt_zpow_succ_log_self (by norm_num) _
    _ ≤ 2 ^ (gridExponent value + 53) :=
        zpow_le_zpow_right₀ (by norm_num) (by unfold gridExponent; omega)

theorem exists_multiple (integer : ℤ) {grid exponent : ℤ} (coarse : grid ≤ exponent) :
    ∃ multiple : ℤ, (integer : ℚ) * 2 ^ exponent = multiple * 2 ^ grid := by
  rcases Int.eq_ofNat_of_zero_le (Int.sub_nonneg.mpr coarse) with ⟨steps, shift⟩
  refine ⟨integer * 2 ^ steps, ?_⟩
  rw [show exponent = steps + grid by omega, zpow_add₀ (by norm_num), zpow_natCast]
  push_cast
  ring

/-- Multiples of a coarser step are on the grid. -/
theorem roundBinary64_of_multiple {value : ℚ} (integer : ℤ) {exponent : ℤ}
    (multiple : value = integer * 2 ^ exponent) (coarse : gridExponent value ≤ exponent) :
    roundBinary64 value = value := by
  rcases exists_multiple integer coarse with ⟨steps, split⟩
  have quotient : value / 2 ^ gridExponent value = steps := by
    rw [div_eq_iff (two_zpow_pos _).ne', ← split, multiple]
  rw [roundBinary64, quotient, roundHalfEven_intCast, ← split, multiple]

theorem gridExponent_le_of_abs_lt {value : ℚ} {exponent : ℤ} (nonzero : value ≠ 0)
    (normal : -1074 ≤ exponent) (small : |value| < 2 ^ (exponent + 53)) :
    gridExponent value ≤ exponent := by
  have logSmall := (Int.lt_zpow_iff_log_lt (by norm_num) (abs_pos.mpr nonzero)).mp
    (show |value| < ((2 : ℕ) : ℚ) ^ (exponent + 53) from small)
  exact max_le (by omega) normal

theorem roundBinary64_zero : roundBinary64 0 = 0 := by
  have zero := roundHalfEven_intCast 0
  rw [Int.cast_zero] at zero
  rw [roundBinary64, zero_div, zero, Int.cast_zero, zero_mul]

/-- Numbers of 53 significant bits are on the grid. -/
theorem roundBinary64_of_significand (integer : ℤ) {exponent : ℤ}
    (small : |integer| ≤ 2 ^ 53) (normal : -1074 ≤ exponent) :
    roundBinary64 (integer * 2 ^ exponent) = integer * 2 ^ exponent := by
  have positive := two_zpow_pos exponent
  rcases eq_or_ne integer 0 with rfl | nonzero
  · rw [Int.cast_zero, zero_mul, roundBinary64_zero]
  have valueNonzero : (integer : ℚ) * 2 ^ exponent ≠ 0 :=
    mul_ne_zero (Int.cast_ne_zero.mpr nonzero) positive.ne'
  have magnitude : |(integer : ℚ) * 2 ^ exponent| = ((|integer| : ℤ) : ℚ) * 2 ^ exponent := by
    rw [abs_mul, abs_of_pos positive, Int.cast_abs]
  rcases small.lt_or_eq with less | full
  · apply roundBinary64_of_multiple integer rfl
    apply gridExponent_le_of_abs_lt valueNonzero normal
    rw [magnitude, add_comm, zpow_add₀ (by norm_num)]
    apply mul_lt_mul_of_pos_right _ positive
    exact_mod_cast less
  · -- The largest significand is the smallest one of the next binade.
    have raised : (integer : ℚ) * 2 ^ exponent = (integer.sign : ℤ) * 2 ^ (exponent + 53) := by
      conv_lhs => rw [← Int.sign_mul_abs integer, full]
      rw [add_comm, zpow_add₀ (by norm_num)]
      push_cast
      ring
    apply roundBinary64_of_multiple integer.sign raised
    apply gridExponent_le_of_abs_lt valueNonzero (by omega)
    rw [magnitude, full, add_assoc, zpow_add₀ (by norm_num), mul_comm]
    apply mul_lt_mul_of_pos_left _ positive
    norm_num

/-- A rounded value is on the grid. -/
theorem roundBinary64_roundBinary64 (value : ℚ) :
    roundBinary64 (roundBinary64 value) = roundBinary64 value := by
  have scaled : |value / 2 ^ gridExponent value| ≤ ((2 ^ 53 : ℤ) : ℚ) := by
    rw [abs_div, abs_of_pos (two_zpow_pos _), div_le_iff₀ (two_zpow_pos _)]
    have below := abs_lt_two_zpow value
    rw [add_comm, zpow_add₀ (by norm_num)] at below
    exact_mod_cast below.le
  exact roundBinary64_of_significand _ (abs_roundHalfEven_le scaled) (le_max_right _ _)

/-! ## Order -/

section

variable {value : ℚ} (integer : ℤ) {exponent : ℤ} (coarse : gridExponent value ≤ exponent)

include coarse

theorem roundBinary64_le (above : value ≤ integer * 2 ^ exponent) :
    roundBinary64 value ≤ integer * 2 ^ exponent := by
  rcases exists_multiple integer coarse with ⟨steps, split⟩
  rw [split] at above ⊢
  have rounded := roundHalfEven_le_roundHalfEven ((div_le_iff₀ (two_zpow_pos _)).mpr above)
  rw [roundHalfEven_intCast] at rounded
  exact mul_le_mul_of_nonneg_right (by exact_mod_cast rounded) (two_zpow_pos _).le

theorem le_roundBinary64 (below : integer * 2 ^ exponent ≤ value) :
    integer * 2 ^ exponent ≤ roundBinary64 value := by
  rcases exists_multiple integer coarse with ⟨steps, split⟩
  rw [split] at below ⊢
  have rounded := roundHalfEven_le_roundHalfEven ((le_div_iff₀ (two_zpow_pos _)).mpr below)
  rw [roundHalfEven_intCast] at rounded
  exact mul_le_mul_of_nonneg_right (by exact_mod_cast rounded) (two_zpow_pos _).le

end

/-- Away from the subnormal numbers the significand uses all its bits. -/
theorem two_zpow_le_abs {value : ℚ} (nonzero : value ≠ 0)
    (normal : -1074 < gridExponent value) : (2 : ℚ) ^ (gridExponent value + 52) ≤ |value| := by
  have log : gridExponent value + 52 = Int.log 2 |value| := by
    unfold gridExponent at normal ⊢
    omega
  rw [log]
  exact Int.zpow_log_le_self (by norm_num) (abs_pos.mpr nonzero)

/-- A value on a finer grid is below the next power of two. -/
theorem abs_le_of_gridExponent_lt {value other : ℚ} (nonzero : other ≠ 0)
    (finer : gridExponent value < gridExponent other) :
    |value| < 2 ^ (gridExponent other + 52) ∧
      (2 : ℚ) ^ (gridExponent other + 52) ≤ |other| := by
  constructor
  · exact (abs_lt_two_zpow value).trans_le
      (zpow_le_zpow_right₀ (by norm_num) (by omega))
  · exact two_zpow_le_abs nonzero (lt_of_le_of_lt (le_max_right _ _) finer)

/-- Two values on different grids round to different sides of a power of two. -/
theorem roundBinary64_le_of_ne_zero {low high : ℚ} (le : low ≤ high) (lowNonzero : low ≠ 0)
    (highNonzero : high ≠ 0) : roundBinary64 low ≤ roundBinary64 high := by
  rcases lt_trichotomy (gridExponent low) (gridExponent high) with finer | same | finer
  · rcases abs_le_of_gridExponent_lt highNonzero finer with ⟨below, above⟩
    have positive : 0 < high := by
      by_contra nonpos
      rw [abs_of_nonpos (not_lt.mp nonpos), abs_of_nonpos (le.trans (not_lt.mp nonpos))] at *
      linarith
    rw [abs_of_pos positive] at above
    have first := roundBinary64_le 1 (show gridExponent low ≤ gridExponent high + 52 by omega)
      (by simpa using (le_abs_self low).trans below.le)
    have second := le_roundBinary64 1
      (show gridExponent high ≤ gridExponent high + 52 by omega) (by simpa using above)
    exact first.trans second
  · rw [roundBinary64, roundBinary64, same]
    have rounded := roundHalfEven_le_roundHalfEven
      ((div_le_div_iff_of_pos_right (two_zpow_pos (gridExponent high))).mpr le)
    exact mul_le_mul_of_nonneg_right (by exact_mod_cast rounded) (two_zpow_pos _).le
  · rcases abs_le_of_gridExponent_lt lowNonzero finer with ⟨above, below⟩
    have negative : low < 0 := by
      by_contra nonneg
      rw [abs_of_nonneg (not_lt.mp nonneg), abs_of_nonneg ((not_lt.mp nonneg).trans le)] at *
      linarith
    rw [abs_of_neg negative] at below
    have first := roundBinary64_le (-1) (show gridExponent low ≤ gridExponent low + 52 by omega)
      (by push_cast; linarith)
    have second := le_roundBinary64 (-1)
      (show gridExponent high ≤ gridExponent low + 52 by omega)
      (by push_cast; linarith [neg_abs_le high])
    exact first.trans second

theorem roundBinary64_monotone : Monotone roundBinary64 := by
  intro low high le
  rcases eq_or_ne low 0 with rfl | lowNonzero
  · rw [roundBinary64_zero]
    simpa using le_roundBinary64 0 (le_refl (gridExponent high)) (by simpa using le)
  rcases eq_or_ne high 0 with rfl | highNonzero
  · rw [roundBinary64_zero]
    simpa using roundBinary64_le 0 (le_refl (gridExponent low)) (by simpa using le)
  exact roundBinary64_le_of_ne_zero le lowNonzero highNonzero

/-! ## Floats -/

/-- A finite float. -/
structure FiniteBinary64 where
  value : ℚ
  rounded : roundBinary64 value = value
  small : |value| < 2 ^ 1024
  deriving DecidableEq

/-- Values that are not finite are not told apart, and operations keep them. -/
abbrev Binary64 := Option FiniteBinary64

namespace Binary64

def ofExact (exact : ℚ) : Binary64 :=
  if small : |roundBinary64 exact| < 2 ^ 1024 then
    some ⟨roundBinary64 exact, roundBinary64_roundBinary64 exact, small⟩
  else none

def lift (operation : ℚ → ℚ → ℚ) : Binary64 → Binary64 → Binary64
  | some first, some second => ofExact (operation first.value second.value)
  | _, _ => none

def Represents (float : Binary64) (value : ℚ) : Prop :=
  ∃ finite, float = some finite ∧ finite.value = value

theorem abs_roundBinary64_le {exact : ℚ} (small : |exact| ≤ 2 ^ 1000) :
    |roundBinary64 exact| ≤ 2 ^ 1000 := by
  have fixed : ∀ sign : ℤ, |sign| ≤ 1 →
      roundBinary64 (sign * 2 ^ (1000 : ℤ)) = sign * 2 ^ (1000 : ℤ) := fun sign unit =>
    roundBinary64_of_significand sign (unit.trans (by norm_num)) (by norm_num)
  have above := fixed 1 (by norm_num)
  have below := fixed (-1) (by norm_num)
  rw [Int.cast_one, one_mul] at above
  rw [Int.cast_neg, Int.cast_one, neg_one_mul] at below
  rw [abs_le] at small ⊢
  constructor
  · exact below ▸ roundBinary64_monotone small.1
  · exact above ▸ roundBinary64_monotone small.2

theorem ofExact_represents {exact : ℚ} (small : |exact| ≤ 2 ^ 1000) :
    Represents (ofExact exact) (roundBinary64 exact) := by
  have finite : |roundBinary64 exact| < 2 ^ 1024 :=
    (abs_roundBinary64_le small).trans_lt (pow_lt_pow_right₀ (by norm_num) (by norm_num))
  exact ⟨_, dif_pos finite, rfl⟩

theorem lift_represents (operation : ℚ → ℚ → ℚ) {a b : Binary64} {p q : ℚ}
    (first : Represents a p) (second : Represents b q) (small : |operation p q| ≤ 2 ^ 1000) :
    Represents (lift operation a b) (roundBinary64 (operation p q)) := by
  rcases first with ⟨a, rfl, rfl⟩
  rcases second with ⟨b, rfl, rfl⟩
  exact ofExact_represents small

instance : RoundedArithmetic Binary64 where
  ofRat := ofExact
  add := lift (· + ·)
  sub := lift (· - ·)
  mul := lift (· * ·)
  div := fun dividend divisor =>
    if divisor.any (·.value = 0) then none else some (lift (· / ·) dividend divisor)
  isZero := fun float => float.any (·.value = 0)
  roundInt := fun float => float.map fun finite => roundHalfEven finite.value
  Represents := Represents
  rnd := roundBinary64
  rnd_monotone := roundBinary64_monotone
  rnd_dyadic := by
    intro numerator scale small scaleSmall
    have fixed := roundBinary64_of_significand numerator small
      (show -1074 ≤ -(scale : ℤ) by omega)
    rwa [zpow_neg, zpow_natCast, ← div_eq_mul_inv] at fixed
  ofRat_represents := ofExact_represents
  add_represents := lift_represents _
  sub_represents := lift_represents _
  mul_represents := lift_represents _
  div_represents := by
    intro a b p q first second nonzero small
    refine ⟨_, if_neg ?_, lift_represents _ first second small⟩
    rcases second with ⟨divisor, rfl, rfl⟩
    simpa using nonzero
  isZero_represents := by
    rintro _ _ ⟨finite, rfl, rfl⟩
    simp
  roundInt_represents := by
    rintro _ _ ⟨finite, rfl, rfl⟩
    rfl

end Binary64

end Foundation
