import Mathlib.Algebra.Order.Round
import Mathlib.Data.Rat.Floor
import Mathlib.Tactic.Linarith
import Mathlib.Tactic.Ring
import Mathlib.Tactic.Positivity
import Mathlib.Tactic.NormNum

/-! # Floating-point arithmetic

Programs that compute with floats are written over an arbitrary arithmetic. What
they need to know about it is said with one rounding function: each operation
returns the rounded exact result, as long as that is not huge. -/

namespace Foundation

/-- Division has no result for a divisor that is zero, and only finite values
can be rounded to an integer. -/
class FloatArithmetic (F : Type u) where
  /-- The value nearest to a rational, as for a literal. -/
  ofRat : ℚ → F
  add : F → F → F
  sub : F → F → F
  mul : F → F → F
  div : F → F → Option F
  isZero : F → Bool
  roundInt : F → Option ℤ

/-- The nearest integer, the even one of two that are equally near. -/
def roundHalfEven (value : ℚ) : ℤ :=
  let below := ⌊value⌋
  if value - below < 1 / 2 then below
  else if 1 / 2 < value - below then below + 1
  else if below % 2 = 0 then below
  else below + 1

/-- A float arithmetic that rounds exact results. Integers of 53 bits over a
power of two are among its values. -/
class RoundedArithmetic (F : Type u) extends FloatArithmetic F where
  /-- The float is finite and has this value. -/
  Represents : F → ℚ → Prop
  rnd : ℚ → ℚ
  rnd_monotone : Monotone rnd
  rnd_dyadic : ∀ (numerator : ℤ) (scale : ℕ), |numerator| ≤ 2 ^ 53 → scale ≤ 1000 →
    rnd (numerator / 2 ^ scale) = numerator / 2 ^ scale
  ofRat_represents : ∀ {value}, |value| ≤ 2 ^ 1000 → Represents (ofRat value) (rnd value)
  add_represents : ∀ {a b p q}, Represents a p → Represents b q → |p + q| ≤ 2 ^ 1000 →
    Represents (add a b) (rnd (p + q))
  sub_represents : ∀ {a b p q}, Represents a p → Represents b q → |p - q| ≤ 2 ^ 1000 →
    Represents (sub a b) (rnd (p - q))
  mul_represents : ∀ {a b p q}, Represents a p → Represents b q → |p * q| ≤ 2 ^ 1000 →
    Represents (mul a b) (rnd (p * q))
  div_represents : ∀ {a b p q}, Represents a p → Represents b q → q ≠ 0 →
    |p / q| ≤ 2 ^ 1000 → ∃ c, div a b = some c ∧ Represents c (rnd (p / q))
  isZero_represents : ∀ {a p}, Represents a p → (isZero a = true ↔ p = 0)
  roundInt_represents : ∀ {a p}, Represents a p → roundInt a = some (roundHalfEven p)

namespace RoundedArithmetic

variable {F : Type u} [RoundedArithmetic F]

open FloatArithmetic

theorem rnd_int {integer : ℤ} (small : |integer| ≤ 2 ^ 53) :
    rnd F (integer : ℚ) = integer := by
  simpa using rnd_dyadic (F := F) integer 0 small (by omega)

/-- Rounding does not leave an interval between small integers. -/
theorem abs_rnd_le {value : ℚ} {bound : ℕ} (small : bound ≤ 2 ^ 53)
    (within : |value| ≤ bound) : |rnd F value| ≤ bound := by
  have below : rnd F (-(bound : ℤ) : ℤ) = (-(bound : ℤ) : ℤ) :=
    rnd_int (by rw [abs_neg, Nat.abs_cast]; exact_mod_cast small)
  have above : rnd F ((bound : ℤ) : ℚ) = (bound : ℤ) :=
    rnd_int (by rw [Nat.abs_cast]; exact_mod_cast small)
  push_cast at below above
  rw [abs_le] at within ⊢
  exact ⟨below ▸ rnd_monotone within.1, above ▸ rnd_monotone within.2⟩

theorem le_huge {bound : ℕ} (small : bound ≤ 2 ^ 53) : (bound : ℚ) ≤ 2 ^ 1000 := by
  calc (bound : ℚ) ≤ 2 ^ 53 := by exact_mod_cast small
    _ ≤ 2 ^ 1000 := pow_le_pow_right₀ (by norm_num) (by norm_num)

/-- The float is finite and not larger than `bound`. -/
def Within (float : F) (bound : ℕ) : Prop :=
  ∃ value, Represents float value ∧ |value| ≤ bound

/-- The result of an operation whose exact result is bounded. -/
theorem within_of_represents {float : F} {exact : ℚ} {bound : ℕ} (small : bound ≤ 2 ^ 53)
    (within : |exact| ≤ bound)
    (represents : |exact| ≤ 2 ^ 1000 → Represents float (rnd F exact)) :
    Within float bound :=
  ⟨rnd F exact, represents (within.trans (le_huge small)), abs_rnd_le small within⟩

theorem Within.mono {float : F} {bound larger : ℕ} (within : Within float bound)
    (le : bound ≤ larger) : Within float larger := by
  rcases within with ⟨value, represents, bounded⟩
  exact ⟨value, represents, bounded.trans (by exact_mod_cast le)⟩

theorem within_ofRat {value : ℚ} {bound : ℕ} (within : |value| ≤ bound)
    (small : bound ≤ 2 ^ 53) : Within (ofRat value : F) bound :=
  within_of_represents small within ofRat_represents

variable {a b : F} {m n : ℕ}

theorem Within.add (first : Within a m) (second : Within b n) (small : m + n ≤ 2 ^ 53) :
    Within (add a b) (m + n) := by
  rcases first with ⟨p, firstValue, firstBound⟩
  rcases second with ⟨q, secondValue, secondBound⟩
  refine within_of_represents small ?_ (add_represents firstValue secondValue)
  push_cast
  exact (abs_add_le p q).trans (add_le_add firstBound secondBound)

theorem Within.sub (first : Within a m) (second : Within b n) (small : m + n ≤ 2 ^ 53) :
    Within (sub a b) (m + n) := by
  rcases first with ⟨p, firstValue, firstBound⟩
  rcases second with ⟨q, secondValue, secondBound⟩
  refine within_of_represents small ?_ (sub_represents firstValue secondValue)
  push_cast
  exact (abs_sub p q).trans (add_le_add firstBound secondBound)

theorem Within.mul (first : Within a m) (second : Within b n) (small : m * n ≤ 2 ^ 53) :
    Within (mul a b) (m * n) := by
  rcases first with ⟨p, firstValue, firstBound⟩
  rcases second with ⟨q, secondValue, secondBound⟩
  refine within_of_represents small ?_ (mul_represents firstValue secondValue)
  rw [abs_mul]
  push_cast
  exact mul_le_mul firstBound secondBound (abs_nonneg q) (Nat.cast_nonneg m)

/-- Dividing by a float that is not close to zero. -/
theorem Within.div (first : Within a m) {q : ℚ} (second : Represents b q) {scale : ℕ}
    (away : 1 / 2 ^ scale ≤ q) (small : m * 2 ^ scale ≤ 2 ^ 53) :
    ∃ c, FloatArithmetic.div a b = some c ∧ Within c (m * 2 ^ scale) := by
  rcases first with ⟨p, firstValue, firstBound⟩
  have positive : (0 : ℚ) < 1 / 2 ^ scale := by positivity
  have divisor : 0 < q := positive.trans_le away
  have within : |p / q| ≤ (m * 2 ^ scale : ℕ) := by
    rw [abs_div, abs_of_pos divisor, div_le_iff₀ divisor]
    push_cast
    calc |p| ≤ m := firstBound
      _ = m * 2 ^ scale * (1 / 2 ^ scale) := by field_simp
      _ ≤ m * 2 ^ scale * q := mul_le_mul_of_nonneg_left away (by positivity)
  rcases div_represents firstValue second divisor.ne' (within.trans (le_huge small)) with
    ⟨c, result, represents⟩
  exact ⟨c, result, _, represents, abs_rnd_le small within⟩

/-! ## Small integers are exact -/

theorem abs_int_le_huge {integer : ℤ} (small : |integer| ≤ 2 ^ 53) :
    |(integer : ℚ)| ≤ 2 ^ 1000 := by
  rw [← Int.cast_abs]
  calc ((|integer| : ℤ) : ℚ) ≤ 2 ^ 53 := by exact_mod_cast small
    _ ≤ 2 ^ 1000 := pow_le_pow_right₀ (by norm_num) (by norm_num)

theorem represents_int {integer : ℤ} (small : |integer| ≤ 2 ^ 53) :
    Represents (ofRat (integer : ℚ) : F) integer := by
  have exact := ofRat_represents (F := F) (abs_int_le_huge small)
  rwa [rnd_int small] at exact

theorem Represents.add_int {x y : ℤ} (first : Represents a x) (second : Represents b y)
    (small : |x + y| ≤ 2 ^ 53) :
    Represents (FloatArithmetic.add a b) ((x + y : ℤ) : ℚ) := by
  have exact := add_represents first second
  rw [← Int.cast_add, rnd_int small] at exact
  exact exact (abs_int_le_huge small)

theorem Represents.mul_int {x y : ℤ} (first : Represents a x) (second : Represents b y)
    (small : |x * y| ≤ 2 ^ 53) :
    Represents (FloatArithmetic.mul a b) ((x * y : ℤ) : ℚ) := by
  have exact := mul_represents first second
  rw [← Int.cast_mul, rnd_int small] at exact
  exact exact (abs_int_le_huge small)

/-- Dividing small integers, with the quotient between two dyadic fractions. -/
theorem div_int_between (low scale high : ℕ) {x y : ℤ} (first : Represents a x)
    (second : Represents b y) (positive : 0 < y) (scaleSmall : scale ≤ 1000)
    (lowSmall : low ≤ 2 ^ 53) (highSmall : high ≤ 2 ^ 53) (above : low * y ≤ x * 2 ^ scale)
    (below : x ≤ high * y) :
    ∃ c q, FloatArithmetic.div a b = some c ∧ Represents c q ∧
      (low : ℚ) / 2 ^ scale ≤ q ∧ q ≤ high := by
  have divisor : (0 : ℚ) < y := by exact_mod_cast positive
  have lower : ((low : ℤ) : ℚ) / 2 ^ scale ≤ x / y := by
    rw [div_le_div_iff₀ (by positivity) divisor]
    exact_mod_cast above
  have upper : (x : ℚ) / y ≤ ((high : ℤ) : ℚ) := by
    rw [div_le_iff₀ divisor]
    exact_mod_cast below
  have nonneg : (0 : ℚ) ≤ x / y := le_trans (by positivity) lower
  have within : |(x : ℚ) / y| ≤ 2 ^ 1000 := by
    rw [abs_of_nonneg nonneg]
    exact upper.trans (by simpa using le_huge highSmall)
  rcases div_represents first second divisor.ne' within with ⟨c, result, represents⟩
  have lowFixed := rnd_dyadic (F := F) (low : ℤ) scale
    (by rw [Nat.abs_cast]; exact_mod_cast lowSmall) scaleSmall
  have highFixed : rnd F ((high : ℤ) : ℚ) = (high : ℤ) :=
    rnd_int (by rw [Nat.abs_cast]; exact_mod_cast highSmall)
  refine ⟨c, _, result, represents, ?_, ?_⟩
  · have := rnd_monotone (F := F) lower
    rwa [lowFixed] at this
  · have := rnd_monotone (F := F) upper
    rwa [highFixed] at this

theorem Within.roundInt (within : Within a m) : ∃ integer, roundInt a = some integer := by
  rcases within with ⟨value, represents, _⟩
  exact ⟨_, roundInt_represents represents⟩

end RoundedArithmetic

end Foundation
