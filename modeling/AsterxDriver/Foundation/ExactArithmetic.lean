import AsterxDriver.Foundation.Binary64

/-! # Exact arithmetic

The arithmetic of the rationals, which does not round. -/

namespace Foundation

instance exactArithmetic : RoundedArithmetic ℚ where
  ofRat := id
  add := (· + ·)
  sub := (· - ·)
  mul := (· * ·)
  div := fun dividend divisor => if divisor = 0 then none else some (dividend / divisor)
  isZero := fun value => value = 0
  roundInt := fun value => some (roundHalfEven value)
  Represents := Eq
  rnd := id
  rnd_monotone := monotone_id
  rnd_dyadic := fun _ _ _ _ => rfl
  ofRat_represents := fun _ => rfl
  add_represents := by
    rintro a b p q rfl rfl _
    rfl
  sub_represents := by
    rintro a b p q rfl rfl _
    rfl
  mul_represents := by
    rintro a b p q rfl rfl _
    rfl
  div_represents := by
    rintro a b p q rfl rfl nonzero _
    exact ⟨a / b, if_neg nonzero, rfl⟩
  isZero_represents := by
    rintro a p rfl
    exact decide_eq_true_iff
  roundInt_represents := by
    rintro a p rfl
    rfl

end Foundation
