import Mathlib.Data.List.Basic

/-! # Numbered names

A number inside a text can be read back when it stands between texts that are
not digits. -/

namespace Foundation.NumberedName

def digits (number : Nat) : List Char := (toString number).toList

theorem isDigit_of_mem_digits (number : Nat) :
    ∀ char ∈ digits number, char.isDigit = true := by
  intro char member
  change char ∈ number.repr.toList at member
  rw [Nat.toList_repr] at member
  exact Nat.isDigit_of_mem_toDigits (by decide) (by decide) member

theorem digits_injective {first second : Nat} (equal : digits first = digits second) :
    first = second := by
  change first.repr.toList = second.repr.toList at equal
  rw [Nat.toList_repr, Nat.toList_repr] at equal
  rw [← Nat.ofDigitChars_toDigits (n := first) (show 1 < 10 by decide) (by decide), equal,
    Nat.ofDigitChars_toDigits (by decide) (by decide)]

theorem takeWhile_mark {front : List Char} (all : ∀ char ∈ front, char.isDigit = true)
    {mark : Char} (other : mark.isDigit = false) (back : List Char) :
    (front ++ mark :: back).takeWhile Char.isDigit = front := by
  rw [List.takeWhile_append_of_pos all, List.takeWhile_cons_of_neg (by simp [other]),
    List.append_nil]

/-- The number in front of a mark. -/
theorem number_before_mark {first second : Nat} {mark : Char}
    (other : mark.isDigit = false) {back back' : List Char}
    (equal : digits first ++ mark :: back = digits second ++ mark :: back') :
    first = second := by
  have cut := fun number => takeWhile_mark (isDigit_of_mem_digits number) other
  apply digits_injective
  rw [← cut first, equal, cut second]

/-- The number behind the last mark. -/
theorem number_after_mark {first second : Nat} {mark : Char}
    (other : mark.isDigit = false) {front front' : List Char}
    (equal : front ++ mark :: digits first = front' ++ mark :: digits second) :
    first = second := by
  have reversed := congrArg List.reverse equal
  simp only [List.reverse_append, List.reverse_cons, List.append_assoc,
    List.singleton_append] at reversed
  have all : ∀ number, ∀ char ∈ (digits number).reverse, char.isDigit = true :=
    fun number char member => isDigit_of_mem_digits number char (List.mem_reverse.mp member)
  have cut := fun number => takeWhile_mark (all number) other
  apply digits_injective
  apply List.reverse_injective
  rw [← cut first, reversed, cut second]

end Foundation.NumberedName
