import AsterxDriver.Foundation.FloatArithmetic
import Mathlib.Data.List.DropRight

/-! # Text and decimal numbers

Characters and numbers as the C++ streams read and print them in the `C`
locale. -/

namespace Foundation

abbrev Text := List Char

def isSpace (char : Char) : Bool :=
  char ∈ [' ', '\t', '\n', '\x0b', '\x0c', '\r']

/-- The parts that repeated calls of `std::getline` extract. There is no empty
part behind a last separator. -/
def getlines (separator : Char) : Text → List Text
  | [] => []
  | first :: later =>
      if first = separator then [] :: getlines separator later
      else
        match getlines separator later with
        | [] => [[first]]
        | part :: parts => (first :: part) :: parts

/-- A sign that may be absent: whether it is negative, and what follows. -/
def takeSign : Text → Bool × Text
  | '-' :: later => (true, later)
  | '+' :: later => (false, later)
  | text => (false, text)

def signed (negative : Bool) (magnitude : ℚ) : ℚ := if negative then -magnitude else magnitude

/-- `operator>>` for an `int` on a text without leading blanks. -/
def extractInt (text : Text) : Option ℤ :=
  let (negative, text) := takeSign text
  let digits := text.takeWhile Char.isDigit
  let magnitude : ℤ := Nat.ofDigitChars 10 digits 0
  let value := if negative then -magnitude else magnitude
  if digits = [] then none
  else if value < -2 ^ 31 ∨ 2 ^ 31 ≤ value then none
  else some value

/-- The exponent of a number, zero if there is none. An `e` without digits is
no number. -/
def extractExponent : Text → Option ℤ
  | [] => some 0
  | first :: later =>
      if first = 'e' ∨ first = 'E' then
        let (negative, text) := takeSign later
        let digits := text.takeWhile Char.isDigit
        let magnitude : ℤ := Nat.ofDigitChars 10 digits 0
        if digits = [] then none else some (if negative then -magnitude else magnitude)
      else some 0

/-- `operator>>` for a `double` on a text without leading blanks. -/
def extractDecimal (text : Text) : Option ℚ :=
  let (negative, text) := takeSign text
  let whole := text.takeWhile Char.isDigit
  let text := text.dropWhile Char.isDigit
  let (fraction, text) :=
    match text with
    | '.' :: later => (later.takeWhile Char.isDigit, later.dropWhile Char.isDigit)
    | _ => ([], text)
  if whole = [] ∧ fraction = [] then none
  else
    (extractExponent text).map fun (exponent : ℤ) =>
      signed negative ((Nat.ofDigitChars 10 (whole ++ fraction) 0 : ℕ) *
        (10 : ℚ) ^ (exponent - (fraction.length : ℤ)))

/-- `count` digits with leading zeros. -/
def paddedDigits (count number : ℕ) : Text :=
  let digits := Nat.toDigits 10 number
  List.replicate (count - digits.length) '0' ++ digits

/-- `std::fixed` with a precision, rounding to nearest. -/
def printFixed (precision : ℕ) (value : ℚ) : Text :=
  let scaled := (roundHalfEven (|value| * 10 ^ precision)).toNat
  (if value < 0 then ['-'] else []) ++ Nat.toDigits 10 (scaled / 10 ^ precision) ++
    if precision = 0 then [] else '.' :: paddedDigits precision (scaled % 10 ^ precision)

/-- What programs do with a `double` that they read and print. -/
class DecimalArithmetic (D : Type) where
  ofRat : ℚ → D
  sub : D → D → D
  fabs : D → D
  less : D → D → Bool
  atMost : D → D → Bool
  printFixed : ℕ → D → Text
  extract : Text → Option D

/-- Without rounding, except in print. -/
instance : DecimalArithmetic ℚ where
  ofRat := id
  sub := (· - ·)
  fabs := (|·|)
  less := fun a b => decide (a < b)
  atMost := fun a b => decide (a ≤ b)
  printFixed := printFixed
  extract := extractDecimal

/-! ## Printed numbers -/

theorem abs_roundHalfEven_sub_le (value : ℚ) : |(roundHalfEven value : ℚ) - value| ≤ 1 / 2 := by
  have below := Int.floor_le value
  have above := Int.lt_floor_add_one value
  rw [abs_le]
  unfold roundHalfEven
  dsimp only
  split_ifs
  · exact ⟨by linarith, by linarith⟩
  · push_cast
    exact ⟨by linarith, by linarith⟩
  · exact ⟨by linarith, by linarith⟩
  · push_cast
    exact ⟨by linarith, by linarith⟩

theorem takeSign_of_isDigit {first : Char} (digit : first.isDigit = true) (later : Text) :
    takeSign (first :: later) = (false, first :: later) := by
  unfold takeSign
  split
  · rename_i same
    cases same
    cases digit
  · rename_i same
    cases same
    cases digit
  · rfl

theorem isDigit_of_mem_paddedDigits {count number : ℕ} {char : Char}
    (member : char ∈ paddedDigits count number) : char.isDigit = true := by
  rcases List.mem_append.mp member with zero | digit
  · rw [List.eq_of_mem_replicate zero]
    rfl
  · exact Nat.isDigit_of_mem_toDigits (by norm_num) (by norm_num) digit

theorem length_paddedDigits {count number : ℕ} (positive : 0 < count)
    (small : number < 10 ^ count) : (paddedDigits count number).length = count := by
  have fits : (Nat.toDigits 10 number).length ≤ count :=
    (Nat.length_toDigits_le_iff (by norm_num) positive).mpr small
  rw [paddedDigits, List.length_append, List.length_replicate]
  omega

theorem printFixed_ne_nil (precision : ℕ) (value : ℚ) : printFixed precision value ≠ [] := by
  simp [printFixed, Nat.toDigits_ne_nil]

theorem mem_printFixed {precision : ℕ} {value : ℚ} {char : Char}
    (member : char ∈ printFixed precision value) :
    char.isDigit = true ∨ char = '-' ∨ char = '.' := by
  rw [printFixed, List.mem_append, List.mem_append] at member
  rcases member with (sign | whole) | fraction
  · split at sign
    · exact Or.inr (Or.inl (List.mem_singleton.mp sign))
    · cases sign
  · exact Or.inl (Nat.isDigit_of_mem_toDigits (by norm_num) (by norm_num) whole)
  · split at fraction
    · cases fraction
    · rcases List.mem_cons.mp fraction with point | digit
      · exact Or.inr (Or.inr point)
      · exact Or.inl (isDigit_of_mem_paddedDigits digit)

/-- The digits around the point are one number. -/
theorem ofDigitChars_around {precision number : ℕ} (positive : 0 < precision) :
    Nat.ofDigitChars 10 (Nat.toDigits 10 (number / 10 ^ precision) ++
      paddedDigits precision (number % 10 ^ precision)) 0 = number := by
  have small : number % 10 ^ precision < 10 ^ precision := Nat.mod_lt _ (by positivity)
  have fraction : Nat.ofDigitChars 10 (paddedDigits precision (number % 10 ^ precision)) 0 =
      number % 10 ^ precision := by
    rw [paddedDigits, Nat.ofDigitChars_append, Nat.ofDigitChars_replicate_zero, Nat.mul_zero,
      Nat.ofDigitChars_ten_toDigits]
  rw [Nat.ofDigitChars_append, Nat.ofDigitChars_ten_toDigits,
    Nat.ofDigitChars_eq_ofDigitChars_zero, fraction, length_paddedDigits positive small]
  exact Nat.div_add_mod number (10 ^ precision)

theorem takeSign_sign (negative : Bool) {digits : Text} (nonempty : digits ≠ [])
    (areDigits : ∀ char ∈ digits, char.isDigit = true) (rest : Text) :
    takeSign ((if negative then ['-'] else []) ++ (digits ++ rest)) =
      (negative, digits ++ rest) := by
  cases negative with
  | true => rfl
  | false =>
      rcases List.exists_cons_of_ne_nil nonempty with ⟨first, later, rfl⟩
      exact takeSign_of_isDigit (areDigits first List.mem_cons_self) _

/-- A sign, digits, a point and digits. -/
theorem extractDecimal_digits (negative : Bool) {whole fraction : Text} (nonempty : whole ≠ [])
    (wholeDigits : ∀ char ∈ whole, char.isDigit = true)
    (fractionDigits : ∀ char ∈ fraction, char.isDigit = true) :
    extractDecimal ((if negative then ['-'] else []) ++ (whole ++ '.' :: fraction)) =
      some (signed negative
        (Nat.ofDigitChars 10 (whole ++ fraction) 0 / 10 ^ fraction.length)) := by
  have taken : (whole ++ '.' :: fraction).takeWhile Char.isDigit = whole := by
    rw [List.takeWhile_append_of_pos wholeDigits, List.takeWhile_cons_of_neg (by decide),
      List.append_nil]
  have dropped : (whole ++ '.' :: fraction).dropWhile Char.isDigit = '.' :: fraction := by
    rw [List.dropWhile_append_of_pos wholeDigits, List.dropWhile_cons_of_neg (by decide)]
  have fractionTaken : fraction.takeWhile Char.isDigit = fraction :=
    List.takeWhile_eq_self_iff.mpr fractionDigits
  have fractionDropped : fraction.dropWhile Char.isDigit = [] :=
    List.dropWhile_eq_nil_iff.mpr fractionDigits
  rw [extractDecimal, takeSign_sign negative nonempty wholeDigits]
  simp only [taken, dropped, fractionTaken, fractionDropped, nonempty, false_and, if_false,
    extractExponent, Option.map_some, zero_sub, zpow_neg, zpow_natCast, div_eq_mul_inv]

/-- What is printed is read as the rounded value. -/
theorem extractDecimal_printFixed {precision : ℕ} (positive : 0 < precision) (value : ℚ) :
    extractDecimal (printFixed precision value) = some (signed (decide (value < 0))
      ((roundHalfEven (|value| * 10 ^ precision)).toNat / 10 ^ precision)) := by
  generalize scaledDef : (roundHalfEven (|value| * 10 ^ precision)).toNat = scaled
  have small : scaled % 10 ^ precision < 10 ^ precision := Nat.mod_lt scaled (by positivity)
  have wholeDigits : ∀ char ∈ Nat.toDigits 10 (scaled / 10 ^ precision),
      char.isDigit = true :=
    fun _ member => Nat.isDigit_of_mem_toDigits (by norm_num) (by norm_num) member
  have fractionDigits : ∀ char ∈ paddedDigits precision (scaled % 10 ^ precision),
      char.isDigit = true :=
    fun _ member => isDigit_of_mem_paddedDigits member
  have printed := extractDecimal_digits (decide (value < 0)) Nat.toDigits_ne_nil wholeDigits
    fractionDigits
  rw [ofDigitChars_around positive, length_paddedDigits positive small] at printed
  rw [printFixed, scaledDef, if_neg positive.ne', List.append_assoc, ← printed]
  simp only [decide_eq_true_eq]

theorem roundHalfEven_nonneg {value : ℚ} (nonneg : 0 ≤ value) : 0 ≤ roundHalfEven value := by
  have near := (abs_le.mp (abs_roundHalfEven_sub_le value)).1
  have above : ((-1 : ℤ) : ℚ) < roundHalfEven value := by
    push_cast
    linarith
  have aboveInt : -1 < roundHalfEven value := Int.cast_lt.mp above
  omega

/-- Rounding moves a number by at most half a unit in the last place. -/
theorem abs_printed_sub_le (precision : ℕ) (value : ℚ) :
    |signed (decide (value < 0))
      ((roundHalfEven (|value| * 10 ^ precision)).toNat / 10 ^ precision) - value| ≤
      1 / 2 / 10 ^ precision := by
  have unit : (0 : ℚ) < 10 ^ precision := by positivity
  have nonneg : 0 ≤ roundHalfEven (|value| * 10 ^ precision) :=
    roundHalfEven_nonneg (by positivity)
  have exactCast : ((roundHalfEven (|value| * 10 ^ precision)).toNat : ℚ) =
      (roundHalfEven (|value| * 10 ^ precision) : ℚ) := by
    rw [← Int.cast_natCast, Int.toNat_of_nonneg nonneg]
  have near := abs_roundHalfEven_sub_le (|value| * 10 ^ precision)
  have scaled : |(roundHalfEven (|value| * 10 ^ precision) : ℚ) / 10 ^ precision - abs value| ≤
      1 / 2 / 10 ^ precision := by
    rw [le_div_iff₀ unit, ← abs_of_pos unit, ← abs_mul, abs_of_pos unit, sub_mul,
      div_mul_cancel₀ _ unit.ne']
    exact near
  rw [exactCast]
  by_cases negative : value < 0
  · rw [abs_of_neg negative] at scaled ⊢
    rw [signed, if_pos (decide_eq_true negative), ← abs_neg]
    convert scaled using 2
    ring
  · rw [abs_of_nonneg (not_lt.mp negative)] at scaled ⊢
    rw [signed, if_neg (by simpa using negative)]
    exact scaled

end Foundation
