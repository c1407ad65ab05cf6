import Mathlib.Data.BitVec
import Mathlib.Logic.Function.Iterate

/-! # Linear feedback shift registers

Division of a bit stream by a polynomial, most significant bit first. The
register update is linear over exclusive or, so the part of a register that is
shifted out can be treated separately from the part that only moves. -/

namespace Foundation.ShiftRegister

variable {width : Nat} (polynomial : BitVec width)

/-- One shift. The bit that leaves at the top selects the feedback. -/
def step (register : BitVec width) : BitVec width :=
  if register.msb then (register <<< 1) ^^^ polynomial else register <<< 1

theorem step_xor (left right : BitVec width) :
    step polynomial (left ^^^ right) =
      step polynomial left ^^^ step polynomial right := by
  have cancel : ∀ first second : BitVec width,
      (first ^^^ polynomial) ^^^ (second ^^^ polynomial) = first ^^^ second := by
    intro first second
    rw [BitVec.xor_assoc, BitVec.xor_comm polynomial, BitVec.xor_assoc second,
      BitVec.xor_self, BitVec.xor_zero]
  simp only [step, BitVec.msb_xor, BitVec.shiftLeft_xor_distrib]
  cases left.msb <;> cases right.msb <;>
    simp [cancel, BitVec.xor_assoc, BitVec.xor_comm polynomial]

theorem iterate_step_xor (count : Nat) (left right : BitVec width) :
    (step polynomial)^[count] (left ^^^ right) =
      (step polynomial)^[count] left ^^^ (step polynomial)^[count] right := by
  induction count generalizing left right with
  | zero => rfl
  | succ count induction =>
      simp only [Function.iterate_succ_apply, step_xor, induction]

/-- Shifts that only move zero bits out of the top never meet the feedback. -/
theorem iterate_step_of_clear (count : Nat) (register : BitVec width)
    (clear : ∀ index, width ≤ index + count → register.getLsbD index = false) :
    (step polynomial)^[count] register = register <<< count := by
  induction count generalizing register with
  | zero => simp
  | succ count induction =>
      have top : register.msb = false := by
        rw [BitVec.msb_eq_getLsbD_last]
        exact clear (width - 1) (by omega)
      have moved : step polynomial register = register <<< 1 := by
        simp [step, top]
      rw [Function.iterate_succ_apply, moved, induction]
      · rw [← BitVec.shiftLeft_add, Nat.add_comm]
      · intro index large
        rw [BitVec.getLsbD_shiftLeft]
        by_cases zero : index < 1
        · simp [zero]
        · simp [clear (index - 1) (by omega)]

theorem getLsbD_shiftLeft_one {register : BitVec width} {index : Nat}
    (inside : index + 1 < width) :
    (register <<< 1).getLsbD (index + 1) = register.getLsbD index := by
  rw [BitVec.getLsbD_shiftLeft, decide_eq_true inside, decide_eq_false (by omega),
    Nat.add_sub_cancel, Bool.not_false, Bool.true_and, Bool.true_and]

/-! ## Bits shifted in -/

/-- A message bit where it meets the feedback. -/
def topBit (width : Nat) (bit : Bool) : BitVec width :=
  if bit then BitVec.twoPow width (width - 1) else 0#(width)

def shiftIn (register : BitVec width) (bit : Bool) : BitVec width :=
  step polynomial (register ^^^ topBit width bit)

/-- What is in the register behind a message. -/
def remainder (register : BitVec width) (bits : List Bool) : BitVec width :=
  bits.foldl (shiftIn polynomial) register

theorem topBit_xor (left right : Bool) :
    topBit width (left ^^ right) = topBit width left ^^^ topBit width right := by
  cases left <;> cases right <;> simp [topBit]

theorem getLsbD_topBit (bit : Bool) {index : Nat} (low : index + 1 < width) :
    (topBit width bit).getLsbD index = false := by
  cases bit with
  | false => simp [topBit]
  | true =>
      rw [topBit, if_pos rfl, BitVec.getLsbD_twoPow]
      simp [show width - 1 ≠ index by omega]

theorem msb_topBit (nonempty : 0 < width) (bit : Bool) : (topBit width bit).msb = bit := by
  cases bit with
  | false => simp [topBit]
  | true => simp [topBit, BitVec.msb_twoPow, show width - 1 < width by omega]

theorem topBit_shiftLeft (bit : Bool) : topBit width bit <<< 1 = 0#(width) := by
  apply BitVec.eq_of_getLsbD_eq
  intro index bound
  rw [BitVec.getLsbD_shiftLeft, BitVec.getLsbD_zero]
  by_cases zero : index < 1
  · simp [zero]
  · simp [getLsbD_topBit bit (show index - 1 + 1 < width by omega)]

/-- A register without its top bit only moves. -/
theorem step_xor_topBit (register : BitVec width) :
    step polynomial (register ^^^ topBit width register.msb) = register <<< 1 := by
  have cleared : (register ^^^ topBit width register.msb).msb = false := by
    rw [BitVec.msb_xor]
    cases top : register.msb with
    | false => simp [topBit]
    | true =>
        have nonempty : 0 < width := by
          by_contra none
          rw [BitVec.msb_eq_getLsbD_last, BitVec.getLsbD_of_ge _ _ (by omega)] at top
          cases top
        rw [msb_topBit nonempty, Bool.xor_self]
  rw [step, cleared, if_neg Bool.false_ne_true, BitVec.shiftLeft_xor_distrib, topBit_shiftLeft,
    BitVec.xor_zero]

theorem shiftIn_xor (left right : BitVec width) (leftBit rightBit : Bool) :
    shiftIn polynomial (left ^^^ right) (leftBit ^^ rightBit) =
      shiftIn polynomial left leftBit ^^^ shiftIn polynomial right rightBit := by
  rw [shiftIn, shiftIn, shiftIn, ← step_xor, topBit_xor]
  congr 1
  ac_rfl

/-- The remainder of a difference is the difference of the remainders. -/
theorem remainder_xor {leftBits rightBits : List Bool}
    (sameLength : leftBits.length = rightBits.length) (left right : BitVec width) :
    remainder polynomial (left ^^^ right) (leftBits.zipWith (· ^^ ·) rightBits) =
      remainder polynomial left leftBits ^^^ remainder polynomial right rightBits := by
  induction leftBits generalizing rightBits left right with
  | nil =>
      rw [List.eq_nil_of_length_eq_zero sameLength.symm]
      rfl
  | cons leftBit leftBits induction =>
      cases rightBits with
      | nil => cases sameLength
      | cons rightBit rightBits =>
          rw [List.zipWith_cons_cons]
          simp only [remainder, List.foldl_cons, shiftIn_xor]
          exact induction (Nat.succ.inj sameLength) _ _

/-- The message may as well be added to the register at once. -/
theorem remainder_of_clear (count : Nat) (register message : BitVec width)
    (clear : ∀ index, index + count < width → message.getLsbD index = false) :
    remainder polynomial register ((List.range count).map message.getMsbD) =
      (step polynomial)^[count] (register ^^^ message) := by
  induction count generalizing register message with
  | zero =>
      have empty : message = 0#(width) := by
        apply BitVec.eq_of_getLsbD_eq
        intro index bound
        rw [clear index bound, BitVec.getLsbD_zero]
      rw [empty, BitVec.xor_zero]
      rfl
  | succ count induction =>
      have split : register ^^^ message =
          (register ^^^ topBit width message.msb) ^^^ (message ^^^ topBit width message.msb) := by
        rw [BitVec.xor_assoc, BitVec.xor_comm message, ← BitVec.xor_assoc (topBit width _),
          BitVec.xor_self, BitVec.zero_xor]
      have first : step polynomial (register ^^^ message) =
          shiftIn polynomial register message.msb ^^^ message <<< 1 := by
        rw [split, step_xor, step_xor_topBit, shiftIn]
      have bits : (List.range (count + 1)).map message.getMsbD =
          message.msb :: (List.range count).map (message <<< 1).getMsbD := by
        rw [List.range_succ_eq_map, List.map_cons, List.map_map, BitVec.msb_eq_getMsbD_zero]
        congr 1
        apply List.map_congr_left
        intro index _
        rw [BitVec.getMsbD_shiftLeft]
        rfl
      rw [bits, Function.iterate_succ_apply, first]
      apply induction
      intro index low
      rw [BitVec.getLsbD_shiftLeft]
      by_cases zero : index < 1
      · simp [zero]
      · simp [clear (index - 1) (by omega)]

/-! ## Bursts

With a polynomial that has a constant term no shift loses anything, so a
difference of two messages is only lost when later bits of the difference undo
it. The bits of a window as wide as the register cannot do that. -/

theorem clear_of_getElem? {bits : List Bool} (never : ∀ index : Nat, bits[index]? ≠ some true) :
    ∀ bit ∈ bits, bit = false := by
  intro bit member
  rcases List.mem_iff_getElem?.mp member with ⟨index, found⟩
  cases bit with
  | false => rfl
  | true => exact absurd found (never index)

theorem zipWith_xor_of_eq {left right : List Bool} {index : Nat}
    (same : left[index]? = right[index]?) :
    (left.zipWith (· ^^ ·) right)[index]? ≠ some true := by
  rw [List.getElem?_zipWith, same]
  cases right[index]? with
  | none => simp
  | some bit => simp

theorem eq_of_zipWith_xor_clear {left right : List Bool}
    (sameLength : left.length = right.length)
    (clear : ∀ bit ∈ left.zipWith (· ^^ ·) right, bit = false) : left = right := by
  induction left generalizing right with
  | nil => exact (List.eq_nil_of_length_eq_zero sameLength.symm).symm
  | cons leftBit left induction =>
      cases right with
      | nil => cases sameLength
      | cons rightBit right =>
          rw [List.zipWith_cons_cons, List.forall_mem_cons] at clear
          have first : leftBit = rightBit := by
            have equal := clear.1
            cases leftBit <;> cases rightBit <;> simp_all
          rw [first, induction (Nat.succ.inj sameLength) clear.2]

section

variable {polynomial} (constant : polynomial.getLsbD 0 = true)

include constant

theorem step_eq_zero_iff {register : BitVec width} :
    step polynomial register = 0#(width) ↔ register = 0#(width) := by
  constructor
  · intro zero
    have nonempty : 0 < width := by
      by_contra none
      rw [BitVec.getLsbD_of_ge _ _ (by omega)] at constant
      cases constant
    have top : register.msb = false := by
      cases top : register.msb with
      | false => rfl
      | true =>
          have lowest := congrArg (BitVec.getLsbD · 0) zero
          simp [step, top, constant] at lowest
    rw [step, top, if_neg Bool.false_ne_true] at zero
    apply BitVec.eq_of_getLsbD_eq
    intro index bound
    rw [BitVec.getLsbD_zero]
    by_cases last : index = width - 1
    · rw [last, ← BitVec.msb_eq_getLsbD_last, top]
    · rw [← getLsbD_shiftLeft_one (show index + 1 < width by omega), zero, BitVec.getLsbD_zero]
  · intro zero
    rw [zero]
    simp [step]

theorem remainder_eq_zero_iff_of_clear {bits : List Bool} (clear : ∀ bit ∈ bits, bit = false)
    {register : BitVec width} :
    remainder polynomial register bits = 0#(width) ↔ register = 0#(width) := by
  induction bits generalizing register with
  | nil => rfl
  | cons bit bits induction =>
      rcases List.forall_mem_cons.mp clear with ⟨rfl, laterClear⟩
      rw [remainder, List.foldl_cons, ← remainder, induction laterClear, shiftIn, topBit,
        if_neg Bool.false_ne_true, BitVec.xor_zero, step_eq_zero_iff constant]

/-- What a few more bits can turn into zero lies at the top of the register. -/
theorem getLsbD_eq_false_of_remainder {bits : List Bool} {register : BitVec width}
    (short : bits.length ≤ width) (zero : remainder polynomial register bits = 0#(width))
    {index : Nat} (low : index + bits.length < width) : register.getLsbD index = false := by
  induction bits generalizing register index with
  | nil =>
      have empty : register = 0#(width) := zero
      rw [empty, BitVec.getLsbD_zero]
  | cons bit bits induction =>
      rw [List.length_cons] at short low
      have later {position : Nat} (below : position + bits.length < width) :
          (shiftIn polynomial register bit).getLsbD position = false :=
        induction (by omega) zero below
      -- The feedback would set the lowest bit, and the later bits leave that alone.
      have top : (register ^^^ topBit width bit).msb = false := by
        cases top : (register ^^^ topBit width bit).msb with
        | false => rfl
        | true =>
            have lowest := later (show 0 + bits.length < width by omega)
            rw [shiftIn, step, top, if_pos rfl] at lowest
            simp [constant] at lowest
      have moved := later (show index + 1 + bits.length < width by omega)
      rwa [shiftIn, step, top, if_neg Bool.false_ne_true, getLsbD_shiftLeft_one (by omega),
        BitVec.getLsbD_xor, getLsbD_topBit bit (by omega), Bool.xor_false] at moved

/-- A message that fits into the register leaves no remainder only if it is clear. -/
theorem clear_of_remainder_eq_zero {bits : List Bool} (short : bits.length ≤ width)
    (zero : remainder polynomial 0#(width) bits = 0#(width)) : ∀ bit ∈ bits, bit = false := by
  induction bits with
  | nil => simp
  | cons bit bits induction =>
      rw [List.length_cons] at short
      rw [remainder, List.foldl_cons, ← remainder] at zero
      cases bit with
      | false =>
          have still : shiftIn polynomial 0#(width) false = 0#(width) := by
            simp [shiftIn, topBit, step]
          rw [still] at zero
          exact List.forall_mem_cons.mpr ⟨rfl, induction (by omega) zero⟩
      | true =>
          have fed : shiftIn polynomial 0#(width) true = polynomial := by
            rw [shiftIn, BitVec.zero_xor, step, msb_topBit (by omega), if_pos rfl,
              topBit_shiftLeft, BitVec.zero_xor]
          rw [fed] at zero
          have lowest := getLsbD_eq_false_of_remainder constant (by omega) zero
            (show 0 + bits.length < width by omega)
          rw [constant] at lowest
          cases lowest

/-- Two messages that differ only inside a window as wide as the register leave
different remainders. -/
theorem remainder_ne_of_window {left right : List Bool}
    (sameLength : left.length = right.length) (different : left ≠ right) {start : Nat}
    (window : ∀ index, left[index]? ≠ right[index]? → start ≤ index ∧ index < start + width)
    (register : BitVec width) :
    remainder polynomial register left ≠ remainder polynomial register right := by
  intro equal
  let errors := left.zipWith (· ^^ ·) right
  have outside {index : Nat} (away : index < start ∨ start + width ≤ index) :
      errors[index]? ≠ some true := by
    apply zipWith_xor_of_eq
    by_contra differs
    have inside := window index differs
    omega
  have before : ∀ bit ∈ errors.take start, bit = false := by
    apply clear_of_getElem?
    intro index found
    rw [List.getElem?_take] at found
    split at found
    · exact outside (.inl ‹_›) found
    · cases found
  have behind : ∀ bit ∈ errors.drop (start + width), bit = false := by
    apply clear_of_getElem?
    intro index
    rw [List.getElem?_drop]
    exact outside (.inr (Nat.le_add_right _ _))
  have cut : errors = errors.take start ++
      ((errors.drop start).take width ++ errors.drop (start + width)) := by
    rw [← List.drop_drop, List.take_append_drop, List.take_append_drop]
  have zero := remainder_xor polynomial sameLength register register
  rw [BitVec.xor_self, equal, BitVec.xor_self] at zero
  change remainder polynomial 0#(width) errors = 0#(width) at zero
  rw [cut, remainder, List.foldl_append, List.foldl_append] at zero
  have untouched : (errors.take start).foldl (shiftIn polynomial) 0#(width) = 0#(width) :=
    (remainder_eq_zero_iff_of_clear constant before).mpr rfl
  rw [untouched] at zero
  have middle := (remainder_eq_zero_iff_of_clear constant behind).mp zero
  have inside := clear_of_remainder_eq_zero constant (List.length_take_le _ _) middle
  apply different
  apply eq_of_zipWith_xor_clear sameLength
  intro bit member
  have member : bit ∈ errors := member
  rw [cut, List.mem_append, List.mem_append] at member
  rcases member with first | second | third
  · exact before bit first
  · exact inside bit second
  · exact behind bit third

end

end Foundation.ShiftRegister
