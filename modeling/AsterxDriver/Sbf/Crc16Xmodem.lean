import AsterxDriver.Foundation.ByteString
import AsterxDriver.Foundation.ShiftRegister
import Mathlib.Data.List.Range

/-! # CRC-16/XMODEM

`crc16_xmodem.hpp`: a 256-entry table built at compile time and one table
lookup per byte. -/

namespace AsterxDriver.Sbf

open Foundation

def polynomial : BitVec 16 := 0x1021

/-- One round of the table construction. The promotion of `c << 1` to `int` is
undone by the cast back to sixteen bits. -/
def crcTableRound (c : BitVec 16) : BitVec 16 :=
  if c &&& 0x8000#16 ≠ 0#16 then (c <<< 1) ^^^ polynomial else c <<< 1

def makeCrcTable : List (BitVec 16) :=
  (List.range 256).map fun i => crcTableRound^[8] (BitVec.ofNat 16 i <<< 8)

def crcTableIndex (crc : BitVec 16) (byte : Byte) : Nat :=
  ((crc >>> 8) ^^^ byte.setWidth 16).toNat

def crcTableStep (crc : BitVec 16) (byte : Byte) : BitVec 16 :=
  (crc <<< 8) ^^^ makeCrcTable.getD (crcTableIndex crc byte) 0

def crcCcittXmodem (data : List Byte) : BitVec 16 :=
  data.foldl crcTableStep 0

theorem and_8000_ne_zero_iff (c : BitVec 16) :
    c &&& 0x8000#16 ≠ 0#16 ↔ c.msb = true := by
  have masked : c &&& 0x8000#16 = if c.msb then 0x8000#16 else 0#16 := by
    apply BitVec.eq_of_getLsbD_eq
    intro index bound
    have top : (0x8000#16).getLsbD index = decide (index = 15) := by
      rw [BitVec.getLsbD_ofNat, show 0x8000 = 2 ^ 15 by rfl, Nat.testBit_two_pow]
      simp only [bound, decide_true, Bool.true_and, eq_comm]
    rw [BitVec.getLsbD_and, top, BitVec.msb_eq_getLsbD_last]
    by_cases last : index = 15
    · subst last
      cases c.getLsbD 15 <;> simp
    · cases c.getLsbD (16 - 1) <;> simp [last, top]
  rw [masked]
  cases c.msb <;> simp

/-- A table round is one shift of the register for this polynomial. -/
theorem crcTableRound_eq_step (c : BitVec 16) :
    crcTableRound c = ShiftRegister.step polynomial c := by
  unfold crcTableRound ShiftRegister.step
  simp only [and_8000_ne_zero_iff]

theorem crcTableIndex_lt (crc : BitVec 16) (byte : Byte) :
    crcTableIndex crc byte < 256 := by
  unfold crcTableIndex
  rw [BitVec.toNat_xor]
  apply Nat.xor_lt_two_pow (n := 8)
  · rw [BitVec.toNat_ushiftRight, Nat.shiftRight_eq_div_pow]
    have bound := crc.isLt
    omega
  · rw [BitVec.toNat_setWidth]
    have bound := byte.isLt
    omega

theorem makeCrcTable_getD (index : Nat) (bound : index < 256) :
    makeCrcTable.getD index 0 =
      (ShiftRegister.step polynomial)^[8] (BitVec.ofNat 16 index <<< 8) := by
  have rounds : crcTableRound = ShiftRegister.step polynomial :=
    funext crcTableRound_eq_step
  simp [makeCrcTable, rounds, List.getD_eq_getElem?_getD, bound]

theorem getLsbD_lowByte (index : Nat) :
    (0xFF#16).getLsbD index = decide (index < 8) := by
  rw [BitVec.getLsbD_ofNat, show 0xFF = 2 ^ 8 - 1 by rfl, Nat.testBit_two_pow_sub_one]
  by_cases small : index < 8
  · simp [small, show index < 16 by omega]
  · simp [small]

/-- Splitting a register into its high and its low byte. -/
theorem high_xor_low (register : BitVec 16) :
    ((register >>> 8) <<< 8) ^^^ (register &&& 0xFF#16) = register := by
  apply BitVec.eq_of_getLsbD_eq
  intro index bound
  simp only [BitVec.getLsbD_xor, BitVec.getLsbD_and, BitVec.getLsbD_shiftLeft,
    BitVec.getLsbD_ushiftRight, getLsbD_lowByte]
  by_cases small : index < 8
  · simp [small]
  · simp [small, bound, show 8 + (index - 8) = index by omega]

theorem lowByte_shiftLeft (register : BitVec 16) :
    (register &&& 0xFF#16) <<< 8 = register <<< 8 := by
  apply BitVec.eq_of_getLsbD_eq
  intro index bound
  simp only [BitVec.getLsbD_shiftLeft, BitVec.getLsbD_and, getLsbD_lowByte]
  simp [show index - 8 < 8 by omega]

/-- The table lookup is eight shifts of the register with the byte added at its
top. -/
theorem crcTableStep_eq_iterate (crc : BitVec 16) (byte : Byte) :
    crcTableStep crc byte =
      (ShiftRegister.step polynomial)^[8] (crc ^^^ (byte.setWidth 16 <<< 8)) := by
  have indexBits : BitVec.ofNat 16 (crcTableIndex crc byte) =
      (crc >>> 8) ^^^ byte.setWidth 16 := by
    rw [crcTableIndex, BitVec.ofNat_toNat, BitVec.setWidth_eq]
  have split : crc ^^^ (byte.setWidth 16 <<< 8) =
      (((crc >>> 8) ^^^ byte.setWidth 16) <<< 8) ^^^ (crc &&& 0xFF#16) := by
    conv_lhs => rw [← high_xor_low crc]
    rw [BitVec.shiftLeft_xor_distrib, BitVec.xor_assoc, BitVec.xor_assoc,
      BitVec.xor_comm (crc &&& 0xFF#16)]
  have moved : (ShiftRegister.step polynomial)^[8] (crc &&& 0xFF#16) = crc <<< 8 := by
    rw [ShiftRegister.iterate_step_of_clear, lowByte_shiftLeft]
    intro index large
    simp [getLsbD_lowByte, show ¬ index < 8 by omega]
  rw [crcTableStep, makeCrcTable_getD _ (crcTableIndex_lt crc byte), indexBits,
    split, ShiftRegister.iterate_step_xor, moved, BitVec.xor_comm]

/-! ## In the width of `int`

The operands of `<<`, `>>`, `&` and `^` are promoted to `int`, and each result is
cast back to sixteen bits. -/

def crcTableRoundInt (c : BitVec 16) : BitVec 16 :=
  if c.setWidth 32 &&& 0x8000#32 ≠ 0#32 then
    ((c.setWidth 32 <<< 1) ^^^ 0x1021#32).setWidth 16
  else (c.setWidth 32 <<< 1).setWidth 16

/-- The index `i` of the outer loop is a `size_t`. -/
def makeCrcTableInt : List (BitVec 16) :=
  (List.range 256).map fun i =>
    crcTableRoundInt^[8] ((BitVec.ofNat 64 i <<< 8).setWidth 16)

def crcTableIndexInt (crc : BitVec 16) (byte : Byte) : Nat :=
  ((crc.setWidth 32 >>> 8) ^^^ byte.setWidth 32).toNat

def crcTableStepInt (crc : BitVec 16) (byte : Byte) : BitVec 16 :=
  ((crc.setWidth 32 <<< 8) ^^^
    (makeCrcTableInt.getD (crcTableIndexInt crc byte) 0).setWidth 32).setWidth 16

def crcCcittXmodemInt (data : List Byte) : BitVec 16 :=
  data.foldl crcTableStepInt 0

theorem setWidth_and_8000_ne_zero_iff (c : BitVec 16) :
    c.setWidth 32 &&& 0x8000#32 ≠ 0#32 ↔ c &&& 0x8000#16 ≠ 0#16 := by
  have bound := c.isLt
  have widened : (c.setWidth 32).toNat = c.toNat := by
    rw [BitVec.toNat_setWidth, Nat.mod_eq_of_lt (by omega)]
  rw [Ne, Ne, ← BitVec.toNat_inj, ← BitVec.toNat_inj, BitVec.toNat_and, BitVec.toNat_and,
    widened]
  rfl

/-- A left shift in the wider type, cast back, is the shift in sixteen bits. -/
theorem setWidth_shiftLeft_setWidth (c : BitVec 16) {width : Nat} (wide : 16 ≤ width)
    (count : Nat) : (c.setWidth width <<< count).setWidth 16 = c <<< count := by
  apply BitVec.eq_of_getLsbD_eq
  intro index bound
  rw [BitVec.getLsbD_setWidth, BitVec.getLsbD_shiftLeft, BitVec.getLsbD_shiftLeft,
    BitVec.getLsbD_setWidth]
  simp [bound, show index < width by omega, show index - count < width by omega]

theorem setWidth_setWidth (c : BitVec 16) : (c.setWidth 32).setWidth 16 = c := by
  rw [BitVec.setWidth_setWidth_of_le c (by decide), BitVec.setWidth_eq]

theorem crcTableRoundInt_eq (c : BitVec 16) : crcTableRoundInt c = crcTableRound c := by
  have cast : (0x1021#32).setWidth 16 = polynomial := rfl
  unfold crcTableRoundInt crcTableRound
  simp only [setWidth_and_8000_ne_zero_iff]
  rw [BitVec.setWidth_xor, setWidth_shiftLeft_setWidth c (by decide), cast]

theorem makeCrcTableInt_eq : makeCrcTableInt = makeCrcTable := by
  have rounds : crcTableRoundInt = crcTableRound := funext crcTableRoundInt_eq
  rw [makeCrcTableInt, makeCrcTable, rounds]
  apply List.map_congr_left
  intro index member
  have small : index < 256 := List.mem_range.mp member
  have start : (BitVec.ofNat 64 index <<< 8).setWidth 16 = BitVec.ofNat 16 index <<< 8 := by
    apply BitVec.eq_of_toNat_eq
    rw [BitVec.toNat_setWidth, BitVec.toNat_shiftLeft, BitVec.toNat_shiftLeft,
      BitVec.toNat_ofNat, BitVec.toNat_ofNat, Nat.shiftLeft_eq, Nat.shiftLeft_eq]
    omega
  rw [start]

theorem crcTableIndexInt_eq (crc : BitVec 16) (byte : Byte) :
    crcTableIndexInt crc byte = crcTableIndex crc byte := by
  have crcBound := crc.isLt
  have byteBound := byte.isLt
  rw [crcTableIndexInt, crcTableIndex, BitVec.toNat_xor, BitVec.toNat_xor,
    BitVec.toNat_ushiftRight, BitVec.toNat_ushiftRight, BitVec.toNat_setWidth,
    BitVec.toNat_setWidth, BitVec.toNat_setWidth, Nat.mod_eq_of_lt (by omega),
    Nat.mod_eq_of_lt (by omega), Nat.mod_eq_of_lt (by omega)]

theorem crcTableStepInt_eq (crc : BitVec 16) (byte : Byte) :
    crcTableStepInt crc byte = crcTableStep crc byte := by
  rw [crcTableStepInt, crcTableStep, BitVec.setWidth_xor,
    setWidth_shiftLeft_setWidth crc (by decide), setWidth_setWidth, makeCrcTableInt_eq,
    crcTableIndexInt_eq]

/-- The promotions change nothing. -/
theorem crcCcittXmodemInt_eq (data : List Byte) :
    crcCcittXmodemInt data = crcCcittXmodem data := by
  have steps : crcTableStepInt = crcTableStep := by
    funext crc byte
    exact crcTableStepInt_eq crc byte
  rw [crcCcittXmodemInt, crcCcittXmodem, steps]

end AsterxDriver.Sbf
