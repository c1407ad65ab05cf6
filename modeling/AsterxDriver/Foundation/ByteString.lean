import Mathlib.Data.List.Basic
import Mathlib.Data.BitVec
import Mathlib.Tactic.Ring
import Mathlib.Tactic.Linarith

/-! # Byte strings

Little-endian reads and writes on finite byte strings. Reads outside the string
return zero; every use of them is guarded by a length test. -/

namespace Foundation

abbrev Byte := BitVec 8

namespace ByteString

/-! ## Reading -/

def u8 (bytes : List Byte) (offset : Nat) : Nat :=
  (bytes.getD offset 0).toNat

def u16le (bytes : List Byte) (offset : Nat) : Nat :=
  u8 bytes offset + 256 * u8 bytes (offset + 1)

def u32le (bytes : List Byte) (offset : Nat) : Nat :=
  u16le bytes offset + 65536 * u16le bytes (offset + 2)

def u64le (bytes : List Byte) (offset : Nat) : Nat :=
  u32le bytes offset + 4294967296 * u32le bytes (offset + 4)

/-- The bytes from `start` up to, not including, `stop`. -/
def slice (bytes : List Byte) (start stop : Nat) : List Byte :=
  (bytes.take stop).drop start

theorem u8_lt (bytes : List Byte) (offset : Nat) : u8 bytes offset < 256 :=
  (bytes.getD offset 0).isLt

theorem u16le_lt (bytes : List Byte) (offset : Nat) :
    u16le bytes offset < 65536 := by
  have low := u8_lt bytes offset
  have high := u8_lt bytes (offset + 1)
  unfold u16le
  omega

@[simp] theorem u16le_mod (bytes : List Byte) (offset : Nat) :
    u16le bytes offset % 65536 = u16le bytes offset :=
  Nat.mod_eq_of_lt (u16le_lt bytes offset)

theorem u32le_lt (bytes : List Byte) (offset : Nat) :
    u32le bytes offset < 4294967296 := by
  have low := u16le_lt bytes offset
  have high := u16le_lt bytes (offset + 2)
  unfold u32le
  omega

@[simp] theorem u8_cons_zero (head : Byte) (tail : List Byte) :
    u8 (head :: tail) 0 = head.toNat := rfl

@[simp] theorem u8_cons_succ (head : Byte) (tail : List Byte) (offset : Nat) :
    u8 (head :: tail) (offset + 1) = u8 tail offset := rfl

@[simp] theorem u8_drop (bytes : List Byte) (count offset : Nat) :
    u8 (bytes.drop count) offset = u8 bytes (count + offset) := by
  simp [u8, List.getD_eq_getElem?_getD]

@[simp] theorem u16le_drop (bytes : List Byte) (count offset : Nat) :
    u16le (bytes.drop count) offset = u16le bytes (count + offset) := by
  simp [u16le, Nat.add_assoc]

@[simp] theorem u32le_drop (bytes : List Byte) (count offset : Nat) :
    u32le (bytes.drop count) offset = u32le bytes (count + offset) := by
  simp [u32le, Nat.add_assoc]

theorem u8_append_left (front back : List Byte) {offset : Nat}
    (inside : offset < front.length) :
    u8 (front ++ back) offset = u8 front offset := by
  simp [u8, List.getD_eq_getElem?_getD, List.getElem?_append_left inside]

theorem u16le_append_left (front back : List Byte) {offset : Nat}
    (inside : offset + 1 < front.length) :
    u16le (front ++ back) offset = u16le front offset := by
  unfold u16le
  rw [u8_append_left front back (by omega), u8_append_left front back inside]

theorem u32le_append_left (front back : List Byte) {offset : Nat}
    (inside : offset + 3 < front.length) :
    u32le (front ++ back) offset = u32le front offset := by
  unfold u32le
  rw [u16le_append_left front back (by omega), u16le_append_left front back inside]

theorem u8_append_right (front back : List Byte) (offset : Nat) :
    u8 (front ++ back) (front.length + offset) = u8 back offset := by
  rw [← u8_drop, List.drop_left]

theorem u8_replicate_zero (count offset : Nat) : u8 (List.replicate count 0) offset = 0 := by
  rw [u8, List.getD_eq_getElem?_getD, List.getElem?_replicate]
  split <;> rfl

/-! ## Slices -/

theorem length_slice (bytes : List Byte) {start stop : Nat}
    (inside : stop ≤ bytes.length) :
    (slice bytes start stop).length = stop - start := by
  simp only [slice, List.length_drop, List.length_take]
  omega

theorem slice_drop (bytes : List Byte) (count start stop : Nat) :
    slice (bytes.drop count) start stop =
      slice bytes (count + start) (count + stop) := by
  simp only [slice, List.take_drop, List.drop_drop]

theorem slice_append_left (front back : List Byte) {start stop : Nat}
    (inside : stop ≤ front.length) :
    slice (front ++ back) start stop = slice front start stop := by
  simp only [slice, List.take_append_of_le_length inside]

theorem slice_eq_take_drop (bytes : List Byte) (start stop : Nat) :
    slice bytes start stop = (bytes.drop start).take (stop - start) := by
  simp only [slice, List.drop_take]

theorem slice_append_slice (bytes : List Byte) {start middle stop : Nat}
    (first : start ≤ middle) (second : middle ≤ stop) :
    slice bytes start middle ++ slice bytes middle stop =
      slice bytes start stop := by
  simp only [slice_eq_take_drop]
  have split : stop - start = (middle - start) + (stop - middle) := by omega
  have shifted : middle = start + (middle - start) := by omega
  rw [split, List.take_add, List.drop_drop, ← shifted]

theorem slice_slice (bytes : List Byte) {start stop first last : Nat}
    (inside : start + last ≤ stop) :
    slice (slice bytes start stop) first last = slice bytes (start + first) (start + last) := by
  rw [← slice_drop, slice_eq_take_drop bytes, slice, slice, List.take_take,
    Nat.min_eq_left (by omega)]

/-- Blocks of one length, one after another. -/
theorem length_flatten_of_forall {blocks : List (List Byte)} {size : Nat}
    (same : ∀ block ∈ blocks, block.length = size) :
    blocks.flatten.length = blocks.length * size := by
  rw [List.length_flatten, List.map_congr_left same, List.map_const', List.sum_replicate_nat]

/-- Cutting them apart again. -/
theorem map_slice_flatten {blocks : List (List Byte)} {size : Nat}
    (same : ∀ block ∈ blocks, block.length = size) (rest : List Byte) :
    (List.range blocks.length).map (fun k =>
      slice (blocks.flatten ++ rest) (k * size) (k * size + size)) = blocks := by
  induction blocks with
  | nil => rfl
  | cons block later induction =>
      rcases List.forall_mem_cons.mp same with ⟨first, others⟩
      rw [List.length_cons, List.range_succ_eq_map, List.map_cons, List.map_map,
        List.flatten_cons, List.append_assoc]
      congr 1
      · rw [Nat.zero_mul, Nat.zero_add, slice, List.take_left' first, List.drop_zero]
      · refine Eq.trans (List.map_congr_left fun k _ => ?_) (induction others)
        have shifted := slice_drop (block ++ (later.flatten ++ rest)) size (k * size)
          (k * size + size)
        rw [List.drop_left' first] at shifted
        rw [shifted, Function.comp_apply, Nat.succ_mul, Nat.add_comm size, Nat.add_comm size,
          Nat.add_right_comm]

/-! ## Writing -/

def packU16le (value : Nat) : List Byte :=
  [BitVec.ofNat 8 value, BitVec.ofNat 8 (value / 256)]

@[simp] theorem length_packU16le (value : Nat) :
    (packU16le value).length = 2 := rfl

theorem u16le_packU16le (value : Nat) (rest : List Byte)
    (bound : value < 65536) :
    u16le (packU16le value ++ rest) 0 = value := by
  simp only [u16le, packU16le, List.cons_append, u8_cons_zero, u8_cons_succ,
    BitVec.toNat_ofNat]
  omega

theorem packU16le_inj {left right : Nat} (leftBound : left < 65536) (rightBound : right < 65536)
    (equal : packU16le left = packU16le right) : left = right := by
  rw [← u16le_packU16le left [] leftBound, equal, u16le_packU16le right [] rightBound]

theorem packU16le_u16le (bytes : List Byte) (offset : Nat)
    (inside : offset + 2 ≤ bytes.length) :
    packU16le (u16le bytes offset) = slice bytes offset (offset + 2) := by
  have first : bytes.drop offset = bytes[offset] :: bytes.drop (offset + 1) :=
    List.drop_eq_getElem_cons (by omega)
  have second : bytes.drop (offset + 1) = bytes[offset + 1] :: bytes.drop (offset + 2) :=
    List.drop_eq_getElem_cons (by omega)
  have low : u8 bytes offset = bytes[offset].toNat := by
    rw [u8, List.getD_eq_getElem?_getD, List.getElem?_eq_getElem (by omega)]
    rfl
  have high : u8 bytes (offset + 1) = bytes[offset + 1].toNat := by
    rw [u8, List.getD_eq_getElem?_getD, List.getElem?_eq_getElem (by omega)]
    rfl
  have lowBound := bytes[offset].isLt
  have highBound := bytes[offset + 1].isLt
  rw [slice_eq_take_drop, first, second, show offset + 2 - offset = 2 by omega]
  simp only [packU16le, u16le, low, high, List.take_succ_cons, List.take_zero]
  congr 1
  · apply BitVec.eq_of_toNat_eq
    rw [BitVec.toNat_ofNat]
    omega
  · congr 1
    apply BitVec.eq_of_toNat_eq
    rw [BitVec.toNat_ofNat]
    omega

end ByteString

end Foundation
