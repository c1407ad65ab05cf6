import AsterxDriver.Parser.Unpack
import Mathlib.Algebra.Field.Rat
import Mathlib.Data.Rat.Defs

/-! # Rows of the CSV files

The values that the block decoders read, the rows they fill and `class CsvSink`
of `scripts/parser.py`. A float is kept as the bits it was read from; how a cell
is written in the file is left out. -/

namespace AsterxDriver.Parser

open Foundation ByteString

/-! ## Values -/

/-- The value of IEEE 754 bits, if it is finite. -/
def ieeeValue (exponentBits fractionBits bits : Nat) : Option ℚ :=
  let fraction := bits % 2 ^ fractionBits
  let exponent := bits / 2 ^ fractionBits % 2 ^ exponentBits
  let bias : Int := 2 ^ (exponentBits - 1) - 1
  let magnitude : ℚ :=
    if exponent = 0 then fraction * 2 ^ (1 - bias - fractionBits)
    else (2 ^ fractionBits + fraction) * 2 ^ (exponent - bias - fractionBits)
  if exponent = 2 ^ exponentBits - 1 then none
  else if bits / 2 ^ (fractionBits + exponentBits) % 2 = 1 then some (-magnitude)
  else some magnitude

inductive FloatBits
  | single (bits : Nat)
  | double (bits : Nat)
  deriving DecidableEq, Repr

def FloatBits.value : FloatBits → Option ℚ
  | .single bits => ieeeValue 8 23 bits
  | .double bits => ieeeValue 11 52 bits

/-- `empty` is `None`. -/
inductive Cell
  | empty
  | int (value : Int)
  | float (value : FloatBits)
  | text (value : String)
  deriving DecidableEq, Repr

abbrev CsvRow := Dict String Cell

/-- `row.get(key)`. -/
def CsvRow.get (row : CsvRow) (key : String) : Cell := Dict.getD row key .empty

/-- Values up to half of `FLOAT_DNU` stand for "do not use". -/
def dnuFloat (value : FloatBits) : Cell :=
  match value.value with
  | none => .empty
  | some finite => if finite ≤ -2 * 10 ^ 10 * (1 / 2) then .empty else .float value

def dnuI (value dnu : Int) : Cell := if value = dnu then .empty else .int value

/-! ## Fields -/

/-- A field of a row and how it is read from a record; `stop` is where the bytes
it needs end. -/
structure Field where
  name : String
  stop : Nat
  read : List Byte → Nat → Except PyError Cell
  reads : ∀ body off, off + stop ≤ body.length → ∃ cell, read body off = .ok cell

namespace Field

/-- A value known before the record is read. -/
def known (name : String) (cell : Cell) : Field :=
  ⟨name, 0, fun _ _ => .ok cell, fun _ _ _ => ⟨cell, rfl⟩⟩

def byte (name : String) (offset : Nat) (cell : Nat → Cell) : Field where
  name := name
  stop := offset + 1
  read := fun body off => do
    let value ← byteAt body (off + offset)
    return cell value
  reads := fun body off inside => ⟨_, by rw [byteAt_eq (by omega)]; rfl⟩

/-- A field read with `struct.unpack_from`. -/
def unpacked (name : String) (offset size : Nat) (value : List Byte → Nat → α)
    (cell : α → Cell) : Field where
  name := name
  stop := offset + size
  read := fun body off => do
    let value ← unpackFrom size value body (off + offset)
    return cell value
  reads := fun body off inside => ⟨_, by rw [unpackFrom_eq _ (by omega)]; rfl⟩

def u8 (name : String) (offset : Nat) : Field := byte name offset fun value => .int value

def u8Dnu (name : String) (offset dnu : Nat) : Field :=
  byte name offset fun value => dnuI value dnu

def i8Dnu (name : String) (offset : Nat) : Field :=
  unpacked name offset 1 (fun body off => toSigned 8 (ByteString.u8 body off)) (dnuI · (-128))

def u16 (name : String) (offset : Nat) : Field :=
  unpacked name offset 2 u16le fun value => .int value

def u32 (name : String) (offset : Nat) : Field :=
  unpacked name offset 4 u32le fun value => .int value

def f32Dnu (name : String) (offset : Nat) : Field :=
  unpacked name offset 4 u32le fun bits => dnuFloat (.single bits)

def f64 (name : String) (offset : Nat) : Field :=
  unpacked name offset 8 u64le fun bits => .float (.double bits)

def f64Dnu (name : String) (offset : Nat) : Field :=
  unpacked name offset 8 u64le fun bits => dnuFloat (.double bits)

end Field

/-- The fields read one after another, over what the row holds already. -/
def readFields (fields : List Field) (body : List Byte) (off : Nat) (row : CsvRow) :
    Except PyError CsvRow :=
  fields.foldlM (fun row field => do
    let cell ← field.read body off
    return row.insert field.name cell) row

/-- A record that is long enough can be read. -/
theorem readFields_ok {fields : List Field} {body : List Byte} {off : Nat}
    (inside : ∀ field ∈ fields, off + field.stop ≤ body.length) (row : CsvRow) :
    ∃ filled, readFields fields body off row = .ok filled := by
  induction fields generalizing row with
  | nil => exact ⟨row, rfl⟩
  | cons field later induction =>
      rcases List.forall_mem_cons.mp inside with ⟨first, rest⟩
      rcases field.reads body off first with ⟨cell, read⟩
      rcases induction rest (row.insert field.name cell) with ⟨filled, result⟩
      refine ⟨filled, ?_⟩
      rw [readFields, List.foldlM_cons, read]
      exact result

/-- A row that was read holds the cell of every field, and the other cells of the
row before. -/
theorem readFields_get {fields : List Field} {body : List Byte} {off : Nat} {row filled : CsvRow}
    (distinct : (fields.map Field.name).Nodup)
    (read : readFields fields body off row = .ok filled) :
    (∀ field ∈ fields, field.read body off = .ok (filled.get field.name)) ∧
      ∀ key ∉ fields.map Field.name, filled.get key = row.get key := by
  induction fields generalizing row with
  | nil =>
      cases read
      simp
  | cons field later induction =>
      rw [List.map_cons, List.nodup_cons] at distinct
      rw [readFields, List.foldlM_cons] at read
      rcases Checked.bind_eq_ok.mp read with ⟨next, first, rest⟩
      rcases Checked.bind_eq_ok.mp first with ⟨cell, found, inserted⟩
      cases inserted
      rcases induction distinct.2 rest with ⟨laterCells, others⟩
      constructor
      · refine List.forall_mem_cons.mpr ⟨?_, laterCells⟩
        rw [found, others _ distinct.1, CsvRow.get, Dict.getD_insert_self]
      · intro key absent
        rw [List.map_cons, List.mem_cons, not_or] at absent
        rw [others key absent.2, CsvRow.get, Dict.getD_insert_of_ne _ _ _ absent.1]
        rfl

/-! ## Sub-blocks -/

/-- The loop over sub-blocks: `count` of them are left. It ends early at the first
one that does not fit into the body. -/
def subBlocks (length sbLen : Nat) (parse : Nat → Nat → Except PyError α) :
    Nat → Nat → Nat → Except PyError (List α)
  | 0, _, _ => .ok []
  | count + 1, idx, off =>
      if off + sbLen > length then .ok []
      else do
        let row ← parse idx off
        let later ← subBlocks length sbLen parse count (idx + 1) (off + sbLen)
        return row :: later

theorem subBlocks_ok {length sbLen : Nat} {parse : Nat → Nat → Except PyError α}
    (parses : ∀ idx off, off + sbLen ≤ length → ∃ row, parse idx off = .ok row)
    (count idx off : Nat) : ∃ rows, subBlocks length sbLen parse count idx off = .ok rows := by
  induction count generalizing idx off with
  | zero => exact ⟨[], rfl⟩
  | succ count induction =>
      rw [subBlocks]
      split
      · exact ⟨[], rfl⟩
      · rename_i inside
        rcases parses idx off (by omega) with ⟨row, first⟩
        rcases induction (idx + 1) (off + sbLen) with ⟨later, rest⟩
        exact ⟨row :: later, by rw [first, Checked.ok_bind, rest]; rfl⟩

/-- The loop takes all the blocks it was asked for when they fit. -/
theorem subBlocks_of_fits {length sbLen : Nat} (parse : Nat → Nat → Except PyError α)
    (count idx off : Nat) (fits : off + count * sbLen ≤ length) :
    subBlocks length sbLen parse count idx off =
      (List.range count).mapM fun k => parse (idx + k) (off + k * sbLen) := by
  induction count generalizing idx off with
  | zero => rfl
  | succ count induction =>
      rw [Nat.succ_mul] at fits
      have moved : (fun k => parse (idx + 1 + k) (off + sbLen + k * sbLen)) =
          fun k => parse (idx + (k + 1)) (off + (k + 1) * sbLen) := by
        funext k
        rw [Nat.succ_mul, Nat.add_assoc, Nat.add_comm 1 k, Nat.add_assoc, Nat.add_comm sbLen]
      rw [subBlocks, if_neg (by omega), induction _ _ (by omega), moved,
        List.range_succ_eq_map, List.mapM_cons, List.mapM_map, Nat.add_zero, Nat.zero_mul,
        Nat.add_zero]
      rfl

/-! ## Files -/

def formatCsvValue : Cell → Cell
  | .empty => .text ""
  | .float value => if value.value.isSome then .float value else .text ""
  | cell => cell

/-- Each file has its headers and the rows below them. -/
abbrev CsvSink := Dict String (List String × List (List Cell))

def CsvSink.row (sink : CsvSink) (filename : String) (headers : List String) (row : CsvRow) :
    CsvSink :=
  Dict.modify sink filename (headers, []) fun file =>
    (file.1, file.2 ++ [headers.map fun key => formatCsvValue (row.get key)])

end AsterxDriver.Parser
