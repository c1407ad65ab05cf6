import AsterxDriver.Parser.Framing

/-! # Reading a block body

`body[i]`, `struct.unpack_from` and `struct.pack` as the block decoders use
them. A read outside the body and a value that does not fit its field raise. -/

namespace AsterxDriver.Parser

open Foundation ByteString

/-- The two's complement value of an unsigned number of `bits` bits. -/
def toSigned (bits value : Nat) : Int :=
  if value < 2 ^ (bits - 1) then value else value - 2 ^ bits

/-! ## Reading -/

/-- `body[offset]`. -/
def byteAt (body : List Byte) (offset : Nat) : Except PyError Nat :=
  if offset < body.length then .ok (u8 body offset) else .error .indexError

/-- `struct.unpack_from` with a format of `size` bytes. -/
def unpackFrom (size : Nat) (read : List Byte → Nat → α) (body : List Byte)
    (offset : Nat) : Except PyError α :=
  if offset + size ≤ body.length then .ok (read body offset) else .error .structError

def unpackH : List Byte → Nat → Except PyError Nat := unpackFrom 2 u16le

def unpackI : List Byte → Nat → Except PyError Nat := unpackFrom 4 u32le

def unpackSignedB : List Byte → Nat → Except PyError Int :=
  unpackFrom 1 fun body offset => toSigned 8 (u8 body offset)

def unpackSignedH : List Byte → Nat → Except PyError Int :=
  unpackFrom 2 fun body offset => toSigned 16 (u16le body offset)

def unpackSignedI : List Byte → Nat → Except PyError Int :=
  unpackFrom 4 fun body offset => toSigned 32 (u32le body offset)

theorem byteAt_eq {body : List Byte} {offset : Nat} (inside : offset < body.length) :
    byteAt body offset = .ok (u8 body offset) :=
  if_pos inside

theorem unpackFrom_eq {size : Nat} (read : List Byte → Nat → α) {body : List Byte}
    {offset : Nat} (inside : offset + size ≤ body.length) :
    unpackFrom size read body offset = .ok (read body offset) :=
  if_pos inside

/-! ## Writing -/

/-- The field `B` of `struct.pack`. -/
def packB (value : Nat) : Except PyError (List Byte) :=
  if value < 256 then .ok [BitVec.ofNat 8 value] else .error .structError

def packU32le (value : Nat) : List Byte :=
  packU16le value ++ packU16le (value / 65536)

/-- The field `I`. -/
def packI (value : Nat) : Except PyError (List Byte) :=
  if value < 4294967296 then .ok (packU32le value) else .error .structError

/-- The unsigned number with the same bits. -/
def toUnsigned (bits : Nat) (value : Int) : Nat :=
  (value % 2 ^ bits).toNat

/-- The field `b`. -/
def packSignedB (value : Int) : Except PyError (List Byte) :=
  if -128 ≤ value ∧ value < 128 then .ok [BitVec.ofNat 8 (toUnsigned 8 value)]
  else .error .structError

/-- The field `i`. -/
def packSignedI (value : Int) : Except PyError (List Byte) :=
  if -2147483648 ≤ value ∧ value < 2147483648 then .ok (packU32le (toUnsigned 32 value))
  else .error .structError

end AsterxDriver.Parser
