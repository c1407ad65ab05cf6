import AsterxDriver.Foundation.ByteString
import AsterxDriver.Foundation.Checked
import AsterxDriver.Foundation.Dict
import Mathlib.Logic.Function.Iterate

/-! # Frames in the offline parser

`scripts/parser.py`: the bit-serial CRC, `rebuild_sbf_frame` and the three
scanning loops. Python integers are natural numbers; the reads of the loops are
in range by their guard `i + 8 <= n`. -/

namespace AsterxDriver.Parser

open Foundation ByteString

/-- What the modelled code can raise. -/
inductive PyError
  | valueError (message : String)
  | structError
  | indexError
  | keyError
  | zeroDivisionError
  /-- `int` of a float that is infinite or not a number. -/
  | notFinite
  deriving DecidableEq, Repr

structure SbfFrame where
  offset : Nat
  crc : Nat
  rawId : Nat
  blockId : Nat
  revision : Nat
  length : Nat
  body : List Byte
  deriving DecidableEq, Repr

/-! ## CRC -/

def crcBit (crc : Nat) : Nat :=
  if crc &&& 0x8000 ≠ 0 then ((crc <<< 1) ^^^ 0x1021) &&& 0xFFFF
  else (crc <<< 1) &&& 0xFFFF

def crcByte (crc : Nat) (byte : Byte) : Nat :=
  crcBit^[8] (crc ^^^ (byte.toNat <<< 8))

def crcCcittXmodem (data : List Byte) : Nat := data.foldl crcByte 0

/-! ## Writing frames -/

/-- `struct.pack("<H", value)`. -/
def packH (value : Nat) : Except PyError (List Byte) :=
  if value < 65536 then .ok (packU16le value) else .error .structError

def rebuildSbfFrame (rawId : Nat) (body : List Byte) : Except PyError (List Byte) :=
  let total := 8 + body.length
  let pad := (4 - total % 4) % 4
  let bodyPadded := body ++ List.replicate pad 0
  let length := 8 + bodyPadded.length
  if length > 8188 then
    .error (.valueError s!"SBF frame too large: {length} bytes")
  else do
    let packedId ← packH rawId
    let packedLength ← packH length
    let crc := crcCcittXmodem (packedId ++ packedLength ++ bodyPadded)
    let packedCrc ← packH crc
    return [0x24, 0x40] ++ packedCrc ++ packedId ++ packedLength ++ bodyPadded

/-! ## Reading frames -/

def iterFramesFrom (data : List Byte) (i : Nat) : List SbfFrame :=
  if i + 8 ≤ data.length then
    if u8 data i ≠ 0x24 ∨ u8 data (i + 1) ≠ 0x40 then iterFramesFrom data (i + 1)
    else
      let crc := u16le data (i + 2)
      let rawId := u16le data (i + 4)
      let length := u16le data (i + 6)
      if length < 8 ∨ length > 8188 ∨ length % 4 ≠ 0 ∨ i + length > data.length then
        iterFramesFrom data (i + 1)
      else if crcCcittXmodem (slice data (i + 4) (i + length)) ≠ crc then
        iterFramesFrom data (i + 1)
      else
        { offset := i
          crc := crc
          rawId := rawId
          blockId := rawId &&& 0x1FFF
          revision := (rawId >>> 13) &&& 0x07
          length := length
          body := slice data (i + 8) (i + length) } :: iterFramesFrom data (i + length)
  else []
termination_by data.length - i

def iterFrames (data : List Byte) : List SbfFrame := iterFramesFrom data 0

structure RawScan where
  fileSize : Nat
  headHex : String
  frames : Nat
  recognizedBytes : Nat
  idCounts : Dict Nat Nat
  revCounts : Dict Nat Nat
  crcFailedById : Dict Nat Nat
  crcFails : Nat

/-- `bytes.hex()`. -/
def hexDigits (bytes : List Byte) : String :=
  String.ofList (bytes.flatMap fun byte =>
    [Nat.digitChar (byte.toNat / 16), Nat.digitChar (byte.toNat % 16)])

def rawScanFrom (data : List Byte) (i : Nat) (scan : RawScan) : RawScan :=
  if i + 8 ≤ data.length then
    if u8 data i ≠ 0x24 ∨ u8 data (i + 1) ≠ 0x40 then rawScanFrom data (i + 1) scan
    else
      let crc := u16le data (i + 2)
      let rawId := u16le data (i + 4)
      let length := u16le data (i + 6)
      let blockId := rawId &&& 0x1FFF
      let revision := (rawId >>> 13) &&& 0x07
      if length < 8 ∨ length > 8188 ∨ length % 4 ≠ 0 ∨ i + length > data.length then
        rawScanFrom data (i + 1) scan
      else if crcCcittXmodem (slice data (i + 4) (i + length)) ≠ crc then
        rawScanFrom data (i + 1) { scan with
          crcFails := scan.crcFails + 1
          crcFailedById := scan.crcFailedById.modify blockId 0 (· + 1) }
      else
        rawScanFrom data (i + length) { scan with
          idCounts := scan.idCounts.modify blockId 0 (· + 1)
          revCounts := scan.revCounts.modify blockId revision (max · revision)
          recognizedBytes := scan.recognizedBytes + length
          frames := scan.frames + 1 }
  else scan
termination_by data.length - i

def rawScan (data : List Byte) : RawScan :=
  rawScanFrom data 0
    { fileSize := data.length
      headHex := hexDigits (data.take 32)
      frames := 0
      recognizedBytes := 0
      idCounts := ∅
      revCounts := ∅
      crcFailedById := ∅
      crcFails := 0 }

def verifySbfBytesFrom (data : List Byte) (i frames crcFails : Nat) : Nat × Nat :=
  if i + 8 ≤ data.length then
    if u8 data i ≠ 0x24 ∨ u8 data (i + 1) ≠ 0x40 then
      verifySbfBytesFrom data (i + 1) frames crcFails
    else
      let crc := u16le data (i + 2)
      let length := u16le data (i + 6)
      if length < 8 ∨ length > 8188 ∨ length % 4 ≠ 0 ∨ i + length > data.length then
        verifySbfBytesFrom data (i + 1) frames crcFails
      else if crcCcittXmodem (slice data (i + 4) (i + length)) ≠ crc then
        verifySbfBytesFrom data (i + 1) frames (crcFails + 1)
      else
        verifySbfBytesFrom data (i + length) (frames + 1) crcFails
  else (frames, crcFails)
termination_by data.length - i

def verifySbfBytes (data : List Byte) : Nat × Nat := verifySbfBytesFrom data 0 0 0

end AsterxDriver.Parser
