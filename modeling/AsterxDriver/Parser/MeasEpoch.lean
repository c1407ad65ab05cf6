import AsterxDriver.Foundation.FloatArithmetic
import AsterxDriver.Parser.Unpack

/-! # MeasEpoch

`scripts/parser.py`: the decoder of block 4027, the encoder of its Type-1
sub-blocks and the split by antenna. The float arithmetic is a parameter. -/

namespace AsterxDriver.Parser

open Foundation ByteString FloatArithmetic

/-! ## Field helpers -/

def dnuU (value dnu : Nat) : Option Nat := if value = dnu then none else some value

def signExtend (value bits : Nat) : Int :=
  let signBit := 1 <<< (bits - 1)
  ((value ^^^ signBit : Nat) : Int) - signBit

def signalType (typeByte auxBits : Nat) : Nat :=
  let sigLo := typeByte &&& 0x1F
  if sigLo = 31 then 32 + ((auxBits >>> 3) &&& 0x1F) else sigLo

def antennaId (typeByte : Nat) : Nat := (typeByte >>> 5) &&& 0x07

def antennaNames : List (Nat × String) := [(0, "Main"), (1, "Aux1"), (2, "Aux2")]

def antennaName (antenna : Nat) : String :=
  (antennaNames.lookup antenna).getD ("Ant" ++ toString antenna)

def signalTypeNames : List (Nat × String) :=
  [(0, "GPS L1CA"), (1, "GPS L1P"), (2, "GPS L2P"), (3, "GPS L2C"), (4, "GPS L5"),
    (5, "GPS L1C"), (6, "QZS L1CA"), (7, "QZS L2C"), (8, "GLO L1CA"), (9, "GLO L1P"),
    (10, "GLO L2P"), (11, "GLO L2CA"), (12, "GLO L3"), (13, "BDS B1C"), (14, "BDS B2a"),
    (15, "NavIC L5"), (17, "GAL E1"), (19, "GAL E6"), (20, "GAL E5a"), (21, "GAL E5b"),
    (22, "GAL E5 AltBOC"), (23, "LBand"), (24, "SBAS L1CA"), (25, "SBAS L5"),
    (26, "QZS L5"), (27, "QZS L6"), (28, "BDS B1I"), (29, "BDS B2I"), (30, "BDS B3I"),
    (32, "QZS L1C"), (33, "QZS L1S"), (34, "BDS B2b"), (37, "NavIC L1"),
    (38, "QZS L1CB"), (39, "QZS L5S")]

def signalName (signal : Nat) : String :=
  (signalTypeNames.lookup signal).getD ("sig" ++ toString signal)

def glonassFreqNumber (signal infoBits : Nat) : Option Int :=
  if signal ∉ [8, 9, 10, 11, 12] then none
  else some (((infoBits >>> 3) &&& 0x1F : Nat) - 8)

/-! ## Float helpers -/

variable {F : Type} [FloatArithmetic F]

/-- The operator `/`. -/
def divide (dividend divisor : F) : Except PyError F :=
  match FloatArithmetic.div dividend divisor with
  | some quotient => .ok quotient
  | none => .error .zeroDivisionError

/-- `int(round(value))`. -/
def intRound (value : F) : Except PyError Int :=
  match FloatArithmetic.roundInt value with
  | some integer => .ok integer
  | none => .error .notFinite

def lightSpeedMps : F := ofRat 299792458

def fixedFrequency (hertz : Nat) : Option F := some (ofRat hertz)

def channelFrequency (gloK : Option Int) (base step : Nat) : Option F :=
  gloK.map fun k : Int => add (ofRat base) (mul (ofRat k) (ofRat step))

def carrierFrequencyHz (signal infoBits : Nat) (gloK : Option Int) : Option F :=
  let gloK := gloK.orElse fun _ => glonassFreqNumber signal infoBits
  if signal ∈ [0, 1, 5, 6, 17, 24, 28, 32, 33, 37, 38] then fixedFrequency 1575420000
  else if signal ∈ [2, 3, 7] then fixedFrequency 1227600000
  else if signal ∈ [4, 15, 20, 25, 26, 39] then fixedFrequency 1176450000
  else if signal ∈ [8, 9] then channelFrequency gloK 1602000000 562500
  else if signal ∈ [10, 11] then channelFrequency gloK 1246000000 437500
  else if signal = 12 then channelFrequency gloK 1202025000 437500
  else if signal = 13 then fixedFrequency 1575420000
  else if signal = 14 then fixedFrequency 1176450000
  else if signal = 19 then fixedFrequency 1278750000
  else if signal = 21 then fixedFrequency 1207140000
  else if signal = 22 then fixedFrequency 1191795000
  else if signal = 27 then fixedFrequency 1278750000
  else if signal = 29 then fixedFrequency 1207140000
  else if signal = 30 then fixedFrequency 1268520000
  else if signal = 34 then fixedFrequency 1207140000
  else none

def cn0Dbhz (cn0Raw signal : Nat) : Option F :=
  if cn0Raw = 255 then none
  else if signal ∈ [1, 2] then some (mul (ofRat cn0Raw) (ofRat (1 / 4)))
  else some (add (mul (ofRat cn0Raw) (ofRat (1 / 4))) (ofRat 10))

/-- A count of thousandths, as in `count * 0.001`. -/
def thousandths (count : Int) : F := mul (ofRat count) (ofRat (1 / 1000))

/-- The carrier phase of a sub-block of either type. -/
def carrierPhase (pseudorange freq : Option F) (carrierMsb : Int) (carrierLsb : Nat) :
    Except PyError (Option F) :=
  match pseudorange, freq with
  | some pseudorange, some freq =>
      if carrierMsb = -128 ∧ carrierLsb = 0 then .ok none
      else do
        let wavelength ← divide lightSpeedMps freq
        let cycles ← divide pseudorange wavelength
        return some (add cycles (thousandths (carrierMsb * 65536 + carrierLsb)))
  | _, _ => .ok none

/-! ## Rows -/

/-- A row that `decode_meas_epoch` returns. `parent_obs_index` is empty on
level 1. -/
structure Row (F : Type) where
  towMs : Nat
  wnc : Nat
  epochIndex : Nat
  obsIndex : Nat
  level : Nat
  parentObsIndex : Option Nat
  rxChannel : Nat
  antennaId : Nat
  antenna : String
  svid : Nat
  signalType : Nat
  signalName : String
  glonassFreqNumber : Option Int
  pseudorangeM : Option F
  carrierPhaseCycles : Option F
  dopplerHz : Option F
  cn0Dbhz : Option F
  cn0Raw : Option Nat
  lockTimeS : Option Nat
  smoothed : Bool
  halfCycle : Bool
  rawType : Nat
  obsInfo : Nat
  commonFlags : Nat
  cumClkJumpsMs : Nat
  frameOffset : Nat
  deriving DecidableEq, Repr

/-- A row with the two keys that are removed before it is returned. -/
structure ParsedRow (F : Type) where
  row : Row F
  freqHz : Option F
  gloFreqNumber : Option Int

/-- What the sub-blocks of one block share. -/
structure EpochHeader where
  tow : Nat
  wnc : Nat
  commonFlags : Nat
  cumClkJumps : Nat

/-! ## Decoding -/

def type1Pseudorange (codeMsb codeLsb : Nat) : Option F :=
  if codeMsb ≠ 0 ∨ codeLsb ≠ 0 then
    some (thousandths ((codeMsb * 4294967296 + codeLsb : Nat) : Int))
  else none

def type1Doppler (dopplerRaw : Int) : Option F :=
  if dopplerRaw = -2147483648 then none
  else some (mul (ofRat dopplerRaw) (ofRat (1 / 10000)))

/-- The raw fields of a Type-1 sub-block. -/
structure Type1Fields where
  rxCh : Nat
  typeB : Nat
  svid : Nat
  misc : Nat
  codeLsb : Nat
  dopplerRaw : Int
  carrierLsb : Nat
  carrierMsb : Int
  cn0Raw : Nat
  lock : Nat
  obsInfo : Nat

def readType1 (body : List Byte) (off : Nat) : Except PyError Type1Fields := do
  let rxCh ← byteAt body off
  let typeB ← byteAt body (off + 1)
  let svid ← byteAt body (off + 2)
  let misc ← byteAt body (off + 3)
  let codeLsb ← unpackI body (off + 4)
  let dopplerRaw ← unpackSignedI body (off + 8)
  let carrierLsb ← unpackH body (off + 12)
  let carrierMsb ← unpackSignedB body (off + 14)
  let cn0Raw ← byteAt body (off + 15)
  let lock ← unpackH body (off + 16)
  let obsInfo ← byteAt body (off + 18)
  return ⟨rxCh, typeB, svid, misc, codeLsb, dopplerRaw, carrierLsb, carrierMsb, cn0Raw,
    lock, obsInfo⟩

def Type1Fields.parse (fields : Type1Fields) (epochIndex obsIndex : Nat) (frame : SbfFrame)
    (header : EpochHeader) : Except PyError (ParsedRow F) := do
  let sig := signalType fields.typeB fields.obsInfo
  let ant := antennaId fields.typeB
  let gloK := glonassFreqNumber sig fields.obsInfo
  let pseudorange := type1Pseudorange (fields.misc &&& 0x0F) fields.codeLsb
  let freq := carrierFrequencyHz sig fields.obsInfo gloK
  let phase ← carrierPhase pseudorange freq fields.carrierMsb fields.carrierLsb
  return {
    row :=
      { towMs := header.tow
        wnc := header.wnc
        epochIndex := epochIndex
        obsIndex := obsIndex
        level := 1
        parentObsIndex := none
        rxChannel := fields.rxCh
        antennaId := ant
        antenna := antennaName ant
        svid := fields.svid
        signalType := sig
        signalName := signalName sig
        glonassFreqNumber := gloK
        pseudorangeM := pseudorange
        carrierPhaseCycles := phase
        dopplerHz := type1Doppler fields.dopplerRaw
        cn0Dbhz := cn0Dbhz fields.cn0Raw sig
        cn0Raw := dnuU fields.cn0Raw 255
        lockTimeS := dnuU fields.lock 65535
        smoothed := fields.obsInfo &&& 0x01 ≠ 0
        halfCycle := fields.obsInfo &&& 0x04 ≠ 0
        rawType := fields.typeB
        obsInfo := fields.obsInfo
        commonFlags := header.commonFlags
        cumClkJumpsMs := header.cumClkJumps
        frameOffset := frame.offset }
    freqHz := freq
    gloFreqNumber := gloK }

def parseType1Measurement (body : List Byte) (off epochIndex obsIndex : Nat)
    (frame : SbfFrame) (header : EpochHeader) : Except PyError (ParsedRow F) := do
  let fields ← readType1 body off
  fields.parse epochIndex obsIndex frame header

def type2Pseudorange (parentPr : Option F) (codeOffsetMsb : Int) (codeOffsetLsb : Nat) :
    Option F :=
  match parentPr with
  | none => none
  | some parentPr =>
      if codeOffsetMsb = -4 ∧ codeOffsetLsb = 0 then none
      else some (add parentPr (thousandths (codeOffsetMsb * 65536 + codeOffsetLsb)))

/-- `alpha`: the Doppler of a Type-2 sub-block scales with the carrier frequency. -/
def frequencyRatio (freq parentFreq : Option F) : Except PyError F :=
  match freq, parentFreq with
  | some freq, some parentFreq =>
      if isZero parentFreq then .ok (ofRat 1) else divide freq parentFreq
  | _, _ => .ok (ofRat 1)

def type2Doppler (parentDoppler parentFreq freq : Option F) (dopplerOffsetMsb : Int)
    (dopplerOffsetLsb : Nat) : Except PyError (Option F) :=
  match parentDoppler with
  | none => .ok none
  | some parentDoppler =>
      if dopplerOffsetMsb = -16 ∧ dopplerOffsetLsb = 0 then .ok none
      else do
        let alpha ← frequencyRatio freq parentFreq
        return some (add (mul parentDoppler alpha)
          (mul (ofRat (dopplerOffsetMsb * 65536 + dopplerOffsetLsb : Int))
            (ofRat (1 / 10000))))

/-- The raw fields of a Type-2 sub-block. -/
structure Type2Fields where
  typeB : Nat
  lock : Nat
  cn0Raw : Nat
  offsetsMsb : Nat
  carrierMsb : Int
  obsInfo : Nat
  codeOffsetLsb : Nat
  carrierLsb : Nat
  dopplerOffsetLsb : Nat

def readType2 (body : List Byte) (off : Nat) : Except PyError Type2Fields := do
  let typeB ← byteAt body off
  let lock ← byteAt body (off + 1)
  let cn0Raw ← byteAt body (off + 2)
  let offsetsMsb ← byteAt body (off + 3)
  let carrierMsb ← unpackSignedB body (off + 4)
  let obsInfo ← byteAt body (off + 5)
  let codeOffsetLsb ← unpackH body (off + 6)
  let carrierLsb ← unpackH body (off + 8)
  let dopplerOffsetLsb ← unpackH body (off + 10)
  return ⟨typeB, lock, cn0Raw, offsetsMsb, carrierMsb, obsInfo, codeOffsetLsb, carrierLsb,
    dopplerOffsetLsb⟩

/-- A Type-2 sub-block has no frequency number of its own. -/
def type2GloK (parentGlo : Option Int) (sig obsInfo : Nat) : Option Int :=
  if sig ∈ [8, 9, 10, 11, 12] then parentGlo else glonassFreqNumber sig obsInfo

def Type2Fields.parse (fields : Type2Fields) (parent : ParsedRow F)
    (epochIndex obsIndex : Nat) (frame : SbfFrame) (header : EpochHeader) :
    Except PyError (ParsedRow F) := do
  let sig := signalType fields.typeB fields.obsInfo
  let ant := antennaId fields.typeB
  let gloK := type2GloK parent.gloFreqNumber sig fields.obsInfo
  let codeOffsetMsb := signExtend (fields.offsetsMsb &&& 0x07) 3
  let dopplerOffsetMsb := signExtend ((fields.offsetsMsb >>> 3) &&& 0x1F) 5
  let pseudorange := type2Pseudorange parent.row.pseudorangeM codeOffsetMsb
    fields.codeOffsetLsb
  let freq := carrierFrequencyHz sig fields.obsInfo gloK
  let doppler ← type2Doppler parent.row.dopplerHz parent.freqHz freq dopplerOffsetMsb
    fields.dopplerOffsetLsb
  let phase ← carrierPhase pseudorange freq fields.carrierMsb fields.carrierLsb
  return {
    row :=
      { towMs := header.tow
        wnc := header.wnc
        epochIndex := epochIndex
        obsIndex := obsIndex
        level := 2
        parentObsIndex := some parent.row.obsIndex
        rxChannel := parent.row.rxChannel
        antennaId := ant
        antenna := antennaName ant
        svid := parent.row.svid
        signalType := sig
        signalName := signalName sig
        glonassFreqNumber := gloK
        pseudorangeM := pseudorange
        carrierPhaseCycles := phase
        dopplerHz := doppler
        cn0Dbhz := cn0Dbhz fields.cn0Raw sig
        cn0Raw := dnuU fields.cn0Raw 255
        lockTimeS := dnuU fields.lock 255
        smoothed := fields.obsInfo &&& 0x01 ≠ 0
        halfCycle := fields.obsInfo &&& 0x04 ≠ 0
        rawType := fields.typeB
        obsInfo := fields.obsInfo
        commonFlags := header.commonFlags
        cumClkJumpsMs := header.cumClkJumps
        frameOffset := frame.offset }
    freqHz := freq
    gloFreqNumber := gloK }

def parseType2Measurement (body : List Byte) (off : Nat) (parent : ParsedRow F)
    (epochIndex obsIndex : Nat) (frame : SbfFrame) (header : EpochHeader) :
    Except PyError (ParsedRow F) := do
  let fields ← readType2 body off
  fields.parse parent epochIndex obsIndex frame header

/-- The loop over the Type-2 sub-blocks of one parent; `count` of them are left. -/
def type2Loop (frame : SbfFrame) (header : EpochHeader) (sb2Len : Nat)
    (parent : ParsedRow F) (epochIndex : Nat) :
    Nat → Nat → Nat → Except PyError (List (ParsedRow F))
  | 0, _, _ => .ok []
  | count + 1, off, obsIndex =>
      if sb2Len < 12 ∨ off + sb2Len > frame.body.length then .ok []
      else do
        let child ← parseType2Measurement frame.body off parent epochIndex obsIndex frame
          header
        let later ← type2Loop frame header sb2Len parent epochIndex count (off + sb2Len)
          (obsIndex + 1)
        return child :: later

/-- The loop over the Type-1 sub-blocks; `count` of them are left. -/
def type1Loop (frame : SbfFrame) (header : EpochHeader) (sb1Len sb2Len : Nat) :
    Nat → Nat → Nat → Nat → Except PyError (List (ParsedRow F))
  | 0, _, _, _ => .ok []
  | count + 1, epochIndex, off, obsIndex =>
      if sb1Len < 20 ∨ off + sb1Len > frame.body.length then .ok []
      else do
        let parent ← parseType1Measurement frame.body off epochIndex obsIndex frame header
        let n2 ← byteAt frame.body (off + 19)
        let children ← type2Loop frame header sb2Len parent epochIndex n2 (off + sb1Len)
          (obsIndex + 1)
        let later ← type1Loop frame header sb1Len sb2Len count (epochIndex + 1)
          (off + (sb1Len + n2 * sb2Len)) (obsIndex + 1 + children.length)
        return parent :: (children ++ later)

def decodeMeasEpoch (frame : SbfFrame) : Except PyError (List (Row F)) :=
  if frame.body.length < 12 then .ok []
  else do
    let tow ← unpackI frame.body 0
    let wnc ← unpackH frame.body 4
    let n1 ← byteAt frame.body 6
    let sb1Len ← byteAt frame.body 7
    let sb2Len ← byteAt frame.body 8
    let commonFlags ← byteAt frame.body 9
    let cumClkJumps ← byteAt frame.body 10
    let rows ← type1Loop frame ⟨tow, wnc, commonFlags, cumClkJumps⟩ sb1Len sb2Len n1 0 12 0
    return rows.map ParsedRow.row

/-! ## Encoding -/

def typeByteForObservation (row : Row F) : Nat :=
  let sigLo := if row.signalType ≥ 32 then 31 else row.signalType &&& 0x1F
  ((row.antennaId &&& 0x07) <<< 5) ||| sigLo

/-- The frequency number is written for the signals 8 to 11 only. -/
def obsInfoForType1 (row : Row F) : Nat :=
  let info := (if row.smoothed then 0x01 else 0) ||| (if row.halfCycle then 0x04 else 0)
  let info :=
    if row.signalType ≥ 32 then info ||| (((row.signalType - 32) &&& 0x1F) <<< 3)
    else if row.signalType ∈ [8, 9, 10, 11] then
      match row.glonassFreqNumber with
      | some gloK => info ||| (((gloK + 8) % 32).toNat <<< 3)
      | none => info
    else info
  info &&& 0xFF

def encodeCodeFields (pseudorangeM : Option F) : Except PyError (Nat × Nat) :=
  match pseudorangeM with
  | none => .ok (0, 0)
  | some pseudorangeM => do
      let codeUnits ← intRound (mul pseudorangeM (ofRat 1000))
      if codeUnits ≤ 0 then return (0, 0)
      else return ((codeUnits.toNat >>> 32) &&& 0x0F, codeUnits.toNat &&& 0xFFFFFFFF)

def encodeDopplerRaw (dopplerHz : Option F) : Except PyError Int :=
  match dopplerHz with
  | none => .ok (-2147483648)
  | some dopplerHz => do
      let raw ← intRound (mul dopplerHz (ofRat 10000))
      return max (-2147483647) (min 2147483647 raw)

def encodeCarrierFields (row : Row F) (obsInfo : Nat) : Except PyError (Nat × Int) :=
  match row.pseudorangeM, row.carrierPhaseCycles with
  | some pseudorange, some carrierPhase =>
      match carrierFrequencyHz row.signalType obsInfo row.glonassFreqNumber with
      | none => .ok (0, -128)
      | some freq => do
          let wavelength ← divide lightSpeedMps freq
          let cycles ← divide pseudorange wavelength
          let relativeMcycles ← intRound (mul (sub carrierPhase cycles) (ofRat 1000))
          let carrierMsb := relativeMcycles / 65536
          let carrierLsb := relativeMcycles - carrierMsb * 65536
          if carrierMsb < -127 ∨ carrierMsb > 127 then return (0, -128)
          else return (carrierLsb.toNat &&& 0xFFFF, carrierMsb)
  | _, _ => .ok (0, -128)

def encodeType1Observation (row : Row F) : Except PyError (List Byte) := do
  let obsInfo := obsInfoForType1 row
  let (codeMsb, codeLsb) ← encodeCodeFields row.pseudorangeM
  let (carrierLsb, carrierMsb) ← encodeCarrierFields row obsInfo
  let cn0Raw := row.cn0Raw.getD 255
  let lockTime := min 65535 (row.lockTimeS.getD 65535)
  let dopplerRaw ← encodeDopplerRaw row.dopplerHz
  let fields ← [packB (row.rxChannel &&& 0xFF), packB (typeByteForObservation row),
    packB (row.svid &&& 0xFF), packB (codeMsb &&& 0x0F), packI codeLsb,
    packSignedI dopplerRaw, packH carrierLsb, packSignedB carrierMsb,
    packB (cn0Raw &&& 0xFF), packH lockTime, packB obsInfo, packB 0].mapM id
  return fields.flatten

def rowsByAntenna (rows : List (Row F)) : Dict Nat (List (Row F)) :=
  rows.foldl (fun grouped row => grouped.modify row.antennaId [] (· ++ [row])) ∅

def buildMeasEpochBody (rows : List (Row F)) : Except PyError (List Byte) :=
  match rows with
  | [] => .error (.valueError "cannot build MeasEpoch without observations")
  | first :: _ =>
      if rows.length > 255 then
        .error (.valueError s!"too many observations for one MeasEpoch: {rows.length}")
      else do
        let header ← [packI first.towMs, packH first.wnc, packB rows.length, packB 20,
          packB 12, packB (first.commonFlags &&& 0xFF),
          packB (first.cumClkJumpsMs &&& 0xFF), packB 0].mapM id
        let blocks ← rows.mapM encodeType1Observation
        return header.flatten ++ blocks.flatten

end AsterxDriver.Parser
