import AsterxDriver.Parser.Truncation

/-! # The layout of a MeasEpoch

What decoding makes of satellites and their other signals, laid out as the format
says: sub-blocks may be longer than the bytes that are known of them. -/

namespace AsterxDriver.Parser

open Foundation ByteString

/-! ## Layout -/

/-- A Type-2 sub-block: the known bytes and what may follow them. -/
structure Type2Record (sb2Len : Nat) where
  known : List Byte
  extra : List Byte
  knownLength : known.length = 12
  length : known.length + extra.length = sb2Len

def Type2Record.bytes {sb2Len : Nat} (record : Type2Record sb2Len) : List Byte :=
  record.known ++ record.extra

/-- A Type-1 sub-block, whose 20th known byte counts its children. -/
structure Type1Record (sb1Len sb2Len : Nat) where
  front : List Byte
  extra : List Byte
  children : List (Type2Record sb2Len)
  frontLength : front.length = 19
  length : front.length + 1 + extra.length = sb1Len
  few : children.length ≤ 255

namespace Type1Record

variable {sb1Len sb2Len : Nat} (record : Type1Record sb1Len sb2Len)

def known : List Byte := record.front ++ [BitVec.ofNat 8 record.children.length]

def bytes : List Byte := record.known ++ record.extra ++ record.children.flatMap (·.bytes)

end Type1Record

/-- A whole body: TOW and WNc, the counts, the other header bytes, the sub-blocks
and the padding. -/
structure EpochLayout where
  sb1Len : Nat
  sb2Len : Nat
  time : List Byte
  flags : List Byte
  records : List (Type1Record sb1Len sb2Len)
  padding : List Byte
  timeLength : time.length = 6
  flagsLength : flags.length = 3
  wide1 : 20 ≤ sb1Len ∧ sb1Len ≤ 255
  wide2 : 12 ≤ sb2Len ∧ sb2Len ≤ 255
  few : records.length ≤ 255

def EpochLayout.bytes (layout : EpochLayout) : List Byte :=
  layout.time ++ [BitVec.ofNat 8 layout.records.length, BitVec.ofNat 8 layout.sb1Len,
    BitVec.ofNat 8 layout.sb2Len] ++ layout.flags ++
    (layout.records.flatMap (·.bytes) ++ layout.padding)

/-! ## Expected rows -/

/-- The place of a row in its block and its raw fields. -/
structure Place where
  epochIndex : Nat
  obsIndex : Nat
  level : Nat
  parentObsIndex : Option Nat
  rxChannel : Nat
  svid : Nat
  rawType : Nat
  cn0Raw : Option Nat
  lockTimeS : Option Nat
  obsInfo : Nat
  deriving DecidableEq, Repr

def Row.place {F : Type} (row : Row F) : Place where
  epochIndex := row.epochIndex
  obsIndex := row.obsIndex
  level := row.level
  parentObsIndex := row.parentObsIndex
  rxChannel := row.rxChannel
  svid := row.svid
  rawType := row.rawType
  cn0Raw := row.cn0Raw
  lockTimeS := row.lockTimeS
  obsInfo := row.obsInfo

/-- What the first 20 bytes of a Type-1 sub-block say. -/
def type1Place (known : List Byte) (epochIndex obsIndex : Nat) : Place where
  epochIndex := epochIndex
  obsIndex := obsIndex
  level := 1
  parentObsIndex := none
  rxChannel := u8 known 0
  svid := u8 known 2
  rawType := u8 known 1
  cn0Raw := dnuU (u8 known 15) 255
  lockTimeS := dnuU (u16le known 16) 65535
  obsInfo := u8 known 18

/-- What the first 12 bytes of a Type-2 sub-block say, and its parent. -/
def type2Place (known : List Byte) (parent : Place) (obsIndex : Nat) : Place where
  epochIndex := parent.epochIndex
  obsIndex := obsIndex
  level := 2
  parentObsIndex := some parent.obsIndex
  rxChannel := parent.rxChannel
  svid := parent.svid
  rawType := u8 known 0
  cn0Raw := dnuU (u8 known 2) 255
  lockTimeS := dnuU (u8 known 1) 255
  obsInfo := u8 known 5

section

variable {sb1Len sb2Len : Nat}

/-- The children of a row, counted from an index on. -/
def childPlaces (children : List (Type2Record sb2Len)) (parent : Place) (obsIndex : Nat) :
    List Place :=
  children.mapIdx fun k child => type2Place child.known parent (obsIndex + k)

/-- Each satellite is followed by its children. -/
def places : List (Type1Record sb1Len sb2Len) → Nat → Nat → List Place
  | [], _, _ => []
  | record :: later, epochIndex, obsIndex =>
      let parent := type1Place record.known epochIndex obsIndex
      parent :: (childPlaces record.children parent (obsIndex + 1) ++
        places later (epochIndex + 1) (obsIndex + 1 + record.children.length))

theorem childPlaces_cons (child : Type2Record sb2Len) (later : List (Type2Record sb2Len))
    (parent : Place) (obsIndex : Nat) :
    childPlaces (child :: later) parent obsIndex =
      type2Place child.known parent obsIndex :: childPlaces later parent (obsIndex + 1) := by
  rw [childPlaces, List.mapIdx_cons, childPlaces]
  simp only [Nat.add_zero, Nat.add_comm 1, Nat.add_assoc]

theorem map_obsIndex_childPlaces (children : List (Type2Record sb2Len)) (parent : Place)
    (obsIndex : Nat) :
    (childPlaces children parent obsIndex).map Place.obsIndex =
      List.range' obsIndex children.length := by
  induction children generalizing obsIndex with
  | nil => rfl
  | cons child later induction =>
      rw [childPlaces_cons, List.map_cons, induction, List.length_cons, List.range'_succ]
      rfl

/-- The index of a row is its position. -/
theorem map_obsIndex_places (records : List (Type1Record sb1Len sb2Len))
    (epochIndex obsIndex : Nat) :
    (places records epochIndex obsIndex).map Place.obsIndex =
      List.range' obsIndex (places records epochIndex obsIndex).length := by
  induction records generalizing epochIndex obsIndex with
  | nil => rfl
  | cons record later induction =>
      simp only [places, List.map_cons, List.map_append, map_obsIndex_childPlaces, induction,
        List.length_cons, List.length_append, List.range'_succ]
      have children : (childPlaces record.children
          (type1Place record.known epochIndex obsIndex) (obsIndex + 1)).length =
          record.children.length := List.length_mapIdx
      rw [children, List.range'_append_1]
      rfl

/-! ## Decoding -/

theorem Type1Record.length_known (record : Type1Record sb1Len sb2Len) :
    record.known.length = 20 := by
  rw [Type1Record.known, List.length_append, record.frontLength]
  rfl

/-- The last known byte is the number of children. -/
theorem Type1Record.u8_known (record : Type1Record sb1Len sb2Len) :
    u8 record.known 19 = record.children.length := by
  have last := u8_append_right record.front [BitVec.ofNat 8 record.children.length] 0
  rw [record.frontLength] at last
  rw [Type1Record.known]
  refine last.trans ?_
  have few := record.few
  simp only [u8_cons_zero, BitVec.toNat_ofNat]
  omega

variable {F : Type} [RoundedArithmetic F]

theorem place_type1Parse {fields : Type1Fields} {epochIndex obsIndex : Nat} {frame : SbfFrame}
    {header : EpochHeader} {parsed : ParsedRow F} {known : List Byte}
    (same : fields = type1Fields known)
    (parses : fields.parse epochIndex obsIndex frame header = .ok parsed) :
    parsed.row.place = type1Place known epochIndex obsIndex := by
  rcases Checked.bind_eq_ok.mp parses with ⟨phase, _, returned⟩
  cases returned
  subst same
  rfl

theorem place_type2Parse {fields : Type2Fields} {parent : ParsedRow F} {obsIndex : Nat}
    {frame : SbfFrame} {header : EpochHeader} {parsed : ParsedRow F} {known : List Byte}
    (same : fields = type2Fields known)
    (parses : fields.parse parent parent.row.epochIndex obsIndex frame header = .ok parsed) :
    parsed.row.place = type2Place known parent.row.place obsIndex := by
  rcases Checked.bind_eq_ok.mp parses with ⟨doppler, _, rest⟩
  rcases Checked.bind_eq_ok.mp rest with ⟨phase, _, returned⟩
  cases returned
  subst same
  rfl

theorem type2Loop_children (frame : SbfFrame) {header : EpochHeader} (valid : header.Valid)
    {parent : ParsedRow F} (sound : parent.Sound (2 ^ 36) (2 ^ 31))
    {children : List (Type2Record sb2Len)} {off : Nat} (obsIndex : Nat) {rest : List Byte}
    (there : frame.body.drop off = children.flatMap (·.bytes) ++ rest) :
    ∃ rows : List (ParsedRow F),
      type2Loop frame header sb2Len parent parent.row.epochIndex children.length off obsIndex =
        .ok rows ∧
      rows.map (·.row.place) = childPlaces children parent.row.place obsIndex ∧
      frame.body.drop (off + children.length * sb2Len) = rest := by
  induction children generalizing off obsIndex with
  | nil =>
      refine ⟨[], rfl, rfl, ?_⟩
      rw [List.length_nil, Nat.zero_mul, Nat.add_zero, there]
      rfl
  | cons child later induction =>
      rw [List.flatMap_cons, Type2Record.bytes, List.append_assoc, List.append_assoc] at there
      have length := congrArg List.length there
      rw [List.length_drop, List.length_append, List.length_append] at length
      have childLength := child.length
      have childKnown := child.knownLength
      have fields : type2Fields (frame.body.drop off) = type2Fields child.known := by
        rw [there, type2Fields_append (by omega)]
      have next : frame.body.drop (off + sb2Len) = later.flatMap (·.bytes) ++ rest := by
        rw [← List.drop_drop, there, ← List.append_assoc, List.drop_left']
        rw [List.length_append, childLength]
      rcases Type2Fields.parse_spec (type2Fields_fits (frame.body.drop off)) sound
        parent.row.epochIndex obsIndex frame valid with ⟨row, parsed, _, _⟩
      rcases induction (obsIndex + 1) next with ⟨rows, result, rowPlaces, behind⟩
      refine ⟨row :: rows, ?_, ?_, ?_⟩
      · rw [List.length_cons, type2Loop, if_neg (by omega), parseType2Measurement,
          readType2_eq (by omega), Checked.ok_bind, parsed, Checked.ok_bind, result]
        rfl
      · rw [List.map_cons, childPlaces_cons, place_type2Parse fields parsed, rowPlaces]
      · rw [← behind, List.length_cons, Nat.succ_mul]
        congr 1
        omega

theorem type1Loop_records (frame : SbfFrame) {header : EpochHeader} (valid : header.Valid)
    {records : List (Type1Record sb1Len sb2Len)} {off : Nat} (epochIndex obsIndex : Nat)
    {rest : List Byte}
    (there : frame.body.drop off = records.flatMap (·.bytes) ++ rest) :
    ∃ rows : List (ParsedRow F),
      type1Loop frame header sb1Len sb2Len records.length epochIndex off obsIndex = .ok rows ∧
      rows.map (·.row.place) = places records epochIndex obsIndex := by
  induction records generalizing off epochIndex obsIndex with
  | nil => exact ⟨[], rfl, rfl⟩
  | cons record later induction =>
      rw [List.flatMap_cons, Type1Record.bytes, List.append_assoc, List.append_assoc,
        List.append_assoc] at there
      have length := congrArg List.length there
      rw [List.length_drop, List.length_append, List.length_append] at length
      have recordLength := record.length
      have frontLength := record.frontLength
      have knownLength := record.length_known
      have fields : type1Fields (frame.body.drop off) = type1Fields record.known := by
        rw [there, type1Fields_append (by omega)]
      have count : u8 frame.body (off + 19) = record.children.length := by
        rw [← u8_drop, there, u8_append_left _ _ (by omega), record.u8_known]
      have inner : frame.body.drop (off + sb1Len) =
          record.children.flatMap (·.bytes) ++ (later.flatMap (·.bytes) ++ rest) := by
        rw [← List.drop_drop, there, ← List.append_assoc, List.drop_left']
        rw [List.length_append]
        omega
      rcases Type1Fields.parse_spec (F := F) (type1Fields_fits (frame.body.drop off)) epochIndex
        obsIndex frame valid with ⟨parent, parsed, _, _, sound⟩
      have parentPlace := place_type1Parse fields parsed
      have sameEpoch : parent.row.epochIndex = epochIndex := congrArg Place.epochIndex parentPlace
      rcases type2Loop_children frame valid sound (obsIndex + 1) inner with
        ⟨children, childrenResult, childrenPlaces, next⟩
      rw [sameEpoch] at childrenResult
      have childCount : children.length = record.children.length := by
        have lengths := congrArg List.length childrenPlaces
        rw [childPlaces, List.length_map, List.length_mapIdx] at lengths
        exact lengths
      rw [Nat.add_assoc] at next
      rcases induction (epochIndex + 1) (obsIndex + 1 + record.children.length) next with
        ⟨rows, result, rowPlaces⟩
      refine ⟨parent :: (children ++ rows), ?_, ?_⟩
      · rw [List.length_cons, type1Loop, if_neg (by omega), parseType1Measurement,
          readType1_eq (by omega), Checked.ok_bind, parsed, Checked.ok_bind,
          byteAt_eq (by omega), count, Checked.ok_bind, childrenResult, Checked.ok_bind,
          childCount, result]
        rfl
      · rw [List.map_cons, List.map_append, childrenPlaces, rowPlaces, parentPlace]
        rfl

end

theorem EpochLayout.length_front (layout : EpochLayout) :
    (layout.time ++ [BitVec.ofNat 8 layout.records.length, BitVec.ofNat 8 layout.sb1Len,
      BitVec.ofNat 8 layout.sb2Len] ++ layout.flags).length = 12 := by
  rw [List.length_append, List.length_append, layout.timeLength, layout.flagsLength]
  rfl

/-- The bytes of the header that count. -/
theorem EpochLayout.u8_counts (layout : EpochLayout) :
    u8 layout.bytes 6 = layout.records.length ∧ u8 layout.bytes 7 = layout.sb1Len ∧
      u8 layout.bytes 8 = layout.sb2Len := by
  have few := layout.few
  have wide1 := layout.wide1
  have wide2 := layout.wide2
  have shifted : ∀ k, u8 layout.bytes (6 + k) = u8 ([BitVec.ofNat 8 layout.records.length,
      BitVec.ofNat 8 layout.sb1Len, BitVec.ofNat 8 layout.sb2Len] ++ (layout.flags ++
      (layout.records.flatMap (·.bytes) ++ layout.padding))) k := by
    intro k
    rw [EpochLayout.bytes, List.append_assoc, List.append_assoc, ← layout.timeLength,
      u8_append_right]
  rw [shifted 0, shifted 1, shifted 2]
  simp only [List.cons_append, u8_cons_zero, u8_cons_succ, BitVec.toNat_ofNat]
  omega

/-- Decoding is exact on every layout, and truncation keeps a prefix of the rows. -/
theorem decoding_exact_and_monotone (F : Type) [RoundedArithmetic F] (frame : SbfFrame) :
    (∀ layout : EpochLayout, ∃ rows : List (Row F),
      decodeMeasEpoch { frame with body := layout.bytes } = .ok rows ∧
      rows.map Row.place = places layout.records 0 0 ∧
      rows.map Row.obsIndex = List.range rows.length) ∧
    (∀ count, ∃ rows all : List (Row F),
      decodeMeasEpoch (frame.truncated count) = .ok rows ∧ decodeMeasEpoch frame = .ok all ∧
      rows <+: all) ∧
    ∀ count, ∃ rows all,
      decodeChannelStatus (frame.truncated count) = .ok rows ∧
      decodeChannelStatus frame = .ok all ∧ rows <+: all := by
  refine ⟨?_, decodeMeasEpoch_truncated F frame, decodeChannelStatus_truncated frame⟩
  intro layout
  rcases layout.u8_counts with ⟨count, sb1Len, sb2Len⟩
  have there : layout.bytes.drop 12 = layout.records.flatMap (·.bytes) ++ layout.padding :=
    List.drop_left' layout.length_front
  have long : 12 ≤ layout.bytes.length := by
    rw [EpochLayout.bytes, List.length_append, layout.length_front]
    exact Nat.le_add_right ..
  rcases type1Loop_records (F := F) { frame with body := layout.bytes }
    (epochHeader_valid layout.bytes) 0 0 there with
    ⟨parsed, result, rowPlaces⟩
  have placed : (parsed.map ParsedRow.row).map Row.place = places layout.records 0 0 := by
    rw [List.map_map]
    exact rowPlaces
  refine ⟨parsed.map ParsedRow.row, ?_, placed, ?_⟩
  · rw [decodeMeasEpoch_eq _ long, sb1Len, sb2Len, count, result]
    rfl
  · have indices := map_obsIndex_places layout.records 0 0
    rw [← placed, List.map_map, List.length_map] at indices
    rw [List.range_eq_range']
    exact indices

end AsterxDriver.Parser
