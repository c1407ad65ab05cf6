import AsterxDriver.Parser.BlockDecoders
import AsterxDriver.Parser.MeasEpochDecode

/-! # Truncated bodies

The decoders of blocks with two levels of sub-blocks, on a part of a body: their
rows are the first rows of the whole. -/

namespace AsterxDriver.Parser

open Foundation ByteString

/-- `body[:count]`. -/
def SbfFrame.truncated (frame : SbfFrame) (count : Nat) : SbfFrame :=
  { frame with body := frame.body.take count }

/-! ## One level -/

/-- The walk over a part stops early only if the part is too short for all
sub-blocks. -/
theorem subBlocks_truncated {short long sbLen : Nat} {parse parse' : Nat → Nat → Except PyError α}
    (le : short ≤ long)
    (same : ∀ idx off, off + sbLen ≤ short → parse idx off = parse' idx off)
    {count idx off : Nat} {rows all : List α}
    (part : subBlocks short sbLen parse count idx off = .ok rows)
    (whole : subBlocks long sbLen parse' count idx off = .ok all) :
    rows <+: all ∧ (rows = all ∨ short < off + count * sbLen) := by
  induction count generalizing idx off rows all with
  | zero =>
      cases part
      cases whole
      exact ⟨List.prefix_rfl, .inl rfl⟩
  | succ count induction =>
      rw [subBlocks] at part whole
      by_cases fits : off + sbLen ≤ short
      · rw [if_neg (by omega)] at part whole
        rcases Checked.bind_eq_ok.mp part with ⟨row, parsed, part⟩
        rcases Checked.bind_eq_ok.mp part with ⟨laterRows, laterPart, part⟩
        rcases Checked.bind_eq_ok.mp whole with ⟨row', parsed', whole⟩
        rcases Checked.bind_eq_ok.mp whole with ⟨laterAll, laterWhole, whole⟩
        cases part
        cases whole
        rw [same idx off fits, parsed'] at parsed
        cases parsed
        rcases induction laterPart laterWhole with ⟨begins, ends⟩
        refine ⟨List.cons_prefix_cons.mpr ⟨rfl, begins⟩, ?_⟩
        rcases ends with rfl | short
        · exact .inl rfl
        · right
          rw [Nat.succ_mul]
          omega
      · rw [if_pos (by omega)] at part
        cases part
        refine ⟨List.nil_prefix, .inr ?_⟩
        rw [Nat.succ_mul]
        omega

/-! ## MeasEpoch -/

theorem type1Fields_append {block : List Byte} (long : 20 ≤ block.length) (rest : List Byte) :
    type1Fields (block ++ rest) = type1Fields block := by
  simp (disch := omega) only [type1Fields, u8_append_left, u16le_append_left, u32le_append_left]

theorem type2Fields_append {block : List Byte} (long : 12 ≤ block.length) (rest : List Byte) :
    type2Fields (block ++ rest) = type2Fields block := by
  simp (disch := omega) only [type2Fields, u8_append_left, u16le_append_left]

section

variable {F : Type} [FloatArithmetic F] (frame : SbfFrame) (count : Nat)

/-- The part and what is behind it. -/
theorem truncated_append : (frame.truncated count).body ++ frame.body.drop count = frame.body :=
  List.take_append_drop ..

theorem length_truncated_le : (frame.truncated count).body.length ≤ frame.body.length :=
  List.length_take_le' ..

/-- A block that is in the part is the front of the same block in the whole. -/
theorem drop_truncated {off : Nat} (inside : off ≤ (frame.truncated count).body.length) :
    frame.body.drop off = (frame.truncated count).body.drop off ++ frame.body.drop count := by
  rw [← List.drop_append_of_le_length inside, truncated_append]

theorem u8_truncated {offset : Nat} (inside : offset < (frame.truncated count).body.length) :
    u8 (frame.truncated count).body offset = u8 frame.body offset := by
  rw [← truncated_append frame count, u8_append_left _ _ inside]

theorem readType1_truncated {off : Nat}
    (inside : off + 20 ≤ (frame.truncated count).body.length) :
    readType1 (frame.truncated count).body off = readType1 frame.body off := by
  have le := length_truncated_le frame count
  rw [readType1_eq inside, readType1_eq (inside.trans le),
    drop_truncated frame count (by omega), type1Fields_append]
  rw [List.length_drop]
  omega

theorem readType2_truncated {off : Nat}
    (inside : off + 12 ≤ (frame.truncated count).body.length) :
    readType2 (frame.truncated count).body off = readType2 frame.body off := by
  have le := length_truncated_le frame count
  rw [readType2_eq inside, readType2_eq (inside.trans le),
    drop_truncated frame count (by omega), type2Fields_append]
  rw [List.length_drop]
  omega

theorem parseType1_truncated {off : Nat}
    (inside : off + 20 ≤ (frame.truncated count).body.length) (epochIndex obsIndex : Nat)
    (header : EpochHeader) :
    parseType1Measurement (F := F) (frame.truncated count).body off epochIndex obsIndex
      (frame.truncated count) header =
    parseType1Measurement frame.body off epochIndex obsIndex frame header := by
  rw [parseType1Measurement, readType1_truncated frame count inside]
  rfl

theorem parseType2_truncated {off : Nat}
    (inside : off + 12 ≤ (frame.truncated count).body.length) (parent : ParsedRow F)
    (epochIndex obsIndex : Nat) (header : EpochHeader) :
    parseType2Measurement (frame.truncated count).body off parent epochIndex obsIndex
      (frame.truncated count) header =
    parseType2Measurement frame.body off parent epochIndex obsIndex frame header := by
  rw [parseType2Measurement, readType2_truncated frame count inside]
  rfl

/-- The inner loop is a walk over sub-blocks that are wide enough. -/
theorem type2Loop_eq_subBlocks {sb2Len : Nat} (wide : 12 ≤ sb2Len) (header : EpochHeader)
    (parent : ParsedRow F) (epochIndex count off obsIndex : Nat) :
    type2Loop frame header sb2Len parent epochIndex count off obsIndex =
      subBlocks frame.body.length sb2Len (fun obsIndex off =>
        parseType2Measurement frame.body off parent epochIndex obsIndex frame header)
        count obsIndex off := by
  induction count generalizing off obsIndex with
  | zero => rfl
  | succ count induction =>
      rw [type2Loop, subBlocks]
      by_cases fits : off + sb2Len > frame.body.length
      · rw [if_pos (.inr fits), if_pos fits]
      · rw [if_neg (by omega), if_neg fits]
        simp only [induction]

theorem type2Loop_of_lt {sb2Len : Nat} (narrow : sb2Len < 12) (header : EpochHeader)
    (parent : ParsedRow F) (epochIndex count off obsIndex : Nat) :
    type2Loop frame header sb2Len parent epochIndex count off obsIndex = .ok [] := by
  cases count with
  | zero => rfl
  | succ count => exact if_pos (.inl narrow)

theorem type2Loop_truncated {header : EpochHeader} {sb2Len : Nat} {parent : ParsedRow F}
    {epochIndex left off obsIndex : Nat} {rows all : List (ParsedRow F)}
    (part : type2Loop (frame.truncated count) header sb2Len parent epochIndex left off obsIndex =
      .ok rows)
    (whole : type2Loop frame header sb2Len parent epochIndex left off obsIndex = .ok all) :
    rows <+: all ∧
      (rows = all ∨ (frame.truncated count).body.length < off + left * sb2Len) := by
  by_cases narrow : sb2Len < 12
  · rw [type2Loop_of_lt _ narrow] at part whole
    cases part
    cases whole
    exact ⟨List.prefix_rfl, .inl rfl⟩
  · rw [type2Loop_eq_subBlocks _ (by omega)] at part whole
    refine subBlocks_truncated (length_truncated_le frame count) ?_ part whole
    intro obsIndex off fits
    exact parseType2_truncated frame count (by omega) parent epochIndex obsIndex header

/-- No satellite begins behind the end of the body. -/
theorem type1Loop_of_lt {header : EpochHeader} {sb1Len sb2Len left epochIndex off obsIndex : Nat}
    (behind : frame.body.length < off) :
    type1Loop (F := F) frame header sb1Len sb2Len left epochIndex off obsIndex = .ok [] := by
  cases left with
  | zero => rfl
  | succ left => exact if_pos (.inr (by omega))

theorem type1Loop_truncated {header : EpochHeader}
    {sb1Len sb2Len left epochIndex off obsIndex : Nat} {rows all : List (ParsedRow F)}
    (part : type1Loop (frame.truncated count) header sb1Len sb2Len left epochIndex off obsIndex =
      .ok rows)
    (whole : type1Loop frame header sb1Len sb2Len left epochIndex off obsIndex = .ok all) :
    rows <+: all := by
  induction left generalizing epochIndex off obsIndex rows all with
  | zero =>
      cases part
      exact List.nil_prefix
  | succ left induction =>
      have le := length_truncated_le frame count
      rw [type1Loop] at part whole
      by_cases stops : sb1Len < 20 ∨ off + sb1Len > (frame.truncated count).body.length
      · rw [if_pos stops] at part
        cases part
        exact List.nil_prefix
      · rw [if_neg stops, parseType1_truncated frame count (by omega)] at part
        rw [if_neg (by omega)] at whole
        rcases Checked.bind_eq_ok.mp part with ⟨parent, parsed, part⟩
        rw [byteAt_eq (by omega), u8_truncated frame count (by omega), Checked.ok_bind] at part
        rcases Checked.bind_eq_ok.mp part with ⟨children, partChildren, part⟩
        rcases Checked.bind_eq_ok.mp part with ⟨later, partLater, part⟩
        rcases Checked.bind_eq_ok.mp whole with ⟨parent', parsed', whole⟩
        rw [parsed] at parsed'
        cases parsed'
        rw [byteAt_eq (by omega), Checked.ok_bind] at whole
        rcases Checked.bind_eq_ok.mp whole with ⟨allChildren, wholeChildren, whole⟩
        rcases Checked.bind_eq_ok.mp whole with ⟨allLater, wholeLater, whole⟩
        cases part
        cases whole
        refine List.cons_prefix_cons.mpr ⟨rfl, ?_⟩
        rcases type2Loop_truncated frame count partChildren wholeChildren with
          ⟨begins, rfl | short⟩
        · exact (List.prefix_append_right_inj _).mpr (induction partLater wholeLater)
        · rw [type1Loop_of_lt _ (by omega)] at partLater
          cases partLater
          rw [List.append_nil]
          exact begins.trans (List.prefix_append ..)

end

/-- Truncation keeps a prefix of the rows of a MeasEpoch. -/
theorem decodeMeasEpoch_truncated (F : Type) [RoundedArithmetic F] (frame : SbfFrame)
    (count : Nat) : ∃ rows all : List (Row F),
      decodeMeasEpoch (frame.truncated count) = .ok rows ∧ decodeMeasEpoch frame = .ok all ∧
      rows <+: all := by
  rcases decodeMeasEpoch_spec (F := F) (frame.truncated count) with ⟨rows, part, _⟩
  rcases decodeMeasEpoch_spec (F := F) frame with ⟨all, whole, _⟩
  refine ⟨rows, all, part, whole, ?_⟩
  have le := length_truncated_le frame count
  by_cases long : 12 ≤ (frame.truncated count).body.length
  · have header : epochHeader (frame.truncated count).body = epochHeader frame.body := by
      rw [← truncated_append frame count]
      simp (disch := omega) only [epochHeader, u8_append_left, u16le_append_left,
        u32le_append_left]
    rw [decodeMeasEpoch_eq _ long, header, u8_truncated frame count (by omega),
      u8_truncated frame count (by omega), u8_truncated frame count (by omega)] at part
    rw [decodeMeasEpoch_eq _ (long.trans le)] at whole
    rcases Checked.bind_eq_ok.mp part with ⟨parsed, partLoop, returned⟩
    rcases Checked.bind_eq_ok.mp whole with ⟨allParsed, wholeLoop, allReturned⟩
    cases returned
    cases allReturned
    exact (type1Loop_truncated frame count partLoop wholeLoop).map ParsedRow.row
  · rw [decodeMeasEpoch, if_pos (by omega)] at part
    cases part
    exact List.nil_prefix

/-! ## ChannelStatus -/

/-- The field does not depend on what follows its bytes. -/
def Field.Local (field : Field) : Prop :=
  ∀ front back off, off + field.stop ≤ front.length →
    field.read (front ++ back) off = field.read front off

theorem Field.known_local {name : String} {cell : Cell} : (Field.known name cell).Local :=
  fun _ _ _ _ => rfl

theorem Field.byte_local {name : String} {offset : Nat} {cell : Nat → Cell} :
    (Field.byte name offset cell).Local := by
  intro front back off inside
  change off + (offset + 1) ≤ front.length at inside
  simp only [Field.byte]
  rw [byteAt_eq (by rw [List.length_append]; omega), byteAt_eq (by omega),
    u8_append_left _ _ (by omega)]

theorem Field.unpacked_local {α : Type} {name : String} {offset size : Nat}
    {value : List Byte → Nat → α} {cell : α → Cell}
    (reads : ∀ front back off, off + size ≤ front.length →
      value (front ++ back) off = value front off) :
    (Field.unpacked name offset size value cell).Local := by
  intro front back off inside
  change off + (offset + size) ≤ front.length at inside
  simp only [Field.unpacked]
  rw [unpackFrom_eq _ (by rw [List.length_append]; omega), unpackFrom_eq _ (by omega),
    reads _ _ _ (by omega)]

theorem Field.unpackedU16_local {name : String} {offset : Nat} {cell : Nat → Cell} :
    (Field.unpacked name offset 2 u16le cell).Local :=
  unpacked_local fun _ _ _ inside => u16le_append_left _ _ (by omega)

theorem Field.i8Dnu_local {name : String} {offset : Nat} : (Field.i8Dnu name offset).Local :=
  unpacked_local fun _ _ _ inside => by rw [u8_append_left _ _ (by omega)]

theorem satelliteFields_local (header : SubBlockHeader) (satIdx : Nat) :
    ∀ field ∈ satelliteFields header satIdx, field.Local := by
  simp only [satelliteFields, timeFields, List.cons_append, List.nil_append,
    List.forall_mem_cons]
  exact ⟨Field.known_local, Field.known_local, Field.known_local, Field.byte_local,
    Field.unpackedU16_local, Field.byte_local, Field.unpackedU16_local,
    Field.unpackedU16_local, Field.unpackedU16_local, Field.i8Dnu_local,
    Field.byte_local, nofun⟩

theorem channelStateFields_local (stateIdx : Nat) :
    ∀ field ∈ channelStateFields stateIdx, field.Local := by
  simp only [channelStateFields, List.forall_mem_cons]
  exact ⟨Field.known_local, Field.byte_local, Field.byte_local,
    Field.unpackedU16_local, Field.unpackedU16_local, Field.unpackedU16_local,
    nofun⟩

theorem readFields_append {fields : List Field} {size : Nat}
    (areLocal : ∀ field ∈ fields, field.Local) (stops : ∀ field ∈ fields, field.stop ≤ size)
    {front : List Byte} {off : Nat} (inside : off + size ≤ front.length) (back : List Byte)
    (row : CsvRow) :
    readFields fields (front ++ back) off row = readFields fields front off row := by
  refine Checked.foldlM_congr ?_ row
  intro row field member
  rw [areLocal field member front back off (by have := stops field member; omega)]

section

variable (frame : SbfFrame) (count : Nat)

theorem readFields_truncated {fields : List Field} {size off : Nat}
    (areLocal : ∀ field ∈ fields, field.Local) (stops : ∀ field ∈ fields, field.stop ≤ size)
    (inside : off + size ≤ (frame.truncated count).body.length) (row : CsvRow) :
    readFields fields (frame.truncated count).body off row =
      readFields fields frame.body off row := by
  rw [← readFields_append areLocal stops inside (frame.body.drop count) row,
    truncated_append]

/-- No satellite begins behind the end of the body. -/
theorem satelliteLoop_of_lt {body : List Byte} {header : SubBlockHeader}
    {sb2Len left satIdx off : Nat} (behind : body.length < off) :
    satelliteLoop body header sb2Len left satIdx off = .ok [] := by
  cases left with
  | zero => rfl
  | succ left => exact if_pos (by omega)

theorem satelliteLoop_truncated {header : SubBlockHeader} {sb2Len left satIdx off : Nat}
    (wide : 12 ≤ header.sbLen) (wide2 : 8 ≤ sb2Len) {rows all : List CsvRow}
    (part : satelliteLoop (frame.truncated count).body header sb2Len left satIdx off = .ok rows)
    (whole : satelliteLoop frame.body header sb2Len left satIdx off = .ok all) :
    rows <+: all := by
  induction left generalizing satIdx off rows all with
  | zero =>
      cases part
      exact List.nil_prefix
  | succ left induction =>
      have le := length_truncated_le frame count
      rw [satelliteLoop] at part whole
      by_cases stops : off + header.sbLen > (frame.truncated count).body.length
      · rw [if_pos stops] at part
        cases part
        exact List.nil_prefix
      · rw [if_neg stops, readFields_truncated frame count (satelliteFields_local header satIdx)
          (stop_le rfl) (show off + 12 ≤ _ by omega)] at part
        rw [if_neg (by omega)] at whole
        rcases Checked.bind_eq_ok.mp part with ⟨satellite, read, part⟩
        rw [byteAt_eq (by omega), u8_truncated frame count (by omega), Checked.ok_bind] at part
        rcases Checked.bind_eq_ok.mp part with ⟨states, partStates, part⟩
        rcases Checked.bind_eq_ok.mp part with ⟨later, partLater, part⟩
        rcases Checked.bind_eq_ok.mp whole with ⟨satellite', read', whole⟩
        rw [read] at read'
        cases read'
        rw [byteAt_eq (by omega), Checked.ok_bind] at whole
        rcases Checked.bind_eq_ok.mp whole with ⟨allStates, wholeStates, whole⟩
        rcases Checked.bind_eq_ok.mp whole with ⟨allLater, wholeLater, whole⟩
        cases part
        cases whole
        have same : ∀ stateIdx stateOff, stateOff + sb2Len ≤ (frame.truncated count).body.length →
            readFields (channelStateFields stateIdx) (frame.truncated count).body stateOff
              satellite =
            readFields (channelStateFields stateIdx) frame.body stateOff satellite := by
          intro stateIdx stateOff fits
          exact readFields_truncated frame count (channelStateFields_local stateIdx)
            (stop_le rfl) (show stateOff + 8 ≤ _ by omega) satellite
        rcases subBlocks_truncated le same partStates wholeStates with ⟨begins, rfl | short⟩
        · exact (List.prefix_append_right_inj _).mpr (induction partLater wholeLater)
        · rw [satelliteLoop_of_lt (by omega)] at partLater
          cases partLater
          rw [List.append_nil]
          exact begins.trans (List.prefix_append ..)

/-- Truncation keeps a prefix of the rows of a ChannelStatus. -/
theorem decodeChannelStatus_truncated : ∃ rows all,
    decodeChannelStatus (frame.truncated count) = .ok rows ∧ decodeChannelStatus frame = .ok all ∧
    rows <+: all := by
  rcases decodeChannelStatus_ok (frame.truncated count) with ⟨rows, part⟩
  rcases decodeChannelStatus_ok frame with ⟨all, whole⟩
  refine ⟨rows, all, part, whole, ?_⟩
  have le := length_truncated_le frame count
  by_cases long : 12 ≤ (frame.truncated count).body.length
  · have header : readSubBlockHeader (frame.truncated count).body =
        readSubBlockHeader frame.body := by
      rw [readSubBlockHeader_ok (by omega), readSubBlockHeader_ok (by omega),
        ← truncated_append frame count]
      simp (disch := omega) only [u8_append_left, u16le_append_left, u32le_append_left]
    rw [decodeChannelStatus, if_neg (by omega), header, readSubBlockHeader_ok (by omega),
      Checked.ok_bind, byteAt_eq (by omega), u8_truncated frame count (by omega),
      Checked.ok_bind] at part
    rw [decodeChannelStatus, if_neg (by omega), readSubBlockHeader_ok (by omega),
      Checked.ok_bind, byteAt_eq (by omega), Checked.ok_bind] at whole
    split at part
    · cases part
      exact List.nil_prefix
    · rename_i wide
      rw [if_neg wide] at whole
      exact satelliteLoop_truncated frame count (by omega) (by omega) part whole
  · rw [decodeChannelStatus, if_pos (by omega)] at part
    cases part
    exact List.nil_prefix

end

end AsterxDriver.Parser
