import AsterxDriver.Parser.BlockDecoders
import AsterxDriver.Parser.MeasEpochDecode
import AsterxDriver.Parser.MeasExtraDecode

/-! # What the block decoders return

Every decoder returns, whatever the body holds, and the two decoders of IMU
blocks agree. -/

namespace AsterxDriver.Parser

open Foundation ByteString

/-! ## All decoders -/

/-- No read leaves the body and nothing is divided by zero. -/
theorem block_decoders_return (F : Type) [RoundedArithmetic F] (ofSingle : Nat → F)
    (frame : SbfFrame) :
    (∃ rows : List (Row F), decodeMeasEpoch frame = .ok rows) ∧
      (∃ rows, decodeMeasExtra ofSingle frame = .ok rows) ∧
      (∃ rows, decodeExtSensorMeas frame = .ok rows) ∧
      (∃ row, decodeExtSensorMeasEpoch frame = .ok row) ∧
      (∃ row, decodeAttEuler frame = .ok row) ∧
      (∃ row, decodeAttCovEuler frame = .ok row) ∧
      (∃ rows, decodeAuxAntPositions frame = .ok rows) ∧
      (∃ row, decodeImuSetup frame = .ok row) ∧
      (∃ rows, decodeQualityInd frame = .ok rows) ∧
      (∃ row, decodeReceiverTime frame = .ok row) ∧
      (∃ rows, decodeReceiverStatus frame = .ok rows) ∧
      (∃ rows, decodeChannelStatus frame = .ok rows) ∧
      (∃ row, decodeExtSensorStatus frame = .ok row) ∧
      (∃ row, decodeExtSensorInfo frame = .ok row) ∧
      (∃ row, rawBlockRow frame = .ok row) ∧
      ∃ parts, measExtraSubblocks frame = .ok parts := by
  have measEpoch : ∃ rows : List (Row F), decodeMeasEpoch frame = .ok rows := by
    rcases decodeMeasEpoch_spec (F := F) frame with ⟨rows, result, _⟩
    exact ⟨rows, result⟩
  exact ⟨measEpoch, decodeMeasExtra_ok ofSingle frame, decodeExtSensorMeas_ok frame,
    decodeExtSensorMeasEpoch_ok frame, decodeAttEuler_ok frame, decodeAttCovEuler_ok frame,
    decodeAuxAntPositions_ok frame, decodeImuSetup_ok frame, decodeQualityInd_ok frame,
    decodeReceiverTime_ok frame, decodeReceiverStatus_ok frame, decodeChannelStatus_ok frame,
    decodeExtSensorStatus_ok frame, decodeExtSensorInfo_ok frame, rawBlockRow_ok frame,
    ⟨_, measExtraSubblocks_eq frame⟩⟩

/-! ## IMU rows -/

/-- The fields of one IMU row. -/
def imuFields (tow wnc : Nat) : List Field :=
  timeFields tow wnc ++
    [.u8 "source" 0, .u8 "sensor_model" 1, .u8 "meas_type" 2,
      .byte "meas_type_name" 2 fun measType => .text (measTypeName measType),
      .f64 "x" 4, .f64 "y" 12, .f64 "z" 20]

/-- The eight bytes at `offset`. -/
def doubleAt (body : List Byte) (offset : Nat) : Cell := .float (.double (u64le body offset))

/-- What a row tells of the sub-block at `off`. -/
structure IsImuRow (tow wnc : Nat) (body : List Byte) (off : Nat) (row : CsvRow) : Prop where
  tow : row.get "tow_ms" = .int tow
  wnc : row.get "wnc" = .int wnc
  measType : row.get "meas_type" = .int (u8 body (off + 2))
  x : row.get "x" = doubleAt body (off + 4)
  y : row.get "y" = doubleAt body (off + 12)
  z : row.get "z" = doubleAt body (off + 20)

theorem readFields_imu {body : List Byte} {off : Nat} (inside : off + 28 ≤ body.length)
    (tow wnc : Nat) :
    ∃ row, readFields (imuFields tow wnc) body off ∅ = .ok row ∧
      IsImuRow tow wnc body off row := by
  obtain ⟨row, read⟩ : ∃ row, readFields (imuFields tow wnc) body off ∅ = .ok row :=
    readFields_fits 28 rfl inside ∅
  refine ⟨row, read, ?_⟩
  have distinct : ((imuFields tow wnc).map Field.name).Nodup := by
    change ["tow_ms", "wnc", "source", "sensor_model", "meas_type", "meas_type_name", "x", "y",
      "z"].Nodup
    decide
  have cells := (readFields_get distinct read).1
  have double : ∀ (name : String) (offset : Nat), Field.f64 name offset ∈ imuFields tow wnc →
      offset + 8 ≤ 28 → row.get name = doubleAt body (off + offset) := by
    intro name offset member small
    have found := cells _ member
    simp only [Field.f64, Field.unpacked] at found
    rw [unpackFrom_eq _ (by omega)] at found
    exact (Except.ok.inj found).symm
  have towCell := cells (.known "tow_ms" (.int tow)) (by simp [imuFields, timeFields])
  have wncCell := cells (.known "wnc" (.int wnc)) (by simp [imuFields, timeFields])
  have measType := cells (Field.u8 "meas_type" 2) (by simp [imuFields])
  simp only [Field.u8, Field.byte] at measType
  rw [byteAt_eq (by omega)] at measType
  exact
    { tow := (Except.ok.inj towCell).symm
      wnc := (Except.ok.inj wncCell).symm
      measType := (Except.ok.inj measType).symm
      x := double "x" 4 (by simp [imuFields]) (by omega)
      y := double "y" 12 (by simp [imuFields]) (by omega)
      z := double "z" 20 (by simp [imuFields]) (by omega) }

theorem decodeExtSensorMeas_eq {frame : SbfFrame} (long : 8 ≤ frame.body.length)
    (wide : 28 ≤ u8 frame.body 7) :
    decodeExtSensorMeas frame = subBlocks frame.body.length (u8 frame.body 7)
      (fun _ off => readFields (imuFields (u32le frame.body 0) (u16le frame.body 4)) frame.body
        off ∅) (u8 frame.body 6) 0 8 := by
  rw [decodeExtSensorMeas, if_neg (by omega), readSubBlockHeader_ok long, Checked.ok_bind,
    if_neg (not_lt.mpr wide)]
  rfl

/-! ## IMU epochs -/

/-- A column of the epoch row, and where its value comes from. -/
structure ImuColumn where
  measType : Nat
  name : String
  key : String
  offset : Nat
  deriving DecidableEq

def imuColumns : List ImuColumn :=
  [⟨0, "Acc_X[m/s^2]", "x", 4⟩, ⟨0, "Acc_Y[m/s^2]", "y", 12⟩, ⟨0, "Acc_Z[m/s^2]", "z", 20⟩,
    ⟨1, "Gyro_X[deg/s]", "x", 4⟩, ⟨1, "Gyro_Y[deg/s]", "y", 12⟩, ⟨1, "Gyro_Z[deg/s]", "z", 20⟩]

/-- The fields that a sub-block of this type sets. -/
def columnFields (measType : Nat) : List Field :=
  (imuColumns.filter (·.measType = measType)).map fun column => .f64 column.name column.offset

theorem IsImuRow.column {tow wnc : Nat} {body : List Byte} {off : Nat} {row : CsvRow}
    (isRow : IsImuRow tow wnc body off row) {column : ImuColumn} (member : column ∈ imuColumns) :
    row.get column.key = doubleAt body (off + column.offset) := by
  simp only [imuColumns, List.mem_cons, List.not_mem_nil, or_false] at member
  rcases member with rfl | rfl | rfl | rfl | rfl | rfl
  · exact isRow.x
  · exact isRow.y
  · exact isRow.z
  · exact isRow.x
  · exact isRow.y
  · exact isRow.z

theorem nodup_imuColumns : (imuColumns.map ImuColumn.name).Nodup := by decide

theorem offset_imuColumns : ∀ column ∈ imuColumns, column.offset + 8 ≤ 28 := by decide

/-- A sub-block sets the columns of its own type. -/
theorem readFields_columns {body : List Byte} {off : Nat} (inside : off + 28 ≤ body.length)
    (measType : Nat) (before : CsvRow) :
    ∃ after, readFields (columnFields measType) body off before = .ok after ∧
      (∀ column ∈ imuColumns, after.get column.name =
        if column.measType = measType then doubleAt body (off + column.offset)
        else before.get column.name) ∧
      ∀ key ∉ imuColumns.map ImuColumn.name, after.get key = before.get key := by
  have names : (columnFields measType).map Field.name =
      (imuColumns.filter (·.measType = measType)).map ImuColumn.name := by
    rw [columnFields, List.map_map]
    rfl
  have subset : ((columnFields measType).map Field.name).Sublist
      (imuColumns.map ImuColumn.name) := by
    rw [names]
    exact List.filter_sublist.map _
  have stops : ∀ field ∈ columnFields measType, off + field.stop ≤ body.length := by
    intro field member
    rcases List.mem_map.mp member with ⟨column, found, rfl⟩
    have small := offset_imuColumns column (List.mem_filter.mp found).1
    change off + (column.offset + 8) ≤ body.length
    omega
  rcases readFields_ok stops before with ⟨after, read⟩
  rcases readFields_get (nodup_imuColumns.sublist subset) read with ⟨cells, others⟩
  refine ⟨after, read, ?_, fun key absent => others key fun member => absent (subset.subset member)⟩
  intro column member
  split
  · rename_i same
    have found := cells (.f64 column.name column.offset)
      (List.mem_map.mpr ⟨column, List.mem_filter.mpr ⟨member, by simpa using same⟩, rfl⟩)
    have stop := stops (.f64 column.name column.offset)
      (List.mem_map.mpr ⟨column, List.mem_filter.mpr ⟨member, by simpa using same⟩, rfl⟩)
    simp only [Field.f64, Field.unpacked] at found stop
    rw [unpackFrom_eq _ (by omega)] at found
    exact (Except.ok.inj found).symm
  · rename_i different
    apply others
    rw [names]
    intro found
    rcases List.mem_map.mp found with ⟨other, otherMember, sameName⟩
    rcases List.mem_filter.mp otherMember with ⟨otherMember, sameType⟩
    have same : other = column :=
      List.inj_on_of_nodup_map nodup_imuColumns otherMember member sameName
    rw [same] at sameType
    exact different (by simpa using sameType)

/-- A sub-block that fits sets the columns of its type; other types set none. -/
theorem extSensorMeasEpochLoop_inside {body : List Byte} {sbLen off : Nat} (wide : 28 ≤ sbLen)
    (inside : off + sbLen ≤ body.length) (count : Nat) (row : CsvRow) :
    extSensorMeasEpochLoop body sbLen (count + 1) off row =
      (readFields (columnFields (u8 body (off + 2))) body off row >>=
        extSensorMeasEpochLoop body sbLen count (off + sbLen)) := by
  rw [extSensorMeasEpochLoop, if_neg (by omega), byteAt_eq (by omega), Checked.ok_bind]
  generalize u8 body (off + 2) = measType
  dsimp only
  split
  · rename_i acceleration
    rw [acceleration]
    rfl
  · split
    · rename_i rate
      rw [rate]
      rfl
    · rename_i noAcceleration noRate
      have none : columnFields measType = [] := by
        simp [columnFields, imuColumns, Ne.symm noAcceleration, Ne.symm noRate]
      rw [none]
      rfl

/-- The last row of a type. -/
def lastRow (measType : Nat) (rows : List CsvRow) : Option CsvRow :=
  (rows.filter (·.get "meas_type" = .int measType)).getLast?

theorem lastRow_cons (measType : Nat) (row : CsvRow) (later : List CsvRow) :
    lastRow measType (row :: later) =
      if row.get "meas_type" = .int measType then some ((lastRow measType later).getD row)
      else lastRow measType later := by
  unfold lastRow
  split
  · rename_i same
    rw [List.filter_cons_of_pos (by simpa using same), List.getLast?_cons]
  · rename_i different
    rw [List.filter_cons_of_neg (by simpa using different)]

/-- Each column has the value of the last row of its type. -/
structure Merges (rows : List CsvRow) (before after : CsvRow) : Prop where
  columns : ∀ column ∈ imuColumns, after.get column.name =
    (lastRow column.measType rows).elim (before.get column.name) (·.get column.key)
  others : ∀ key ∉ imuColumns.map ImuColumn.name, after.get key = before.get key

/-- The two loops side by side. -/
theorem extSensorMeasEpochLoop_merges {sbLen : Nat} (wide : 28 ≤ sbLen) (tow wnc : Nat)
    {body : List Byte} {count idx off : Nat} {rows : List CsvRow} (before : CsvRow)
    (decoded : subBlocks body.length sbLen
      (fun _ off => readFields (imuFields tow wnc) body off ∅) count idx off = .ok rows) :
    ∃ after, extSensorMeasEpochLoop body sbLen count off before = .ok after ∧
      Merges rows before after ∧
      ∀ row ∈ rows, row.get "tow_ms" = .int tow ∧ row.get "wnc" = .int wnc := by
  induction count generalizing idx off rows before with
  | zero =>
      cases decoded
      exact ⟨before, rfl, ⟨fun _ _ => rfl, fun _ _ => rfl⟩, by simp⟩
  | succ count induction =>
      rw [subBlocks] at decoded
      by_cases short : off + sbLen > body.length
      · rw [if_pos short] at decoded
        cases decoded
        refine ⟨before, ?_, ⟨fun _ _ => rfl, fun _ _ => rfl⟩, by simp⟩
        rw [extSensorMeasEpochLoop, if_pos short]
      · rw [if_neg short] at decoded
        rcases Checked.bind_eq_ok.mp decoded with ⟨row, first, rest⟩
        rcases Checked.bind_eq_ok.mp rest with ⟨later, laterDecoded, collected⟩
        cases collected
        rcases readFields_imu (show off + 28 ≤ body.length by omega) tow wnc with
          ⟨row', read, isRow⟩
        rw [read] at first
        cases first
        rcases readFields_columns (show off + 28 ≤ body.length by omega) (u8 body (off + 2))
          before with ⟨next, nextRead, set, kept⟩
        rcases induction next laterDecoded with ⟨after, result, merged, times⟩
        refine ⟨after, ?_, ⟨?_, ?_⟩, List.forall_mem_cons.mpr ⟨⟨isRow.tow, isRow.wnc⟩, times⟩⟩
        · rw [extSensorMeasEpochLoop_inside wide (not_lt.mp short), nextRead]
          exact result
        · intro column member
          rw [merged.columns column member, set column member, lastRow_cons, isRow.measType]
          by_cases same : column.measType = u8 body (off + 2)
          · rw [if_pos same, if_pos (by rw [same])]
            cases lastRow column.measType later with
            | none => exact (isRow.column member).symm
            | some last => rfl
          · rw [if_neg same, if_neg (by
              intro equal
              injection equal with equal
              exact same (by exact_mod_cast equal.symm))]
        · intro key absent
          rw [merged.others key absent, kept key absent]

/-! ## Agreement -/

theorem decodeExtSensorMeas_narrow {frame : SbfFrame}
    (narrow : frame.body.length < 8 ∨ u8 frame.body 7 < 28) :
    decodeExtSensorMeas frame = .ok [] := by
  rw [decodeExtSensorMeas]
  split
  · rfl
  · rename_i long
    rw [readSubBlockHeader_ok (not_lt.mp long), Checked.ok_bind,
      if_pos (narrow.resolve_left long)]
    rfl

theorem decodeExtSensorMeasEpoch_narrow {frame : SbfFrame}
    (narrow : frame.body.length < 8 ∨ u8 frame.body 7 < 28) :
    decodeExtSensorMeasEpoch frame = .ok none := by
  rw [decodeExtSensorMeasEpoch]
  split
  · rfl
  · rename_i long
    rw [readSubBlockHeader_ok (not_lt.mp long), Checked.ok_bind,
      if_pos (narrow.resolve_left long)]
    rfl

/-- The epoch row before the loop: the time, and empty columns. -/
theorem imuEpochStart (body : List Byte) (header : SubBlockHeader) :
    ∃ start, readFields (imuEpochFields header) body 0 ∅ = .ok start ∧
      start.get "GPS_Week" = .int header.wnc ∧ start.get "GPS_MS[ms]" = .int header.tow ∧
      ∀ column ∈ imuColumns, start.get column.name = .empty := by
  obtain ⟨start, read⟩ : ∃ start, readFields (imuEpochFields header) body 0 ∅ = .ok start :=
    readFields_fits 0 rfl (Nat.zero_le _) ∅
  have distinct : ((imuEpochFields header).map Field.name).Nodup := by
    change ("GPS_Week" :: "GPS_MS[ms]" :: imuColumns.map ImuColumn.name).Nodup
    decide
  have cells := (readFields_get distinct read).1
  have known : ∀ name cell, Field.known name cell ∈ imuEpochFields header →
      start.get name = cell := by
    intro name cell member
    exact (Except.ok.inj (cells _ member)).symm
  refine ⟨start, read, known _ _ (by simp [imuEpochFields]), known _ _ (by simp [imuEpochFields]),
    ?_⟩
  intro column member
  apply known
  simp only [imuColumns, List.mem_cons, List.not_mem_nil, or_false] at member
  rcases member with rfl | rfl | rfl | rfl | rfl | rfl <;>
    simp [imuEpochFields, accFields, gyroFields, Field.f64, Field.unpacked]

/-- A cell of the last row of a type, `None` without such a row. -/
def lastCell (measType : Nat) (key : String) (rows : List CsvRow) : Cell :=
  (lastRow measType rows).elim .empty (·.get key)

/-- The epoch row of a body against the rows of the same body. -/
theorem imu_decoders_agree (frame : SbfFrame) :
    ∃ rows epoch, decodeExtSensorMeas frame = .ok rows ∧
      decodeExtSensorMeasEpoch frame = .ok epoch ∧
      (epoch = none ↔ frame.body.length < 8 ∨ u8 frame.body 7 < 28) ∧
      (epoch = none → rows = []) ∧
      ∀ row, epoch = some row →
        row.get "Acc_X[m/s^2]" = lastCell 0 "x" rows ∧
        row.get "Acc_Y[m/s^2]" = lastCell 0 "y" rows ∧
        row.get "Acc_Z[m/s^2]" = lastCell 0 "z" rows ∧
        row.get "Gyro_X[deg/s]" = lastCell 1 "x" rows ∧
        row.get "Gyro_Y[deg/s]" = lastCell 1 "y" rows ∧
        row.get "Gyro_Z[deg/s]" = lastCell 1 "z" rows ∧
        row.get "GPS_Week" = .int (u16le frame.body 4) ∧
        row.get "GPS_MS[ms]" = .int (u32le frame.body 0) ∧
        ∀ imu ∈ rows, imu.get "wnc" = row.get "GPS_Week" ∧
          imu.get "tow_ms" = row.get "GPS_MS[ms]" := by
  by_cases narrow : frame.body.length < 8 ∨ u8 frame.body 7 < 28
  · refine ⟨[], none, decodeExtSensorMeas_narrow narrow, decodeExtSensorMeasEpoch_narrow narrow,
      ?_, fun _ => rfl, ?_⟩
    · exact ⟨fun _ => narrow, fun _ => rfl⟩
    · intro row impossible
      cases impossible
  · have long : 8 ≤ frame.body.length := by omega
    have wide : 28 ≤ u8 frame.body 7 := by omega
    rcases decodeExtSensorMeas_ok frame with ⟨rows, decoded⟩
    have walked := decoded
    rw [decodeExtSensorMeas_eq long wide] at walked
    rcases imuEpochStart frame.body ⟨u32le frame.body 0, u16le frame.body 4, u8 frame.body 6,
      u8 frame.body 7⟩ with ⟨start, read, week, ms, columns⟩
    rcases extSensorMeasEpochLoop_merges wide _ _ start walked with
      ⟨after, result, merged, times⟩
    have epoch : decodeExtSensorMeasEpoch frame = .ok (some after) := by
      rw [decodeExtSensorMeasEpoch, if_neg (by omega), readSubBlockHeader_ok long,
        Checked.ok_bind, if_neg (not_lt.mpr wide), read, Checked.ok_bind, result]
      rfl
    refine ⟨rows, some after, decoded, epoch, ?_, ?_, ?_⟩
    · constructor
      · intro impossible
        cases impossible
      · intro absent
        exact absurd absent narrow
    · intro impossible
      cases impossible
    · intro row same
      cases same
      have column : ∀ column ∈ imuColumns,
          after.get column.name = lastCell column.measType column.key rows := by
        intro column member
        rw [merged.columns column member, columns column member]
        rfl
      have weekEq := (merged.others "GPS_Week" (by decide)).trans week
      have msEq := (merged.others "GPS_MS[ms]" (by decide)).trans ms
      refine ⟨column ⟨0, _, _, 4⟩ (by decide), column ⟨0, _, _, 12⟩ (by decide),
        column ⟨0, _, _, 20⟩ (by decide), column ⟨1, _, _, 4⟩ (by decide),
        column ⟨1, _, _, 12⟩ (by decide), column ⟨1, _, _, 20⟩ (by decide), weekEq, msEq, ?_⟩
      intro imu member
      rw [weekEq, msEq]
      exact ⟨(times imu member).2, (times imu member).1⟩

end AsterxDriver.Parser
