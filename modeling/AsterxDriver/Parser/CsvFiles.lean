import AsterxDriver.Foundation.ExactArithmetic
import AsterxDriver.Parser.SummaryCounts

/-! # The CSV files

What a finished export leaves in the CSV files: the decoded rows in the order of the
recording, with all their values. -/

namespace AsterxDriver.Parser

open Foundation ByteString Sbf FloatArithmetic RoundedArithmetic

/-! ## Rows of a file -/

/-- The columns of each file. -/
def csvHeaders : List (String × List String) :=
  [("imu", imuHeaders), ("imu_samples", imuSampleHeaders), ("attitude", attitudeHeaders),
    ("attitude_cov", attCovHeaders), ("aux_ant_positions", auxAntHeaders),
    ("imu_setup", imuSetupHeaders), ("quality_ind", qualityHeaders),
    ("receiver_time", receiverTimeHeaders), ("receiver_status", receiverStatusHeaders),
    ("channel_status", channelStatusHeaders), ("ext_sensor_status", extSensorStatusHeaders),
    ("ext_sensor_info", extSensorInfoHeaders), ("raw_blocks", rawBlockHeaders)]

/-- The frame goes to the files of the antennas. -/
def SbfFrame.IsGnss (frame : SbfFrame) : Prop :=
  frame.blockId = 4027 ∨ frame.blockId = 4000 ∨ frame.blockId = 5922 ∨
    frame.blockId ∈ gnssCommonBlockIds

instance (frame : SbfFrame) : Decidable frame.IsGnss := inferInstanceAs (Decidable (_ ∨ _))

/-- The rows among the decoded ones that belong to a file. -/
def rowsOf (name : String) (files : List (String × List String × List CsvRow)) : List CsvRow :=
  files.flatMap fun file => if file.1 = name then file.2.2 else []

/-- The rows that a frame has for a file. -/
def csvRowsFor (name : String) (frame : SbfFrame) : List CsvRow :=
  if frame.IsGnss then []
  else
    match csvRows frame with
    | .ok files => rowsOf name files
    | .error _ => []

/-- A file with these rows, if there are some. -/
def csvFile (headers : List String) (rows : List CsvRow) :
    Option (List String × List (List Cell)) :=
  if rows = [] then none
  else some (headers, rows.map fun row => headers.map fun key => formatCsvValue (row.get key))

/-- One more row. -/
theorem csvFile_concat (headers : List String) (rows : List CsvRow) (row : CsvRow) :
    csvFile headers (rows ++ [row]) =
      some (headers, ((csvFile headers rows).getD (headers, [])).2 ++
        [headers.map fun key => formatCsvValue (row.get key)]) := by
  rw [csvFile, if_neg (by simp), List.map_append, List.map_singleton, csvFile]
  split
  · rename_i empty
    rw [empty]
    rfl
  · rfl

theorem lookup_row {sink : CsvSink} {filename : String} {headers : List String}
    {rows : List CsvRow} (held : sink.lookup filename = csvFile headers rows) (row : CsvRow) :
    AList.lookup filename (sink.row filename headers row) = csvFile headers (rows ++ [row]) := by
  have file : (csvFile headers rows).getD (headers, []) =
      (headers, ((csvFile headers rows).getD (headers, [])).2) := by
    rw [csvFile]
    split <;> rfl
  rw [CsvSink.row, Dict.modify, AList.lookup_insert, csvFile_concat, Dict.getD, held, file]

theorem lookup_row_of_ne (sink : CsvSink) {filename other : String} (different : other ≠ filename)
    (headers : List String) (row : CsvRow) :
    AList.lookup other (sink.row filename headers row) = sink.lookup other :=
  AList.lookup_insert_ne different

/-! ## No value is dropped -/

/-- The row has no value outside these columns. -/
def CsvRow.Within (headers : List String) (row : CsvRow) : Prop := ∀ key ∈ row, key ∈ headers

theorem within_empty (headers : List String) : CsvRow.Within headers ∅ :=
  fun _ member => absurd member (AList.notMem_empty _)

theorem readFields_within {headers : List String} {fields : List Field} {body : List Byte}
    {off : Nat} {row filled : CsvRow} (named : ∀ field ∈ fields, field.name ∈ headers)
    (within : row.Within headers) (read : readFields fields body off row = .ok filled) :
    filled.Within headers := by
  induction fields generalizing row with
  | nil =>
      cases read
      exact within
  | cons field later induction =>
      rcases List.forall_mem_cons.mp named with ⟨first, rest⟩
      rw [readFields, List.foldlM_cons] at read
      rcases Checked.bind_eq_ok.mp read with ⟨next, inserted, laterRead⟩
      rcases Checked.bind_eq_ok.mp inserted with ⟨cell, _, returned⟩
      cases returned
      refine induction rest ?_ laterRead
      intro key member
      rcases (AList.mem_insert _).mp member with rfl | member
      · exact first
      · exact within key member

theorem forall_subBlocks {α : Type} {length sbLen : Nat} {parse : Nat → Nat → Except PyError α}
    {holds : α → Prop} (parses : ∀ idx off row, parse idx off = .ok row → holds row)
    {count idx off : Nat} {rows : List α}
    (loop : subBlocks length sbLen parse count idx off = .ok rows) : ∀ row ∈ rows, holds row := by
  induction count generalizing idx off rows with
  | zero =>
      cases loop
      exact List.forall_mem_nil _
  | succ count induction =>
      rw [subBlocks] at loop
      split at loop
      · cases loop
        exact List.forall_mem_nil _
      · rcases Checked.bind_eq_ok.mp loop with ⟨row, first, rest⟩
        rcases Checked.bind_eq_ok.mp rest with ⟨later, laterLoop, returned⟩
        cases returned
        exact List.forall_mem_cons.mpr ⟨parses _ _ _ first, induction laterLoop⟩

theorem fixedRow_within {headers : List String} {size : Nat} {fields : List Field}
    {body : List Byte} {row : Option CsvRow} (named : ∀ field ∈ fields, field.name ∈ headers)
    (read : fixedRow size fields body = .ok row) : ∀ found ∈ row, found.Within headers := by
  unfold fixedRow at read
  split at read
  · cases read
    intro found impossible
    cases impossible
  · rcases Checked.bind_eq_ok.mp read with ⟨filled, fields, returned⟩
    cases returned
    intro found same
    cases same
    exact readFields_within named (within_empty headers) fields

/-- The names of the fields are known before any value is read. -/
theorem named_of_all {headers : List String} {fields : List Field}
    (named : (fields.all fun field => decide (field.name ∈ headers)) = true) :
    ∀ field ∈ fields, field.name ∈ headers :=
  fun field member => of_decide_eq_true (List.all_eq_true.mp named field member)

section

variable {frame : SbfFrame}

theorem decodeExtSensorMeas_within {rows : List CsvRow}
    (decoded : decodeExtSensorMeas frame = .ok rows) :
    ∀ row ∈ rows, row.Within imuSampleHeaders := by
  unfold decodeExtSensorMeas at decoded
  split at decoded
  · cases decoded
    exact List.forall_mem_nil _
  · rcases Checked.bind_eq_ok.mp decoded with ⟨header, _, rest⟩
    split at rest
    · cases rest
      exact List.forall_mem_nil _
    · exact forall_subBlocks (fun _ _ _ =>
        readFields_within (named_of_all rfl) (within_empty _)) rest

theorem extSensorMeasEpochLoop_within {body : List Byte} {sbLen count off : Nat}
    {row filled : CsvRow} (within : row.Within imuHeaders)
    (loop : extSensorMeasEpochLoop body sbLen count off row = .ok filled) :
    filled.Within imuHeaders := by
  induction count generalizing off row with
  | zero =>
      cases loop
      exact within
  | succ count induction =>
      rw [extSensorMeasEpochLoop] at loop
      split at loop
      · cases loop
        exact within
      · rcases Checked.bind_eq_ok.mp loop with ⟨measType, _, rest⟩
        dsimp only at rest
        split at rest
        · rcases Checked.bind_eq_ok.mp rest with ⟨next, read, laterLoop⟩
          exact induction (readFields_within (named_of_all rfl) within read) laterLoop
        · split at rest
          · rcases Checked.bind_eq_ok.mp rest with ⟨next, read, laterLoop⟩
            exact induction (readFields_within (named_of_all rfl) within read) laterLoop
          · exact induction within rest

theorem decodeExtSensorMeasEpoch_within {row : Option CsvRow}
    (decoded : decodeExtSensorMeasEpoch frame = .ok row) :
    ∀ found ∈ row, found.Within imuHeaders := by
  unfold decodeExtSensorMeasEpoch at decoded
  split at decoded
  · cases decoded
    intro found impossible
    cases impossible
  · rcases Checked.bind_eq_ok.mp decoded with ⟨header, _, rest⟩
    split at rest
    · cases rest
      intro found impossible
      cases impossible
    · rcases Checked.bind_eq_ok.mp rest with ⟨start, read, rest⟩
      rcases Checked.bind_eq_ok.mp rest with ⟨filled, loop, returned⟩
      cases returned
      intro found same
      cases same
      exact extSensorMeasEpochLoop_within
        (readFields_within (named_of_all rfl) (within_empty _) read) loop

theorem decodeAuxAntPositions_within {rows : List CsvRow}
    (decoded : decodeAuxAntPositions frame = .ok rows) :
    ∀ row ∈ rows, row.Within auxAntHeaders := by
  unfold decodeAuxAntPositions at decoded
  split at decoded
  · cases decoded
    exact List.forall_mem_nil _
  · rcases Checked.bind_eq_ok.mp decoded with ⟨header, _, rest⟩
    split at rest
    · cases rest
      exact List.forall_mem_nil _
    · exact forall_subBlocks (fun _ _ _ =>
        readFields_within (named_of_all rfl) (within_empty _)) rest

theorem decodeImuSetup_within {row : Option CsvRow} (decoded : decodeImuSetup frame = .ok row) :
    ∀ found ∈ row, found.Within imuSetupHeaders := by
  refine fixedRow_within ?_ decoded
  intro field member
  rcases List.mem_append.mp member with port | angle
  · have listed : ∀ field ∈ portFields, field.name ∈ imuSetupHeaders := named_of_all rfl
    exact listed field port
  · rcases List.mem_map.mp angle with ⟨entry, among, rfl⟩
    have name : entry.1 ∈ imuSetupNames := List.fst_mem_of_mem_zipIdx among
    have listed : ∀ name ∈ imuSetupNames, name ∈ imuSetupHeaders := by decide
    split
    · exact listed _ name
    · exact listed _ name

theorem decodeQualityInd_within {rows : List CsvRow} (decoded : decodeQualityInd frame = .ok rows) :
    ∀ row ∈ rows, row.Within qualityHeaders := by
  unfold decodeQualityInd at decoded
  split at decoded
  · cases decoded
    exact List.forall_mem_nil _
  · rcases Checked.bind_eq_ok.mp decoded with ⟨tow, _, rest⟩
    rcases Checked.bind_eq_ok.mp rest with ⟨wnc, _, rest⟩
    rcases Checked.bind_eq_ok.mp rest with ⟨n, _, rest⟩
    exact forall_subBlocks (fun _ _ _ =>
      readFields_within (named_of_all rfl) (within_empty _)) rest

theorem decodeReceiverStatus_within {rows : List CsvRow}
    (decoded : decodeReceiverStatus frame = .ok rows) :
    ∀ row ∈ rows, row.Within receiverStatusHeaders := by
  unfold decodeReceiverStatus at decoded
  split at decoded
  · cases decoded
    exact List.forall_mem_nil _
  · rcases Checked.bind_eq_ok.mp decoded with ⟨n, _, rest⟩
    rcases Checked.bind_eq_ok.mp rest with ⟨sbLen, _, rest⟩
    split at rest
    · rcases Checked.bind_eq_ok.mp rest with ⟨base, read, returned⟩
      cases returned
      exact List.forall_mem_singleton.mpr
        (readFields_within (named_of_all rfl) (within_empty _) read)
    · split at rest
      · cases rest
        exact List.forall_mem_nil _
      · refine forall_subBlocks (fun _ _ _ parsed => ?_) rest
        rcases Checked.bind_eq_ok.mp parsed with ⟨base, read, readMore⟩
        exact readFields_within (named_of_all rfl)
          (readFields_within (named_of_all rfl) (within_empty _) read) readMore

theorem satelliteLoop_within {body : List Byte} {header : SubBlockHeader}
    {sb2Len count satIdx off : Nat} {rows : List CsvRow}
    (loop : satelliteLoop body header sb2Len count satIdx off = .ok rows) :
    ∀ row ∈ rows, row.Within channelStatusHeaders := by
  induction count generalizing satIdx off rows with
  | zero =>
      cases loop
      exact List.forall_mem_nil _
  | succ count induction =>
      rw [satelliteLoop] at loop
      split at loop
      · cases loop
        exact List.forall_mem_nil _
      · rcases Checked.bind_eq_ok.mp loop with ⟨satellite, read, rest⟩
        rcases Checked.bind_eq_ok.mp rest with ⟨n2, _, rest⟩
        rcases Checked.bind_eq_ok.mp rest with ⟨states, inner, rest⟩
        rcases Checked.bind_eq_ok.mp rest with ⟨later, laterLoop, returned⟩
        cases returned
        have within : satellite.Within channelStatusHeaders :=
          readFields_within (named_of_all rfl) (within_empty _) read
        exact List.forall_mem_append.mpr
          ⟨forall_subBlocks (fun _ _ _ => readFields_within (named_of_all rfl) within) inner,
            induction laterLoop⟩

theorem decodeChannelStatus_within {rows : List CsvRow}
    (decoded : decodeChannelStatus frame = .ok rows) :
    ∀ row ∈ rows, row.Within channelStatusHeaders := by
  unfold decodeChannelStatus at decoded
  split at decoded
  · cases decoded
    exact List.forall_mem_nil _
  · rcases Checked.bind_eq_ok.mp decoded with ⟨header, _, rest⟩
    rcases Checked.bind_eq_ok.mp rest with ⟨sb2Len, _, rest⟩
    split at rest
    · cases rest
      exact List.forall_mem_nil _
    · exact satelliteLoop_within rest

theorem sensorRow_within {headers : List String} {front extra : List Field} {enough : Bool}
    {data body : List Byte} {row : Option CsvRow}
    (frontNamed : ∀ field ∈ sensorFields ++ front, field.name ∈ headers)
    (extraNamed : ∀ field ∈ extra, field.name ∈ headers)
    (read : sensorRow front extra enough data body = .ok row) :
    ∀ found ∈ row, found.Within headers := by
  unfold sensorRow at read
  split at read
  · cases read
    intro found impossible
    cases impossible
  · rcases Checked.bind_eq_ok.mp read with ⟨filled, readFront, rest⟩
    rcases Checked.bind_eq_ok.mp rest with ⟨sensorModel, _, rest⟩
    have within := readFields_within frontNamed (within_empty headers) readFront
    split at rest
    · rcases Checked.bind_eq_ok.mp rest with ⟨more, readExtra, returned⟩
      cases returned
      intro found same
      cases same
      exact readFields_within extraNamed within readExtra
    · cases rest
      intro found same
      cases same
      exact within

theorem rawBlockRow_within {row : CsvRow} (decoded : rawBlockRow frame = .ok row) :
    row.Within rawBlockHeaders := by
  refine readFields_within ?_ (within_empty _) decoded
  unfold gpsTimeFields
  split
  · split
    · exact named_of_all rfl
    · exact named_of_all rfl
  · split
    · exact named_of_all rfl
    · exact named_of_all rfl

/-- The files are known, and their columns hold all values of the rows. -/
def Listed (files : List (String × List String × List CsvRow)) : Prop :=
  ∀ file ∈ files, csvHeaders.lookup file.1 = some file.2.1 ∧
    ∀ row ∈ file.2.2, row.Within file.2.1

theorem listed_rows {name : String} {headers : List String} {decoder : Except PyError (List CsvRow)}
    (known : csvHeaders.lookup name = some headers)
    (within : ∀ {rows}, decoder = .ok rows → ∀ row ∈ rows, row.Within headers)
    {files : List (String × List String × List CsvRow)}
    (decoded : (do let rows ← decoder; return [(name, headers, rows)]) = .ok files) :
    Listed files := by
  rcases Checked.bind_eq_ok.mp decoded with ⟨rows, found, returned⟩
  cases returned
  exact List.forall_mem_singleton.mpr ⟨known, within found⟩

theorem listed_row {name : String} {headers : List String}
    {decoder : Except PyError (Option CsvRow)} (known : csvHeaders.lookup name = some headers)
    (within : ∀ {row}, decoder = .ok row → ∀ found ∈ row, found.Within headers)
    {files : List (String × List String × List CsvRow)}
    (decoded : (do let row ← decoder; return [(name, headers, Option.toList row)]) = .ok files) :
    Listed files := by
  rcases Checked.bind_eq_ok.mp decoded with ⟨row, found, returned⟩
  cases returned
  refine List.forall_mem_singleton.mpr ⟨known, fun filled member => ?_⟩
  exact within found filled (Option.mem_toList.mp member)

theorem listed_csvRows {files : List (String × List String × List CsvRow)}
    (decoded : csvRows frame = .ok files) : Listed files := by
  unfold csvRows at decoded
  split at decoded
  · rcases Checked.bind_eq_ok.mp decoded with ⟨epochRow, epoch, rest⟩
    rcases Checked.bind_eq_ok.mp rest with ⟨rows, samples, returned⟩
    cases returned
    refine List.forall_mem_cons.mpr ⟨⟨rfl, ?_⟩, List.forall_mem_singleton.mpr ⟨rfl, ?_⟩⟩
    · intro row member
      exact decodeExtSensorMeasEpoch_within epoch row (Option.mem_toList.mp member)
    · exact decodeExtSensorMeas_within samples
  · exact listed_row rfl (fixedRow_within (named_of_all rfl)) decoded
  · exact listed_row rfl (fixedRow_within (named_of_all rfl)) decoded
  · exact listed_rows rfl decodeAuxAntPositions_within decoded
  · exact listed_row rfl decodeImuSetup_within decoded
  · exact listed_rows rfl decodeQualityInd_within decoded
  · exact listed_row rfl (fixedRow_within (named_of_all rfl)) decoded
  · exact listed_rows rfl decodeReceiverStatus_within decoded
  · exact listed_rows rfl decodeChannelStatus_within decoded
  · exact listed_row rfl (sensorRow_within (named_of_all rfl) (named_of_all rfl)) decoded
  · exact listed_row rfl (sensorRow_within (named_of_all rfl) (named_of_all rfl)) decoded
  · cases decoded
    exact List.forall_mem_nil _
  · rcases Checked.bind_eq_ok.mp decoded with ⟨row, found, returned⟩
    cases returned
    exact List.forall_mem_singleton.mpr
      ⟨rfl, List.forall_mem_singleton.mpr (rawBlockRow_within found)⟩

end

/-! ## One frame -/

/-- The columns of a file; none if there is no such file. -/
def csvColumns (name : String) : List String := (csvHeaders.lookup name).getD []

/-- The file name is decided by the name of the file. -/
theorem csvName_inj {name other : String} : name ++ ".csv" = other ++ ".csv" ↔ name = other :=
  String.append_left_inj ".csv"

/-- The CSV files hold these rows, and they are counted. -/
structure Filed (rows : String → List CsvRow) (state : ExportState) : Prop where
  files : ∀ name, state.sink.lookup (name ++ ".csv") = csvFile (csvColumns name) (rows name)
  emitted : ∀ name, state.emitted.getD name 0 = (rows name).length

section

variable {rows : String → List CsvRow} {state : ExportState}

theorem Filed.emit (filed : Filed rows state) {name : String} {headers : List String}
    (known : csvHeaders.lookup name = some headers) (more : List CsvRow) :
    Filed (fun other => rows other ++ if name = other then more else [])
      (state.emit name headers more) := by
  have columns : csvColumns name = headers := by
    rw [csvColumns, known]
    rfl
  induction more generalizing rows state with
  | nil =>
      unfold ExportState.emit
      simpa using filed
  | cons row later induction =>
      have next : Filed (fun other => rows other ++ if name = other then [row] else [])
          { state with
            sink := state.sink.row (name ++ ".csv") headers row
            emitted := state.emitted.modify name 0 (· + 1) } := by
        constructor
        · intro other
          by_cases same : name = other
          · subst same
            rw [if_pos rfl, ← columns]
            exact lookup_row (filed.files name) row
          · rw [if_neg same, List.append_nil, ← filed.files other]
            exact lookup_row_of_ne _ (fun equal => same (csvName_inj.mp equal).symm) _ _
        · intro other
          rw [Dict.getD_modify]
          by_cases same : other = name
          · subst same
            rw [if_pos rfl, if_pos rfl, filed.emitted, List.length_append]
            rfl
          · rw [if_neg same, if_neg (Ne.symm same), List.append_nil, filed.emitted]
      have joined : (fun other => rows other ++ if name = other then row :: later else []) =
          fun other => (rows other ++ if name = other then [row] else []) ++
            if name = other then later else [] := by
        funext other
        split
        · rw [List.append_assoc]
          rfl
        · rw [List.append_nil, List.append_nil]
      rw [joined]
      exact induction next

theorem Filed.emitAll (filed : Filed rows state)
    {files : List (String × List String × List CsvRow)} (listed : Listed files) :
    Filed (fun name => rows name ++ rowsOf name files)
      (files.foldl (fun state file => state.emit file.1 file.2.1 file.2.2) state) := by
  induction files generalizing rows state with
  | nil => simpa [rowsOf] using filed
  | cons file later induction =>
      rcases List.forall_mem_cons.mp listed with ⟨first, rest⟩
      have all := induction (filed.emit first.1 file.2.2) rest
      simp only [List.append_assoc] at all
      exact all

/-- The export of the frame leaves the tables of the CSV files alone. -/
structure SameTables (state after : ExportState) : Prop where
  sink : after.sink = state.sink
  emitted : after.emitted = state.emitted
  blockCounts : after.blockCounts = state.blockCounts
  revisions : after.revisions = state.revisions

variable {after : ExportState} {frame : SbfFrame}

theorem exportMeasEpoch_tables {F : Type} [FloatArithmetic F]
    (result : exportMeasEpoch F state frame = .ok after) : SameTables state after := by
  rcases Checked.bind_eq_ok.mp result with ⟨decoded, _, rest⟩
  rcases Checked.bind_eq_ok.mp rest with ⟨sbfSink, _, returned⟩
  cases returned
  exact ⟨rfl, rfl, rfl, rfl⟩

theorem exportMeasExtra_tables (result : exportMeasExtra state frame = .ok after) :
    SameTables state after := by
  rcases Checked.bind_eq_ok.mp result with ⟨extraTime, _, rest⟩
  split at rest
  · rcases Checked.bind_eq_ok.mp rest with ⟨written, _, returned⟩
    cases returned
    exact ⟨rfl, rfl, rfl, rfl⟩
  · cases rest
    exact ⟨rfl, rfl, rfl, rfl⟩

theorem exportEndOfMeas_tables (result : exportEndOfMeas state frame = .ok after) :
    SameTables state after := by
  rcases Checked.bind_eq_ok.mp result with ⟨sbfSink, _, returned⟩
  cases returned
  exact ⟨rfl, rfl, rfl, rfl⟩

theorem exportCommon_tables (result : exportCommon state frame = .ok after) :
    SameTables state after := by
  rcases Checked.bind_eq_ok.mp result with ⟨frameBytes, _, rest⟩
  rcases Checked.bind_eq_ok.mp rest with ⟨sbfSink, _, returned⟩
  cases returned
  exact ⟨rfl, rfl, rfl, rfl⟩

theorem Filed.of_sameTables (filed : Filed rows state) (same : SameTables state after) :
    Filed rows after := by
  constructor
  · rw [same.sink]
    exact filed.files
  · rw [same.emitted]
    exact filed.emitted

theorem emit_tables (state : ExportState) (name : String) (headers : List String)
    (more : List CsvRow) :
    (state.emit name headers more).blockCounts = state.blockCounts ∧
      (state.emit name headers more).revisions = state.revisions := by
  unfold ExportState.emit
  induction more generalizing state with
  | nil => exact ⟨rfl, rfl⟩
  | cons row later induction => exact induction _

theorem emitAll_tables (state : ExportState)
    (files : List (String × List String × List CsvRow)) :
    let after := files.foldl (fun state file => state.emit file.1 file.2.1 file.2.2) state
    after.blockCounts = state.blockCounts ∧ after.revisions = state.revisions := by
  induction files generalizing state with
  | nil => exact ⟨rfl, rfl⟩
  | cons file later induction =>
      rcases emit_tables state file.1 file.2.1 file.2.2 with ⟨counts, revisions⟩
      rcases induction (state.emit file.1 file.2.1 file.2.2) with ⟨laterCounts, laterRevisions⟩
      exact ⟨laterCounts.trans counts, laterRevisions.trans revisions⟩

/-- The block counts and revisions, one frame further. -/
def tally (tables : Dict Nat Nat × Dict Nat Nat) (frame : SbfFrame) :
    Dict Nat Nat × Dict Nat Nat :=
  (tables.1.modify frame.blockId 0 (· + 1),
    tables.2.modify frame.blockId frame.revision (max · frame.revision))

/-- Every frame adds its rows to the files, and its block to the counts. -/
theorem exportFrame_filed {F : Type} [FloatArithmetic F] (filed : Filed rows state)
    (result : exportFrame F state frame = .ok after) :
    Filed (fun name => rows name ++ csvRowsFor name frame) after ∧
      (after.blockCounts, after.revisions) =
        tally (state.blockCounts, state.revisions) frame := by
  have counted : Filed rows (state.countBlock frame) := ⟨filed.files, filed.emitted⟩
  have none : frame.IsGnss → SameTables (state.countBlock frame) after →
      Filed (fun name => rows name ++ csvRowsFor name frame) after ∧
        (after.blockCounts, after.revisions) =
          tally (state.blockCounts, state.revisions) frame := by
    intro gnss same
    constructor
    · have noRows : (fun name => rows name ++ csvRowsFor name frame) = rows := by
        funext name
        rw [csvRowsFor, if_pos gnss, List.append_nil]
      rw [noRows]
      exact counted.of_sameTables same
    · rw [same.blockCounts, same.revisions]
      rfl
  unfold exportFrame at result
  dsimp only at result
  split at result
  · rename_i epoch
    exact none (.inl epoch) (exportMeasEpoch_tables result)
  split at result
  · rename_i extra
    exact none (.inr (.inl extra)) (exportMeasExtra_tables result)
  split at result
  · rename_i isEnd
    exact none (.inr (.inr (.inl isEnd))) (exportEndOfMeas_tables result)
  split at result
  · rename_i common
    exact none (.inr (.inr (.inr common))) (exportCommon_tables result)
  rename_i notEpoch notExtra notEnd notCommon
  rcases Checked.bind_eq_ok.mp result with ⟨files, decoded, returned⟩
  cases returned
  have other : ¬frame.IsGnss := by
    rintro (epoch | extra | isEnd | common)
    · exact notEpoch epoch
    · exact notExtra extra
    · exact notEnd isEnd
    · exact notCommon common
  constructor
  · have itsRows : (fun name => rows name ++ csvRowsFor name frame) =
        fun name => rows name ++ rowsOf name files := by
      funext name
      rw [csvRowsFor, if_neg other, decoded]
    rw [itsRows]
    exact counted.emitAll (listed_csvRows decoded)
  · rcases emitAll_tables (state.countBlock frame) files with ⟨counts, revisions⟩
    rw [counts, revisions]
    rfl

end

/-! ## All frames -/

theorem exportFrames_filed {F : Type} [FloatArithmetic F] {rows : String → List CsvRow}
    {state after : ExportState} {frames : List SbfFrame} (filed : Filed rows state)
    (result : exportFrames F state frames = .ok after) :
    Filed (fun name => rows name ++ frames.flatMap (csvRowsFor name)) after ∧
      (after.blockCounts, after.revisions) =
        frames.foldl tally (state.blockCounts, state.revisions) := by
  induction frames generalizing rows state with
  | nil =>
      cases result
      exact ⟨by simpa using filed, rfl⟩
  | cons frame later induction =>
      rw [exportFrames, List.foldlM_cons] at result
      rcases Checked.bind_eq_ok.mp result with ⟨middle, first, rest⟩
      rcases exportFrame_filed filed first with ⟨middleFiled, middleTables⟩
      rcases induction middleFiled rest with ⟨all, tables⟩
      constructor
      · simp only [List.append_assoc] at all
        exact all
      · rw [tables, middleTables]
        rfl

/-- The scan of the bytes counts the same frames in the same order. -/
theorem rawScanFrom_tally (data : List Byte) (i : Nat) (scan : RawScan) :
    ((rawScanFrom data i scan).idCounts, (rawScanFrom data i scan).revCounts) =
      (iterFramesFrom data i).foldl tally (scan.idCounts, scan.revCounts) := by
  fun_induction rawScanFrom data i scan with
  | case1 i scan header sync induction =>
      rwa [iterFramesFrom.eq_def data i, if_pos header, if_pos sync]
  | case2 i scan header sync length invalid induction =>
      rw [iterFramesFrom.eq_def data i, if_pos header]
      simp only [if_neg sync]
      rwa [if_pos invalid]
  | case3 i scan header sync crc rawId length blockId valid mismatch induction =>
      rw [iterFramesFrom.eq_def data i, if_pos header]
      simp only [if_neg sync]
      rw [if_neg valid, if_pos mismatch]
      exact induction
  | case4 i scan header sync crc rawId length blockId revision valid mismatch induction =>
      rw [iterFramesFrom.eq_def data i, if_pos header]
      simp only [if_neg sync]
      rw [if_neg valid, if_neg mismatch, List.foldl_cons]
      exact induction
  | case5 i scan short => rw [iterFramesFrom_of_short short, List.foldl_nil]

theorem max?_concat (values : List Nat) (value : Nat) :
    (values ++ [value]).max? = some (max (values.max?.getD value) value) := by
  cases values with
  | nil => exact congrArg some (max_self value).symm
  | cons first later =>
      rw [List.cons_append, List.max?_cons', List.max?_cons', List.foldl_concat]
      rfl

/-- The block numbers that were counted, how often, and their highest revision. -/
theorem tally_counts (frames : List SbfFrame) (blockId : Nat) :
    (blockId ∈ (frames.foldl tally (∅, ∅)).1 ↔ ∃ frame ∈ frames, frame.blockId = blockId) ∧
      (frames.foldl tally (∅, ∅)).1.getD blockId 0 =
        frames.countP (fun frame => frame.blockId = blockId) ∧
      (frames.foldl tally (∅, ∅)).2.lookup blockId =
        ((frames.filter fun frame => frame.blockId = blockId).map SbfFrame.revision).max? := by
  induction frames using List.reverseRecOn with
  | nil => simp [Dict.getD_empty, AList.notMem_empty]
  | append_singleton frames frame induction =>
      rcases induction with ⟨members, counts, revisions⟩
      rw [List.foldl_concat]
      refine ⟨?_, ?_, ?_⟩
      · rw [tally, Dict.mem_modify, members]
        simp only [List.mem_append, List.mem_singleton, or_and_right, exists_or, exists_eq_left]
        rw [or_comm, eq_comm]
      · rw [tally, Dict.getD_modify, List.countP_append, List.countP_singleton]
        split
        · rename_i same
          subst same
          simp [counts]
        · rename_i different
          simp [counts, Ne.symm different]
      · rw [List.filter_append, List.map_append, List.filter_singleton]
        by_cases same : frame.blockId = blockId
        · subst same
          refine (AList.lookup_insert _).trans ?_
          rw [Dict.getD, revisions, decide_eq_true rfl, cond_true, List.map_singleton,
            max?_concat]
        · refine (AList.lookup_insert_ne (Ne.symm same)).trans ?_
          rw [revisions, decide_eq_false same, cond_false, List.map_nil, List.append_nil]

theorem csvRowsFor_of_unknown {name : String} (unknown : csvHeaders.lookup name = none)
    (frame : SbfFrame) : csvRowsFor name frame = [] := by
  rcases csvRows_ok frame with ⟨files, decoded⟩
  rw [csvRowsFor, decoded]
  split
  · rfl
  · refine List.flatMap_eq_nil_iff.mpr fun file member => if_neg ?_
    rintro rfl
    have known := (listed_csvRows decoded file member).1
    rw [unknown] at known
    cases known

/-! ## The summary of the blocks -/

theorem lookup_foldl_row {α : Type} {filename : String} {headers : List String}
    (row : α → CsvRow) (items : List α) {sink : CsvSink} {rows : List CsvRow}
    (held : sink.lookup filename = csvFile headers rows) :
    AList.lookup filename
        (items.foldl (fun sink item => CsvSink.row sink filename headers (row item)) sink) =
      csvFile headers (rows ++ items.map row) := by
  induction items generalizing sink rows with
  | nil => rwa [List.map_nil, List.append_nil]
  | cons item later induction =>
      rw [List.foldl_cons, induction (lookup_row held (row item)), List.append_assoc]
      rfl

theorem lookup_foldl_row_of_ne {α : Type} {filename other : String} {headers : List String}
    (row : α → CsvRow) (items : List α) (sink : CsvSink) (different : other ≠ filename) :
    AList.lookup other
        (items.foldl (fun sink item => CsvSink.row sink filename headers (row item)) sink) =
      sink.lookup other := by
  induction items generalizing sink with
  | nil => rfl
  | cons item later induction =>
      rw [List.foldl_cons, induction, lookup_row_of_ne _ different]

theorem pairwise_sortedKeys (dict : Dict Nat Nat) : dict.sortedKeys.Pairwise (· < ·) := by
  have order : dict.sortedKeys.Pairwise (· ≤ ·) := List.pairwise_insertionSort _ _
  have distinct : dict.sortedKeys.Pairwise (· ≠ ·) := Dict.nodup_sortedKeys dict
  exact (order.and distinct).imp fun both => lt_of_le_of_ne both.1 both.2

/-- The files and tables at the end of an export. -/
structure CsvWritten (data : List Byte) (state : ExportState) : Prop where
  files : ∀ name, name ≠ "block_summary" → state.sink.lookup (name ++ ".csv") =
    csvFile (csvColumns name) ((iterFrames data).flatMap (csvRowsFor name))
  emitted : ∀ name, state.emitted.getD name 0 =
    ((iterFrames data).flatMap (csvRowsFor name)).length
  summary : state.sink.lookup "block_summary.csv" = csvFile blockSummaryHeaders
    (state.blockCounts.sortedKeys.map (blockSummaryRow state))
  tables : (state.blockCounts, state.revisions) = (iterFrames data).foldl tally (∅, ∅)

theorem csvWritten_of_completed {F : Type} [FloatArithmetic F] {data : List Byte}
    {outDir : String} {disk : Dict String (List Byte)} {summary : ExportSummary}
    (completed : exportRecording F data outDir disk = .ok summary) :
    CsvWritten data summary.state := by
  rcases Checked.bind_eq_ok.mp completed with ⟨state, exported, returned⟩
  cases returned
  have start : Filed (fun _ => [])
      (.fresh outDir (cleanupGeneratedGnssOutputs outDir disk)) := ⟨fun _ => rfl, fun _ => rfl⟩
  rcases exportFrames_filed start exported with ⟨filed, tables⟩
  simp only [List.nil_append] at filed
  refine ⟨?_, filed.emitted, ?_, tables⟩
  · intro name different
    have otherFile : name ++ ".csv" ≠ "block_summary.csv" :=
      fun equal => different (csvName_inj.mp equal)
    exact (lookup_foldl_row_of_ne _ _ _ otherFile).trans (filed.files name)
  · have none : (iterFrames data).flatMap (csvRowsFor "block_summary") = [] :=
      List.flatMap_eq_nil_iff.mpr fun frame _ => csvRowsFor_of_unknown rfl frame
    have before : state.sink.lookup "block_summary.csv" = csvFile blockSummaryHeaders [] := by
      have held := filed.files "block_summary"
      rw [none] at held
      exact held
    exact lookup_foldl_row (blockSummaryRow state) _ before

/-- The time of the receiver between two bytes of noise and a block that is not known. -/
def timeRecording : List Byte :=
  [0x24, 0x41] ++ wireBytes (rebuiltFrame 5914
    [0xE8, 0x03, 0, 0, 0xFC, 0x08, 26, 1, 15, 12, 30, 0, 18, 7]) ++
    wireBytes (rebuiltFrame 700 [1, 2, 3, 4])

end AsterxDriver.Parser
