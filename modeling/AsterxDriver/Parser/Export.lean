import AsterxDriver.Parser.BlockDecoders
import AsterxDriver.Parser.MeasExtra
import AsterxDriver.Parser.SbfSink

/-! # Export

`export_recording` of `scripts/parser.py`: one pass over the frames of a
recording. Measurement blocks are split by antenna, navigation blocks are copied
for all antennas, and the other blocks go to CSV files. -/

namespace AsterxDriver.Parser

open Foundation ByteString FloatArithmetic

/-! ## Tables -/

def gnssCommonBlockIds : List Nat :=
  [4002, 4003, 4004, 4005, 4015, 4017, 4018, 4019, 4020, 4021, 4022, 4023, 4026, 4030, 4031,
    4032, 4034, 4036, 4042, 4047, 4049, 4066, 4067, 4068, 4081, 4095, 4116, 4119, 4120, 4121,
    4245, 5891, 5892, 5893, 5894, 5896, 5897, 5902, 5917, 5918, 5919, 5925, 5926, 5927, 5928,
    5929, 5930, 5931, 5932, 5933, 5934, 5949]

def imuHeaders : List String :=
  ["GPS_Week", "GPS_MS[ms]", "Acc_X[m/s^2]", "Acc_Y[m/s^2]", "Acc_Z[m/s^2]", "Gyro_X[deg/s]",
    "Gyro_Y[deg/s]", "Gyro_Z[deg/s]"]

def imuSampleHeaders : List String :=
  ["tow_ms", "wnc", "source", "sensor_model", "meas_type", "meas_type_name", "x", "y", "z"]

def attitudeHeaders : List String :=
  ["tow_ms", "wnc", "nr_sv", "error", "mode", "heading_deg", "pitch_deg", "roll_deg",
    "pitch_rate_deg_s", "roll_rate_deg_s", "heading_rate_deg_s"]

def attCovHeaders : List String :=
  ["tow_ms", "wnc", "error", "cov_head_head_deg2", "cov_pitch_pitch_deg2",
    "cov_roll_roll_deg2", "cov_head_pitch_deg2", "cov_head_roll_deg2", "cov_pitch_roll_deg2"]

def auxAntHeaders : List String :=
  ["tow_ms", "wnc", "aux_index", "aux_ant_id", "nr_sv", "error", "ambiguity_type",
    "delta_east_m", "delta_north_m", "delta_up_m", "east_vel_m_s", "north_vel_m_s",
    "up_vel_m_s"]

def imuSetupHeaders : List String :=
  ["tow_ms", "wnc", "reserved", "serial_port", "ant_lever_arm_x_m", "ant_lever_arm_y_m",
    "ant_lever_arm_z_m", "theta_x_deg", "theta_y_deg", "theta_z_deg", "estimated_theta_x_deg",
    "estimated_theta_y_deg", "estimated_theta_z_deg", "constraint_lever_arm_x_m",
    "constraint_lever_arm_y_m", "constraint_lever_arm_z_m"]

def qualityHeaders : List String :=
  ["tow_ms", "wnc", "indicator_type", "indicator_name", "value"]

def receiverTimeHeaders : List String :=
  ["tow_ms", "wnc", "utc_year", "utc_month", "utc_day", "utc_hour", "utc_min", "utc_sec",
    "delta_ls", "sync_level"]

def receiverStatusHeaders : List String :=
  ["tow_ms", "wnc", "cpu_load_pct", "ext_error", "uptime_s", "rx_state", "rx_error",
    "agc_index", "front_end_id", "front_end_code", "antenna_id", "antenna", "gain_db",
    "sample_var", "blanking_stat_pct", "cmd_count", "temperature_c"]

def channelStatusHeaders : List String :=
  ["tow_ms", "wnc", "sat_index", "state_index", "svid", "svid_full", "freq_nr_raw",
    "azimuth_deg", "rise_set", "health_status", "elevation_deg", "rx_channel", "antenna_id",
    "antenna", "tracking_status", "pvt_status", "pvt_info"]

def extSensorStatusHeaders : List String :=
  ["tow_ms", "wnc", "source", "sensor_model", "status_flags", "info_type", "info_value",
    "data_hex"]

def extSensorInfoHeaders : List String :=
  ["tow_ms", "wnc", "source", "sensor_model", "product_code", "firmware_revision",
    "serial_number", "data_ascii", "data_hex"]

def rawBlockHeaders : List String :=
  ["tow_ms", "wnc", "block_id", "block_name", "revision", "length", "frame_offset", "body_hex"]

def blockSummaryHeaders : List String :=
  ["block_id", "block_name", "revision", "count"]

/-! ## State -/

/-- The local variables of `export_recording`. The set of antennas is a list in
the order of `sorted`. -/
structure ExportState where
  sink : CsvSink
  sbfSink : SbfSink
  blockCounts : Dict Nat Nat
  revisions : Dict Nat Nat
  gnssType1ByAnt : Dict Nat Nat
  gnssAllByAnt : Dict Nat Nat
  extrasByAnt : Dict Nat Nat
  pendingExtraIndices : Dict Nat (List Nat)
  pendingEpochAntennas : List Nat
  pendingEpochTime : Option (Nat × Nat)
  emitted : Dict String Nat

def ExportState.fresh (outDir : String) (disk : Dict String (List Byte)) : ExportState :=
  ⟨∅, .fresh outDir disk, ∅, ∅, ∅, ∅, ∅, ∅, [], none, ∅⟩

namespace ExportState

/-- The rows for one CSV file, each counted in `emitted`. -/
def emit (state : ExportState) (name : String) (headers : List String) (rows : List CsvRow) :
    ExportState :=
  rows.foldl (fun state row => { state with
    sink := state.sink.row (name ++ ".csv") headers row
    emitted := state.emitted.modify name 0 (· + 1) }) state

def countBlock (state : ExportState) (frame : SbfFrame) : ExportState :=
  { state with
    blockCounts := state.blockCounts.modify frame.blockId 0 (· + 1)
    revisions := state.revisions.modify frame.blockId frame.revision (max · frame.revision) }

end ExportState

/-! ## Measurement blocks -/

/-- The indices of the rows of each antenna. -/
def extraIndices {F : Type} (rows : List (Row F)) : Dict Nat (List Nat) :=
  rows.zipIdx.foldl (fun pending entry =>
    pending.modify entry.1.antennaId [] (· ++ [entry.2])) ∅

def countRows {F : Type} (counts : Dict Nat Nat) (rows : List (Row F)) : Dict Nat Nat :=
  rows.foldl (fun counts row => counts.modify row.antennaId 0 (· + 1)) counts

/-- One block for each antenna. -/
def writeMeasEpochs {F : Type} [FloatArithmetic F] (rawId : Nat)
    (grouped : Dict Nat (List (Row F))) (sbfSink : SbfSink) : Except PyError SbfSink :=
  grouped.sortedKeys.foldlM (fun sbfSink ant => do
    let body ← buildMeasEpochBody (grouped.getD ant [])
    let frameBytes ← rebuildSbfFrame rawId body
    sbfSink.write ant frameBytes) sbfSink

def exportMeasEpoch (F : Type) [FloatArithmetic F] (state : ExportState) (frame : SbfFrame) :
    Except PyError ExportState := do
  let rows : List (Row F) ← decodeMeasEpoch frame
  let grouped := rowsByAntenna rows
  let sbfSink ← writeMeasEpochs frame.rawId grouped state.sbfSink
  return { state with
    sbfSink := sbfSink
    gnssType1ByAnt := countRows state.gnssType1ByAnt (rows.filter (·.level = 1))
    gnssAllByAnt := countRows state.gnssAllByAnt rows
    pendingExtraIndices := extraIndices rows
    pendingEpochAntennas := grouped.sortedKeys
    pendingEpochTime := rows.head?.map fun row => (row.towMs, row.wnc) }

def readExtraTime (body : List Byte) : Except PyError (Option (Nat × Nat)) :=
  if body.length ≥ 6 then do
    let tow ← unpackI body 0
    let wnc ← unpackH body 4
    return some (tow, wnc)
  else .ok none

/-- The sub-blocks of each antenna that has some. -/
def writeMeasExtras (frame : SbfFrame) (pending : Dict Nat (List Nat))
    (written : SbfSink × Dict Nat Nat) : Except PyError (SbfSink × Dict Nat Nat) :=
  pending.sortedKeys.foldlM (fun written ant => do
    let body ← buildMeasExtraBody frame (pending.getD ant [])
    match body with
    | none => return written
    | some body =>
        let frameBytes ← rebuildSbfFrame frame.rawId body
        let sbfSink ← written.1.write ant frameBytes
        return (sbfSink, written.2.modify ant 0 (· + (pending.getD ant []).length))) written

def exportMeasExtra (state : ExportState) (frame : SbfFrame) : Except PyError ExportState := do
  let extraTime ← readExtraTime frame.body
  if state.pendingExtraIndices.keys ≠ [] ∧ extraTime = state.pendingEpochTime then
    let (sbfSink, extrasByAnt) ← writeMeasExtras frame state.pendingExtraIndices
      (state.sbfSink, state.extrasByAnt)
    return { state with sbfSink := sbfSink, extrasByAnt := extrasByAnt }
  else return state

def exportEndOfMeas (state : ExportState) (frame : SbfFrame) : Except PyError ExportState := do
  let sbfSink ← state.pendingEpochAntennas.foldlM (fun sbfSink ant => do
    let frameBytes ← rebuildSbfFrame frame.rawId frame.body
    sbfSink.write ant frameBytes) state.sbfSink
  return { state with
    sbfSink := sbfSink
    pendingExtraIndices := ∅
    pendingEpochAntennas := []
    pendingEpochTime := none }

def exportCommon (state : ExportState) (frame : SbfFrame) : Except PyError ExportState := do
  let frameBytes ← rebuildSbfFrame frame.rawId frame.body
  let sbfSink ← state.sbfSink.writeCommon frameBytes
  return { state with sbfSink := sbfSink }

/-! ## Other blocks -/

/-- The rows of a block for the CSV files, with their headers. -/
def csvRows (frame : SbfFrame) : Except PyError (List (String × List String × List CsvRow)) :=
  match frame.blockId with
  | 4050 => do
      let epochRow ← decodeExtSensorMeasEpoch frame
      let rows ← decodeExtSensorMeas frame
      return [("imu", imuHeaders, epochRow.toList), ("imu_samples", imuSampleHeaders, rows)]
  | 5938 => do
      let row ← decodeAttEuler frame
      return [("attitude", attitudeHeaders, row.toList)]
  | 5939 => do
      let row ← decodeAttCovEuler frame
      return [("attitude_cov", attCovHeaders, row.toList)]
  | 5942 => do
      let rows ← decodeAuxAntPositions frame
      return [("aux_ant_positions", auxAntHeaders, rows)]
  | 4224 => do
      let row ← decodeImuSetup frame
      return [("imu_setup", imuSetupHeaders, row.toList)]
  | 4082 => do
      let rows ← decodeQualityInd frame
      return [("quality_ind", qualityHeaders, rows)]
  | 5914 => do
      let row ← decodeReceiverTime frame
      return [("receiver_time", receiverTimeHeaders, row.toList)]
  | 4014 => do
      let rows ← decodeReceiverStatus frame
      return [("receiver_status", receiverStatusHeaders, rows)]
  | 4013 => do
      let rows ← decodeChannelStatus frame
      return [("channel_status", channelStatusHeaders, rows)]
  | 4223 => do
      let row ← decodeExtSensorStatus frame
      return [("ext_sensor_status", extSensorStatusHeaders, row.toList)]
  | 4222 => do
      let row ← decodeExtSensorInfo frame
      return [("ext_sensor_info", extSensorInfoHeaders, row.toList)]
  | 5943 => .ok []
  | _ => do
      let row ← rawBlockRow frame
      return [("raw_blocks", rawBlockHeaders, [row])]

def exportCsv (state : ExportState) (frame : SbfFrame) : Except PyError ExportState := do
  let files ← csvRows frame
  return files.foldl (fun state file => state.emit file.1 file.2.1 file.2.2) state

/-! ## The loop -/

def exportFrame (F : Type) [FloatArithmetic F] (state : ExportState) (frame : SbfFrame) :
    Except PyError ExportState :=
  let state := state.countBlock frame
  if frame.blockId = 4027 then exportMeasEpoch F state frame
  else if frame.blockId = 4000 then exportMeasExtra state frame
  else if frame.blockId = 5922 then exportEndOfMeas state frame
  else if frame.blockId ∈ gnssCommonBlockIds then exportCommon state frame
  else exportCsv state frame

def exportFrames (F : Type) [FloatArithmetic F] (state : ExportState) (frames : List SbfFrame) :
    Except PyError ExportState :=
  frames.foldlM (exportFrame F) state

/-- Output of an earlier run, directly in the output directory. -/
def isGenerated (outDir path : String) : Bool :=
  ((outDir ++ "/gnss-ant").isPrefixOf path && path.endsWith ".sbf" &&
      (path.toList.drop (outDir.length + 1)).all (· ≠ '/')) ||
    path == outDir ++ "/gnss_observations.csv" || path == outDir ++ "/gnss_extras.csv"

def cleanupGeneratedGnssOutputs (outDir : String) (disk : Dict String (List Byte)) :
    Dict String (List Byte) :=
  (disk.keys.filter (isGenerated outDir)).foldl (fun disk path => disk.erase path) disk

def blockSummaryRow (state : ExportState) (blockId : Nat) : CsvRow :=
  ((((∅ : CsvRow).insert "block_id" (.int blockId)).insert "block_name"
    (.text (blockName blockId))).insert "revision"
    ((state.revisions.lookup blockId).elim (.text "") fun revision => .int revision)).insert
    "count" (.int (state.blockCounts.getD blockId 0))

structure ExportSummary where
  frames : Nat
  state : ExportState
  gnssSbfVerify : Dict Nat (Nat × Nat)

def exportRecording (F : Type) [FloatArithmetic F] (data : List Byte) (outDir : String)
    (disk : Dict String (List Byte)) : Except PyError ExportSummary := do
  let frames := iterFrames data
  let state ← exportFrames F (.fresh outDir (cleanupGeneratedGnssOutputs outDir disk)) frames
  let sink := state.blockCounts.sortedKeys.foldl (fun sink blockId =>
    CsvSink.row sink "block_summary.csv" blockSummaryHeaders (blockSummaryRow state blockId))
    state.sink
  let gnssSbfVerify := state.sbfSink.paths.entries.foldl (fun verify entry =>
    verify.insert entry.1 (verifySbfBytes (state.sbfSink.disk.getD entry.2 []))) ∅
  return ⟨frames.length, { state with sink := sink }, gnssSbfVerify⟩

end AsterxDriver.Parser
