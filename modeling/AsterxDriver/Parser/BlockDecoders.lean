import AsterxDriver.Parser.CsvRow
import AsterxDriver.Parser.MeasEpoch

/-! # Block decoders

`scripts/parser.py`: the decoders of the blocks that go to CSV files. -/

namespace AsterxDriver.Parser

open Foundation ByteString

/-- The front of a body with sub-blocks. -/
structure SubBlockHeader where
  tow : Nat
  wnc : Nat
  n : Nat
  sbLen : Nat

def readSubBlockHeader (body : List Byte) : Except PyError SubBlockHeader := do
  let tow ← unpackI body 0
  let wnc ← unpackH body 4
  let n ← byteAt body 6
  let sbLen ← byteAt body 7
  return ⟨tow, wnc, n, sbLen⟩

def timeFields (tow wnc : Nat) : List Field :=
  [.known "tow_ms" (.int tow), .known "wnc" (.int wnc)]

/-- A decoder with one row of fixed fields. -/
def fixedRow (size : Nat) (fields : List Field) (body : List Byte) :
    Except PyError (Option CsvRow) :=
  if body.length < size then .ok none
  else do
    let row ← readFields fields body 0 ∅
    return some row

/-! ## IMU -/

def measTypeName (measType : Nat) : String :=
  match measType with
  | 0 => "acceleration_m_s2"
  | 1 => "angular_rate_deg_s"
  | _ => "type_" ++ toString measType

def decodeExtSensorMeas (frame : SbfFrame) : Except PyError (List CsvRow) :=
  if frame.body.length < 8 then .ok []
  else do
    let header ← readSubBlockHeader frame.body
    if header.sbLen < 28 then return []
    else subBlocks frame.body.length header.sbLen (fun _ off => readFields
      (timeFields header.tow header.wnc ++
      [.u8 "source" 0, .u8 "sensor_model" 1, .u8 "meas_type" 2,
        .byte "meas_type_name" 2 fun measType => .text (measTypeName measType),
        .f64 "x" 4, .f64 "y" 12, .f64 "z" 20]) frame.body off ∅) header.n 0 8

def accFields : List Field :=
  [.f64 "Acc_X[m/s^2]" 4, .f64 "Acc_Y[m/s^2]" 12, .f64 "Acc_Z[m/s^2]" 20]

def gyroFields : List Field :=
  [.f64 "Gyro_X[deg/s]" 4, .f64 "Gyro_Y[deg/s]" 12, .f64 "Gyro_Z[deg/s]" 20]

/-- The row before any sub-block is read. -/
def imuEpochFields (header : SubBlockHeader) : List Field :=
  [.known "GPS_Week" (.int header.wnc), .known "GPS_MS[ms]" (.int header.tow)] ++
    (accFields ++ gyroFields).map fun field => .known field.name .empty

/-- The loop over the sub-blocks; `count` of them are left. -/
def extSensorMeasEpochLoop (body : List Byte) (sbLen : Nat) :
    Nat → Nat → CsvRow → Except PyError CsvRow
  | 0, _, row => .ok row
  | count + 1, off, row =>
      if off + sbLen > body.length then .ok row
      else do
        let measType ← byteAt body (off + 2)
        let row ←
          if measType = 0 then readFields accFields body off row
          else if measType = 1 then readFields gyroFields body off row
          else .ok row
        extSensorMeasEpochLoop body sbLen count (off + sbLen) row

def decodeExtSensorMeasEpoch (frame : SbfFrame) : Except PyError (Option CsvRow) :=
  if frame.body.length < 8 then .ok none
  else do
    let header ← readSubBlockHeader frame.body
    if header.sbLen < 28 then return none
    else
      let start ← readFields (imuEpochFields header) frame.body 0 ∅
      let row ← extSensorMeasEpochLoop frame.body header.sbLen header.n 8 start
      return some row

def imuSetupNames : List String :=
  ["ant_lever_arm_x_m", "ant_lever_arm_y_m", "ant_lever_arm_z_m", "theta_x_deg",
    "theta_y_deg", "theta_z_deg", "estimated_theta_x_deg", "estimated_theta_y_deg",
    "estimated_theta_z_deg", "constraint_lever_arm_x_m", "constraint_lever_arm_y_m",
    "constraint_lever_arm_z_m"]

/-- The angles and arms that the body still holds; the others stay empty. -/
def imuSetupFields (size : Nat) : List Field :=
  imuSetupNames.zipIdx.map fun entry =>
    if 8 + 4 * entry.2 + 4 ≤ size then .f32Dnu entry.1 (8 + 4 * entry.2)
    else .known entry.1 .empty

def portFields : List Field :=
  [.u32 "tow_ms" 0, .u16 "wnc" 4, .u8 "reserved" 6, .u8 "serial_port" 7]

def decodeImuSetup (frame : SbfFrame) : Except PyError (Option CsvRow) :=
  fixedRow 8 (portFields ++ imuSetupFields frame.body.length) frame.body

/-! ## Attitude -/

def decodeAttEuler (frame : SbfFrame) : Except PyError (Option CsvRow) :=
  fixedRow 36
    [.u32 "tow_ms" 0, .u16 "wnc" 4, .u8Dnu "nr_sv" 6 255, .u8 "error" 7, .u16 "mode" 8,
      .f32Dnu "heading_deg" 12, .f32Dnu "pitch_deg" 16, .f32Dnu "roll_deg" 20,
      .f32Dnu "pitch_rate_deg_s" 24, .f32Dnu "roll_rate_deg_s" 28,
      .f32Dnu "heading_rate_deg_s" 32] frame.body

def decodeAttCovEuler (frame : SbfFrame) : Except PyError (Option CsvRow) :=
  fixedRow 32
    [.u32 "tow_ms" 0, .u16 "wnc" 4, .u8 "error" 7, .f32Dnu "cov_head_head_deg2" 8,
      .f32Dnu "cov_pitch_pitch_deg2" 12, .f32Dnu "cov_roll_roll_deg2" 16,
      .f32Dnu "cov_head_pitch_deg2" 20, .f32Dnu "cov_head_roll_deg2" 24,
      .f32Dnu "cov_pitch_roll_deg2" 28] frame.body

def decodeAuxAntPositions (frame : SbfFrame) : Except PyError (List CsvRow) :=
  if frame.body.length < 8 then .ok []
  else do
    let header ← readSubBlockHeader frame.body
    if header.sbLen < 52 then return []
    else subBlocks frame.body.length header.sbLen (fun idx off => readFields
      (timeFields header.tow header.wnc ++
      [.known "aux_index" (.int idx), .u8 "aux_ant_id" 3, .u8Dnu "nr_sv" 0 255,
        .u8 "error" 1, .u8Dnu "ambiguity_type" 2 255, .f64Dnu "delta_east_m" 4,
        .f64Dnu "delta_north_m" 12, .f64Dnu "delta_up_m" 20, .f64Dnu "east_vel_m_s" 28,
        .f64Dnu "north_vel_m_s" 36, .f64Dnu "up_vel_m_s" 44]) frame.body off ∅) header.n 0 8

/-! ## Receiver -/

def qualityIndNames : List (Nat × String) :=
  [(0, "Overall quality"), (1, "GNSS signals from Main antenna"),
    (2, "GNSS signals from Aux1 antenna"), (11, "RF power level Main antenna"),
    (12, "RF power level Aux1 antenna"), (21, "CPU headroom"), (25, "OCXO stability"),
    (29, "Scintillation score"), (30, "Base-station measurements"),
    (31, "RTK post-processing prospect")]

def indicatorName (indType : Nat) : String :=
  (qualityIndNames.lookup indType).getD ("type_" ++ toString indType)

def decodeQualityInd (frame : SbfFrame) : Except PyError (List CsvRow) :=
  if frame.body.length < 8 then .ok []
  else do
    let tow ← unpackI frame.body 0
    let wnc ← unpackH frame.body 4
    let n ← byteAt frame.body 6
    subBlocks frame.body.length 2 (fun _ off => readFields (timeFields tow wnc ++
      [.unpacked "indicator_type" 0 2 u16le fun packed => .int (packed &&& 0xFF : Nat),
        .unpacked "indicator_name" 0 2 u16le fun packed =>
          .text (indicatorName (packed &&& 0xFF)),
        .unpacked "value" 0 2 u16le fun packed => dnuI ((packed >>> 8) &&& 0x0F : Nat) 15])
      frame.body off ∅) n 0 8

def decodeReceiverTime (frame : SbfFrame) : Except PyError (Option CsvRow) :=
  fixedRow 14
    [.u32 "tow_ms" 0, .u16 "wnc" 4, .i8Dnu "utc_year" 6, .i8Dnu "utc_month" 7,
      .i8Dnu "utc_day" 8, .i8Dnu "utc_hour" 9, .i8Dnu "utc_min" 10, .i8Dnu "utc_sec" 11,
      .i8Dnu "delta_ls" 12, .u8 "sync_level" 13] frame.body

/-- The fields that every row of a ReceiverStatus repeats. -/
def receiverStatusFields (agcIndex : Cell) : List Field :=
  [.u32 "tow_ms" 0, .u16 "wnc" 4, .u8Dnu "cpu_load_pct" 6 255, .u8 "ext_error" 7,
    .u32 "uptime_s" 8, .u32 "rx_state" 12, .u32 "rx_error" 16, .known "agc_index" agcIndex,
    .u8Dnu "cmd_count" 22 0,
    .byte "temperature_c" 23 fun raw => if raw = 0 then .empty else .int (raw - 100)]

def agcFields : List Field :=
  [.u8 "front_end_id" 0, .byte "front_end_code" 0 fun id => .int (id &&& 0x1F : Nat),
    .byte "antenna_id" 0 fun id => .int (antennaId id),
    .byte "antenna" 0 fun id => .text (antennaName (antennaId id)), .i8Dnu "gain_db" 1,
    .u8Dnu "sample_var" 2 0, .u8 "blanking_stat_pct" 3]

def decodeReceiverStatus (frame : SbfFrame) : Except PyError (List CsvRow) :=
  if frame.body.length < 24 then .ok []
  else do
    let n ← byteAt frame.body 20
    let sbLen ← byteAt frame.body 21
    if n = 0 then
      let base ← readFields (receiverStatusFields (.text "")) frame.body 0 ∅
      return [base]
    else if sbLen < 4 then return []
    else subBlocks frame.body.length sbLen (fun idx off => do
      let base ← readFields (receiverStatusFields (.int idx)) frame.body 0 ∅
      readFields agcFields frame.body off base) n 0 24

/-- The fields of a satellite. -/
def satelliteFields (header : SubBlockHeader) (satIdx : Nat) : List Field :=
  timeFields header.tow header.wnc ++
    [.known "sat_index" (.int satIdx), .u8 "svid" 0, .u16 "svid_full" 2, .u8 "freq_nr_raw" 1,
      .unpacked "azimuth_deg" 4 2 u16le fun azRs => dnuI (azRs &&& 0x01FF : Nat) 511,
      .unpacked "rise_set" 4 2 u16le fun azRs => .int ((azRs >>> 14) &&& 0x03 : Nat),
      .u16 "health_status" 6, .i8Dnu "elevation_deg" 8, .u8 "rx_channel" 10]

def channelStateFields (stateIdx : Nat) : List Field :=
  [.known "state_index" (.int stateIdx), .u8 "antenna_id" 0,
    .byte "antenna" 0 fun ant => .text (antennaName ant), .u16 "tracking_status" 2,
    .u16 "pvt_status" 4, .u16 "pvt_info" 6]

/-- The loop over the satellites; `count` of them are left. -/
def satelliteLoop (body : List Byte) (header : SubBlockHeader) (sb2Len : Nat) :
    Nat → Nat → Nat → Except PyError (List CsvRow)
  | 0, _, _ => .ok []
  | count + 1, satIdx, off =>
      if off + header.sbLen > body.length then .ok []
      else do
        let satellite ← readFields (satelliteFields header satIdx) body off ∅
        let n2 ← byteAt body (off + 9)
        let states ← subBlocks body.length sb2Len (fun stateIdx stateOff =>
          readFields (channelStateFields stateIdx) body stateOff satellite) n2 0
          (off + header.sbLen)
        let later ← satelliteLoop body header sb2Len count (satIdx + 1)
          (off + (header.sbLen + n2 * sb2Len))
        return states ++ later

def decodeChannelStatus (frame : SbfFrame) : Except PyError (List CsvRow) :=
  if frame.body.length < 12 then .ok []
  else do
    let header ← readSubBlockHeader frame.body
    let sb2Len ← byteAt frame.body 8
    if header.sbLen < 12 ∨ sb2Len < 8 then return []
    else satelliteLoop frame.body header sb2Len header.n 0 12

/-! ## External sensors -/

def sensorFields : List Field :=
  [.u32 "tow_ms" 0, .u16 "wnc" 4, .u8 "source" 6, .u8 "sensor_model" 7]

/-- A row over the data behind byte 8, with fields that only model 10 fills. -/
def sensorRow (front extra : List Field) (enough : Bool) (data body : List Byte) :
    Except PyError (Option CsvRow) :=
  if body.length < 8 then .ok none
  else do
    let row ← readFields (sensorFields ++ front) body 0 ∅
    let sensorModel ← byteAt body 7
    if sensorModel = 10 ∧ enough then
      let row ← readFields extra data 0 row
      return some row
    else return some row

def decodeExtSensorStatus (frame : SbfFrame) : Except PyError (Option CsvRow) :=
  sensorRow
    [.known "status_flags" (.text ""), .known "info_type" (.text ""),
      .known "info_value" (.text ""),
      .known "data_hex" (.text (hexDigits (frame.body.drop 8)))]
    [.u8 "status_flags" 8, .u8 "info_type" 9, .u16 "info_value" 10]
    (frame.body.length ≥ 12) frame.body frame.body

/-- The text before the first zero byte, with dots for what cannot be printed. -/
def printableAscii (data : List Byte) : String :=
  String.ofList ((data.takeWhile (· ≠ 0)).map fun byte =>
    if 32 ≤ byte.toNat ∧ byte.toNat < 127 then Char.ofNat byte.toNat else '.')

def decodeExtSensorInfo (frame : SbfFrame) : Except PyError (Option CsvRow) :=
  let data := frame.body.drop 8
  sensorRow
    [.known "product_code" (.text ""), .known "firmware_revision" (.text ""),
      .known "serial_number" (.text ""), .known "data_ascii" (.text (printableAscii data)),
      .known "data_hex" (.text (hexDigits data))]
    [.known "product_code" (.text (printableAscii (slice data 0 10))),
      .known "firmware_revision" (.text (printableAscii (slice data 10 26))),
      .u16 "serial_number" 26]
    (data.length ≥ 28) data frame.body

/-! ## Other blocks -/

def sbfIdNames : List (Nat × String) :=
  [(4000, "MeasExtra"), (4002, "GALNav"), (4003, "GALAlm"), (4004, "GLONav"), (4005, "GLOAlm"),
    (4006, "PVTGeodetic"), (4007, "PVTCartesian"), (4013, "ChannelStatus"),
    (4014, "ReceiverStatus"), (4015, "Commands"), (4017, "GPSRawCA"), (4018, "GPSRawL2C"),
    (4019, "GPSRawL5"), (4020, "GEORawL1"), (4021, "GEORawL5"), (4022, "GALRawFNAV"),
    (4023, "GALRawINAV"), (4026, "GLORawCA"), (4027, "MeasEpoch"), (4030, "GALIon"),
    (4031, "GALUtc"), (4032, "GALGstGps"), (4034, "GALSARRLM"), (4036, "GLOTime"),
    (4042, "GPSCNav"), (4047, "BDSRaw"), (4049, "RTCMDatum"), (4066, "QZSRawL1CA"),
    (4067, "QZSRawL2C"), (4068, "QZSRawL5"), (4050, "ExtSensorMeas"), (4081, "BDSNav"),
    (4082, "QualityInd"), (4095, "QZSNav"), (4116, "QZSAlm"), (4119, "BDSAlm"),
    (4120, "BDSIon"), (4121, "BDSUtc"), (4245, "GALAuthStatus"), (4222, "ExtSensorInfo"),
    (4223, "ExtSensorStatus"), (4224, "IMUSetup"), (5891, "GPSNav"), (5892, "GPSAlm"),
    (5893, "GPSIon"), (5894, "GPSUtc"), (5896, "GEONav"), (5897, "GEOAlm"),
    (5902, "ReceiverSetup"), (5914, "ReceiverTime"), (5917, "GEOServiceLevel"),
    (5918, "GEONetworkTime"), (5919, "DiffCorrIn"), (5922, "EndOfMeas"), (5925, "GEOMT00"),
    (5926, "GEOPRNMask"), (5927, "GEOFastCorr"), (5928, "GEOIntegrity"),
    (5929, "GEOFastCorrDegr"), (5930, "GEODegrFactors"), (5931, "GEOIGPMask"),
    (5932, "GEOLongTermCorr"), (5933, "GEOIonoDelay"), (5934, "GEOClockEphCovMatrix"),
    (5938, "AttEuler"), (5939, "AttCovEuler"), (5942, "AuxAntPositions"), (5943, "EndOfAtt"),
    (5949, "BaseStation")]

def blockName (blockId : Nat) : String := (sbfIdNames.lookup blockId).getD "Unknown"

/-- `tow_ms` and `wnc`, as far as the body holds them. -/
def gpsTimeFields (size : Nat) : List Field :=
  (if size ≥ 4 then [.u32 "tow_ms" 0] else []) ++ (if size ≥ 6 then [.u16 "wnc" 4] else [])

def rawBlockRow (frame : SbfFrame) : Except PyError CsvRow :=
  readFields (gpsTimeFields frame.body.length ++
    [.known "block_id" (.int frame.blockId), .known "block_name" (.text (blockName frame.blockId)),
      .known "revision" (.int frame.revision), .known "length" (.int frame.length),
      .known "frame_offset" (.int frame.offset),
      .known "body_hex" (.text (hexDigits frame.body))]) frame.body 0 ∅

/-! ## Decoding never raises -/

theorem stop_le {fields : List Field} {size : Nat}
    (fits : (fields.all fun field => field.stop ≤ size) = true) :
    ∀ field ∈ fields, field.stop ≤ size :=
  fun field member => of_decide_eq_true (List.all_eq_true.mp fits field member)

theorem readFields_fits {fields : List Field} (size : Nat)
    (fits : (fields.all fun field => field.stop ≤ size) = true) {body : List Byte} {off : Nat}
    (inside : off + size ≤ body.length) (row : CsvRow) :
    ∃ filled, readFields fields body off row = .ok filled := by
  apply readFields_ok
  intro field member
  have := stop_le fits field member
  omega

theorem fixedRow_ok {size : Nat} {fields : List Field} {body : List Byte}
    (inside : size ≤ body.length → ∀ field ∈ fields, field.stop ≤ body.length) :
    ∃ row, fixedRow size fields body = .ok row := by
  rw [fixedRow]
  split
  · exact ⟨none, rfl⟩
  · rename_i long
    have reads := readFields_ok (fun field member =>
      (Nat.zero_add field.stop).trans_le (inside (not_lt.mp long) field member)) ∅
    exact Checked.exists_return_eq_ok reads some

theorem fixedRow_fits {size : Nat} {fields : List Field}
    (fits : (fields.all fun field => field.stop ≤ size) = true) (body : List Byte) :
    ∃ row, fixedRow size fields body = .ok row :=
  fixedRow_ok fun long field member => (stop_le fits field member).trans long

theorem sensorRow_ok {front extra : List Field} {enough : Bool} {data body : List Byte}
    (frontFits : (front.all fun field => field.stop ≤ 8) = true)
    (extraFits : enough = true → ∀ field ∈ extra, field.stop ≤ data.length) :
    ∃ row, sensorRow front extra enough data body = .ok row := by
  rw [sensorRow]
  split
  · exact ⟨none, rfl⟩
  · have allFit : ((sensorFields ++ front).all fun field => field.stop ≤ 8) = true := by
      rw [List.all_append, frontFits]
      rfl
    rcases readFields_fits 8 allFit (show 0 + 8 ≤ body.length by omega) ∅ with ⟨row, read⟩
    rw [read, Checked.ok_bind, byteAt_eq (by omega), Checked.ok_bind]
    split
    · rename_i both
      have readsExtra := readFields_ok (fun field member =>
        (Nat.zero_add field.stop).trans_le (extraFits both.2 field member)) row
      exact Checked.exists_return_eq_ok readsExtra some
    · exact ⟨some row, rfl⟩

theorem readSubBlockHeader_ok {body : List Byte} (long : 8 ≤ body.length) :
    readSubBlockHeader body =
      .ok ⟨u32le body 0, u16le body 4, u8 body 6, u8 body 7⟩ := by
  simp (disch := omega) only [readSubBlockHeader, unpackI, unpackH, unpackFrom_eq, byteAt_eq,
    Checked.ok_bind, Checked.pure_eq_ok]

variable (frame : SbfFrame)

theorem decodeExtSensorMeas_ok : ∃ rows, decodeExtSensorMeas frame = .ok rows := by
  rw [decodeExtSensorMeas]
  split
  · exact ⟨[], rfl⟩
  · rw [readSubBlockHeader_ok (by omega), Checked.ok_bind]
    split
    · exact ⟨[], rfl⟩
    · rename_i wide
      apply subBlocks_ok
      intro _ off inside
      exact readFields_fits 28 rfl (by omega) ∅

theorem extSensorMeasEpochLoop_ok {sbLen : Nat} (wide : 28 ≤ sbLen) (body : List Byte)
    (count off : Nat) (row : CsvRow) :
    ∃ filled, extSensorMeasEpochLoop body sbLen count off row = .ok filled := by
  induction count generalizing off row with
  | zero => exact ⟨row, rfl⟩
  | succ count induction =>
      rw [extSensorMeasEpochLoop]
      split
      · exact ⟨row, rfl⟩
      · rename_i inside
        have record : off + 28 ≤ body.length := by omega
        obtain ⟨acc, accRead⟩ : ∃ filled, readFields accFields body off row = .ok filled :=
          readFields_fits 28 rfl record row
        obtain ⟨gyro, gyroRead⟩ : ∃ filled, readFields gyroFields body off row = .ok filled :=
          readFields_fits 28 rfl record row
        rw [byteAt_eq (by omega), Checked.ok_bind, accRead, gyroRead]
        split
        · exact induction (off + sbLen) acc
        · split
          · exact induction (off + sbLen) gyro
          · exact induction (off + sbLen) row

theorem decodeExtSensorMeasEpoch_ok : ∃ row, decodeExtSensorMeasEpoch frame = .ok row := by
  rw [decodeExtSensorMeasEpoch]
  split
  · exact ⟨none, rfl⟩
  · rw [readSubBlockHeader_ok (by omega), Checked.ok_bind]
    split
    · exact ⟨none, rfl⟩
    · rename_i wide
      obtain ⟨start, read⟩ : ∃ start, readFields (imuEpochFields ⟨u32le frame.body 0,
          u16le frame.body 4, u8 frame.body 6, u8 frame.body 7⟩) frame.body 0 ∅ = .ok start :=
        readFields_fits 0 rfl (Nat.zero_le _) ∅
      rw [read, Checked.ok_bind]
      exact Checked.exists_return_eq_ok (extSensorMeasEpochLoop_ok (not_lt.mp wide) _ _ _ _) some

theorem decodeAttEuler_ok : ∃ row, decodeAttEuler frame = .ok row := fixedRow_fits rfl _

theorem decodeAttCovEuler_ok : ∃ row, decodeAttCovEuler frame = .ok row := fixedRow_fits rfl _

theorem decodeReceiverTime_ok : ∃ row, decodeReceiverTime frame = .ok row := fixedRow_fits rfl _

theorem decodeAuxAntPositions_ok : ∃ rows, decodeAuxAntPositions frame = .ok rows := by
  rw [decodeAuxAntPositions]
  split
  · exact ⟨[], rfl⟩
  · rw [readSubBlockHeader_ok (by omega), Checked.ok_bind]
    split
    · exact ⟨[], rfl⟩
    · rename_i wide
      apply subBlocks_ok
      intro _ off inside
      exact readFields_fits 52 rfl (by omega) ∅

theorem decodeImuSetup_ok : ∃ row, decodeImuSetup frame = .ok row := by
  apply fixedRow_ok
  intro long field member
  rcases List.mem_append.mp member with port | angle
  · have fits : ∀ field ∈ portFields, field.stop ≤ 8 := stop_le rfl
    exact (fits field port).trans long
  · rcases List.mem_map.mp angle with ⟨entry, _, rfl⟩
    split
    · rename_i fits
      exact fits
    · exact Nat.zero_le _

theorem decodeQualityInd_ok : ∃ rows, decodeQualityInd frame = .ok rows := by
  rw [decodeQualityInd]
  split
  · exact ⟨[], rfl⟩
  · simp (disch := omega) only [unpackI, unpackH, unpackFrom_eq, byteAt_eq, Checked.ok_bind]
    apply subBlocks_ok
    intro _ off inside
    exact readFields_fits 2 rfl inside ∅

theorem decodeReceiverStatus_ok : ∃ rows, decodeReceiverStatus frame = .ok rows := by
  rw [decodeReceiverStatus]
  split
  · exact ⟨[], rfl⟩
  · have base : ∀ agcIndex, ∃ row,
        readFields (receiverStatusFields agcIndex) frame.body 0 ∅ = .ok row :=
      fun _ => readFields_fits 24 rfl (by omega) ∅
    rw [byteAt_eq (by omega), Checked.ok_bind, byteAt_eq (by omega), Checked.ok_bind]
    split
    · exact Checked.exists_return_eq_ok (base (.text "")) _
    · split
      · exact ⟨[], rfl⟩
      · rename_i wide
        apply subBlocks_ok
        intro idx off inside
        rcases base (.int idx) with ⟨row, read⟩
        rw [read]
        exact readFields_fits 4 rfl (by omega) row

theorem satelliteLoop_ok {header : SubBlockHeader} {sb2Len : Nat} (wide : 12 ≤ header.sbLen)
    (wide2 : 8 ≤ sb2Len) (body : List Byte) (count satIdx off : Nat) :
    ∃ rows, satelliteLoop body header sb2Len count satIdx off = .ok rows := by
  induction count generalizing satIdx off with
  | zero => exact ⟨[], rfl⟩
  | succ count induction =>
      rw [satelliteLoop]
      split
      · exact ⟨[], rfl⟩
      · rename_i inside
        obtain ⟨satellite, read⟩ : ∃ satellite,
            readFields (satelliteFields header satIdx) body off ∅ = .ok satellite :=
          readFields_fits 12 rfl (by omega) ∅
        have parses : ∀ stateIdx stateOff, stateOff + sb2Len ≤ body.length → ∃ row,
            readFields (channelStateFields stateIdx) body stateOff satellite = .ok row :=
          fun _ _ fits => readFields_fits 8 rfl (by omega) satellite
        rcases subBlocks_ok parses (u8 body (off + 9)) 0 (off + header.sbLen) with
          ⟨states, statesResult⟩
        rcases induction (satIdx + 1) (off + (header.sbLen + u8 body (off + 9) * sb2Len)) with
          ⟨later, result⟩
        refine ⟨states ++ later, ?_⟩
        rw [read, Checked.ok_bind, byteAt_eq (by omega), Checked.ok_bind, statesResult,
          Checked.ok_bind, result]
        rfl

theorem decodeChannelStatus_ok : ∃ rows, decodeChannelStatus frame = .ok rows := by
  rw [decodeChannelStatus]
  split
  · exact ⟨[], rfl⟩
  · rw [readSubBlockHeader_ok (by omega), Checked.ok_bind, byteAt_eq (by omega),
      Checked.ok_bind]
    split
    · exact ⟨[], rfl⟩
    · rename_i wide
      exact satelliteLoop_ok (by omega) (by omega) _ _ _ _

theorem decodeExtSensorStatus_ok : ∃ row, decodeExtSensorStatus frame = .ok row := by
  refine sensorRow_ok rfl fun enough field member => ?_
  exact (stop_le rfl field member).trans (of_decide_eq_true enough)

theorem decodeExtSensorInfo_ok : ∃ row, decodeExtSensorInfo frame = .ok row := by
  refine sensorRow_ok rfl fun enough field member => ?_
  exact (stop_le rfl field member).trans (of_decide_eq_true enough)

theorem rawBlockRow_ok : ∃ row, rawBlockRow frame = .ok row := by
  apply readFields_ok
  intro field member
  rcases List.mem_append.mp member with time | other
  · rcases List.mem_append.mp time with tow | wnc
    · split at tow
      · rename_i long
        rw [List.mem_singleton.mp tow]
        exact long
      · exact absurd tow List.not_mem_nil
    · split at wnc
      · rename_i long
        rw [List.mem_singleton.mp wnc]
        exact long
      · exact absurd wnc List.not_mem_nil
  · rw [Nat.zero_add]
    exact (stop_le rfl field other).trans (Nat.zero_le _)

end AsterxDriver.Parser
