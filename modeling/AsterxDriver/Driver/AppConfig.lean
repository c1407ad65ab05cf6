import AsterxDriver.Driver.ReceiverConfig
import AsterxDriver.Foundation.Checked

/-! # The configuration file

`app_config.hpp` and `app_config.cpp`. The document is a tree; what `yaml-cpp`
makes of its scalars, and the texts of its exceptions, come from outside. -/

namespace AsterxDriver.Driver

open Foundation

structure ConfigLoadError where
  what : Text
  deriving DecidableEq, Repr

/-- A node of the document. Only keys that are scalars can be asked for. -/
inductive Node
  | null
  | scalar (text : Text)
  | sequence (items : List Node)
  | map (entries : List (Text × Node))

/-- What the library gives, or the text of its exception. -/
structure Yaml (D : Type) where
  loadFile : Text → Except Text Node
  asString : Node → Except Text Text
  asInt : Node → Except Text ℤ
  asUint64 : Node → Except Text ℕ
  asBool : Node → Except Text Bool
  asDouble : Node → Except Text D
  badSubscript : Text → Text
  /-- For a node that is not there, by the key it was asked for. -/
  invalidNode : Text → Text

/-- An exception on the way, before `load_app_config` turns it into its own. -/
inductive LoadFault
  | load (fault : ConfigLoadError)
  | config (fault : ConfigError)
  | other (what : Text)
  deriving DecidableEq, Repr

abbrev Loading := Except LoadFault

/-- The receiver also has the credentials, which nothing reads. -/
structure AppConfig (D : Type) where
  host : Text
  ctrlPort : BitVec 16
  user : Text
  password : Text
  outputDir : Text
  filePrefix : Text
  rotateBytes : ℕ
  rotateIntervalSeconds : ℤ
  logDir : Text
  logLevel : Text
  logMaxSize : ℕ
  logMaxFiles : ℤ
  receiver : ReceiverSettings D
  useSensorDefault : Bool

/-! ## Defaults -/

def defaultStreams : List SbfStream :=
  [⟨1, ["ExtSensorMeas".toList], "OnChange".toList⟩,
    ⟨2, ["MeasEpoch".toList, "MeasExtra".toList, "EndOfMeas".toList], "OnChange".toList⟩,
    ⟨3, ["AuxAntPositions".toList, "AttEuler".toList, "AttCovEuler".toList,
      "EndOfAtt".toList], "OnChange".toList⟩,
    ⟨4, ["ExtSensorStatus".toList, "ExtSensorInfo".toList, "IMUSetup".toList],
      "OnChange".toList⟩,
    ⟨5, ["ReceiverStatus".toList, "QualityInd".toList, "ReceiverTime".toList,
      "ChannelStatus".toList], "OnChange".toList⟩,
    ⟨6, ["GPS".toList, "GLO".toList, "GAL".toList, "BDS".toList, "QZS".toList,
      "RawNavBits".toList, "ReceiverSetup".toList, "Commands".toList, "DiffCorr".toList],
      "OnChange".toList⟩]

section

variable {D : Type} [DecimalArithmetic D]

open DecimalArithmetic (ofRat)

def ReceiverSettings.default : ReceiverSettings D where
  ipsId := 1
  ipsPort := 28785
  streams := defaultStreams
  imuStartupDataMode := "Boot".toList
  imuOrientationMode := "SensorDefault".toList
  thetaXDeg := ofRat 0
  thetaYDeg := ofRat 0
  thetaZDeg := ofRat 0
  antLeverArmM := ⟨ofRat 0, ofRat 0, ofRat 0⟩
  antLeverArmConfigured := false
  requireAux1 := true
  gnssAttitudeMode := "MultiAntenna".toList
  attitudeOffsetDeg := ⟨ofRat 0, ofRat 0⟩
  configureAllTracking := true
  cn0MaskDbhz := 0

def AppConfig.default : AppConfig D where
  host := "192.168.3.1".toList
  ctrlPort := 28784
  user := "admin".toList
  password := "admin".toList
  outputDir := "./recordings".toList
  filePrefix := "asterx".toList
  rotateBytes := 2 ^ 30
  rotateIntervalSeconds := 3600
  logDir := "./logs".toList
  logLevel := "info".toList
  logMaxSize := 100 * 1024 * 1024
  logMaxFiles := 5
  receiver := .default
  useSensorDefault := true

end

/-! ## Nodes -/

namespace Yaml

variable {D : Type} (yaml : Yaml D)

/-- The text of an exception of the library. -/
def convert (action : Except Text α) : Loading α := action.mapError .other

/-- `operator[]`. A scalar has no members. -/
def get (key : Text) : Node → Loading (Option Node)
  | .null => .ok none
  | .scalar _ => .error (.other (yaml.badSubscript key))
  | .sequence _ => .ok none
  | .map entries => .ok (entries.lookup key)

/-- A member that keeps its value when the key is absent. -/
def field (node : Node) (key : String) (read : Node → Loading α) (value : α) : Loading α := do
  match ← yaml.get key.toList node with
  | none => return value
  | some member => read member

/-- A member that must be there. -/
def member (node : Node) (key : String) (read : Node → Loading α) : Loading α := do
  match ← yaml.get key.toList node with
  | none => .error (.other (yaml.invalidNode key.toList))
  | some member => read member

def string (node : Node) : Loading Text := convert (yaml.asString node)

def int (node : Node) : Loading ℤ := convert (yaml.asInt node)

def uint64 (node : Node) : Loading ℕ := convert (yaml.asUint64 node)

def bool (node : Node) : Loading Bool := convert (yaml.asBool node)

def double (node : Node) : Loading D := convert (yaml.asDouble node)

def readPort (key : String) (node : Node) : Loading (BitVec 16) := do
  let value ← yaml.int node
  if value < 1 ∨ value > 65535 then
    .error (.load ⟨key.toList ++ " must be in range 1..65535".toList⟩)
  else return BitVec.ofInt 16 value

def readVec3 (path : Text) (node : Node) : Loading (Vec3 D) :=
  match node with
  | .sequence [x, y, z] => do
      return ⟨← yaml.double x, ← yaml.double y, ← yaml.double z⟩
  | .sequence _ =>
      .error (.load ⟨path ++ " sequence must contain exactly three values".toList⟩)
  | .map entries =>
      match entries.lookup "x".toList, entries.lookup "y".toList, entries.lookup "z".toList with
      | some x, some y, some z => do
          return ⟨← yaml.double x, ← yaml.double y, ← yaml.double z⟩
      | _, _, _ => .error (.load ⟨path ++ " must contain x, y, and z".toList⟩)
  | _ => .error (.load ⟨path ++ " must contain x, y, and z".toList⟩)

def attitudeOffsetMissing : ConfigLoadError :=
  ⟨"receiver.gnss_attitude.attitude_offset_deg must contain heading and pitch".toList⟩

def readAttitudeOffset (node : Node) : Loading (AttitudeOffset D) :=
  match node with
  | .map entries =>
      match entries.lookup "heading".toList, entries.lookup "pitch".toList with
      | some heading, some pitch => do return ⟨← yaml.double heading, ← yaml.double pitch⟩
      | _, _ => .error (.load attitudeOffsetMissing)
  | _ => .error (.load attitudeOffsetMissing)

/-- The loop over `s["blocks"]`. The members of a map are not nodes of their own. -/
def readBlocks : Option Node → Loading (List Text)
  | some (.sequence items) => items.mapM yaml.string
  | some (.map (_ :: _)) => .error (.other (yaml.invalidNode []))
  | _ => .ok []

def readStream (node : Node) : Loading SbfStream := do
  let streamId ← yaml.member node "id" yaml.int
  let interval ← yaml.member node "interval" yaml.string
  let blocks ← yaml.readBlocks (← yaml.get "blocks".toList node)
  return ⟨streamId, blocks, interval⟩

/-! ## Sections -/

/-- The legacy key counts only without the new one. -/
def readOrientation (orientation : Text) (node : Node) : Loading Text := do
  match ← yaml.get "orientation_mode".toList node with
  | some mode => yaml.string mode
  | none =>
      let legacyMode := fun legacy => do
        let useSensorDefault ← yaml.bool legacy
        return if useSensorDefault then "SensorDefault".toList else "manual".toList
      yaml.field node "use_sensor_default" legacyMode orientation

def parseImu (receiver : ReceiverSettings D) (node : Node) : Loading (ReceiverSettings D) := do
  let startup ← yaml.field node "startup_data_mode" yaml.string receiver.imuStartupDataMode
  let orientation ← yaml.readOrientation receiver.imuOrientationMode node
  let thetaX ← yaml.field node "theta_x_deg" yaml.double receiver.thetaXDeg
  let thetaY ← yaml.field node "theta_y_deg" yaml.double receiver.thetaYDeg
  let thetaZ ← yaml.field node "theta_z_deg" yaml.double receiver.thetaZDeg
  let readLeverArm := fun arm => do
    let leverArm ← yaml.readVec3 "receiver.imu.ant_lever_arm_m".toList arm
    return (leverArm, true)
  let leverArm ← yaml.field node "ant_lever_arm_m" readLeverArm
    (receiver.antLeverArmM, receiver.antLeverArmConfigured)
  return { receiver with
    imuStartupDataMode := startup
    imuOrientationMode := orientation
    thetaXDeg := thetaX
    thetaYDeg := thetaY
    thetaZDeg := thetaZ
    antLeverArmM := leverArm.1
    antLeverArmConfigured := leverArm.2 }

def parseAttitude (receiver : ReceiverSettings D) (node : Node) :
    Loading (ReceiverSettings D) := do
  let mode ← yaml.field node "mode" yaml.string receiver.gnssAttitudeMode
  let offset ← yaml.field node "attitude_offset_deg" yaml.readAttitudeOffset
    receiver.attitudeOffsetDeg
  return { receiver with gnssAttitudeMode := mode, attitudeOffsetDeg := offset }

def parseTracking (receiver : ReceiverSettings D) (node : Node) :
    Loading (ReceiverSettings D) := do
  let enableAll ← yaml.field node "enable_all" yaml.bool receiver.configureAllTracking
  let mask ← yaml.field node "cn0_mask_dbhz" yaml.int receiver.cn0MaskDbhz
  return { receiver with configureAllTracking := enableAll, cn0MaskDbhz := mask }

/-- Anything but a sequence leaves the streams as they are. -/
def readStreams (streams : List SbfStream) : Node → Loading (List SbfStream)
  | .sequence items => items.mapM yaml.readStream
  | _ => .ok streams

def parseReceiver (receiver : ReceiverSettings D) (node : Node) :
    Loading (ReceiverSettings D) := do
  let ipsId ← yaml.field node "ips_id" yaml.int receiver.ipsId
  let ipsPort ← yaml.field node "ips_port" (yaml.readPort "ips_port") receiver.ipsPort
  let requireAux1 ← yaml.field node "require_aux1" yaml.bool receiver.requireAux1
  let receiver := { receiver with ipsId := ipsId, ipsPort := ipsPort, requireAux1 := requireAux1 }
  let receiver ← yaml.field node "imu" (yaml.parseImu receiver) receiver
  let receiver ← yaml.field node "gnss_attitude" (yaml.parseAttitude receiver) receiver
  let receiver ← yaml.field node "tracking" (yaml.parseTracking receiver) receiver
  let streams ← yaml.field node "streams" (yaml.readStreams receiver.streams) receiver.streams
  return { receiver with streams := streams }

def parseConnection (config : AppConfig D) (node : Node) : Loading (AppConfig D) := do
  let host ← yaml.field node "host" yaml.string config.host
  let port ← yaml.field node "port" (yaml.readPort "port") config.ctrlPort
  let user ← yaml.field node "user" yaml.string config.user
  let password ← yaml.field node "password" yaml.string config.password
  return { config with host := host, ctrlPort := port, user := user, password := password }

def parseOutput (config : AppConfig D) (node : Node) : Loading (AppConfig D) := do
  let dir ← yaml.field node "dir" yaml.string config.outputDir
  let filePrefix ← yaml.field node "file_prefix" yaml.string config.filePrefix
  let rotateBytes ← yaml.field node "rotate_bytes" yaml.uint64 config.rotateBytes
  let rotateInterval ← yaml.field node "rotate_interval_s" yaml.int config.rotateIntervalSeconds
  return { config with
    outputDir := dir
    filePrefix := filePrefix
    rotateBytes := rotateBytes
    rotateIntervalSeconds := rotateInterval }

def parseLog (config : AppConfig D) (node : Node) : Loading (AppConfig D) := do
  let dir ← yaml.field node "dir" yaml.string config.logDir
  let level ← yaml.field node "level" yaml.string config.logLevel
  let maxSize ← yaml.field node "max_size" yaml.uint64 config.logMaxSize
  let maxFiles ← yaml.field node "max_files" yaml.int config.logMaxFiles
  return { config with
    logDir := dir
    logLevel := level
    logMaxSize := maxSize
    logMaxFiles := maxFiles }

/-- The end of `parse_receiver` keeps the legacy flag and the mode together. -/
def withReceiver (config : AppConfig D) (node : Node) : Loading (AppConfig D) := do
  let receiver ← yaml.parseReceiver config.receiver node
  return { config with
    receiver := receiver
    useSensorDefault := lowerCopy receiver.imuOrientationMode == "sensordefault".toList }

variable [DecimalArithmetic D]

def readConfig (root : Node) : Loading (AppConfig D) := do
  let config ← yaml.field root "connection" (yaml.parseConnection .default) .default
  let config ← yaml.field root "output" (yaml.parseOutput config) config
  let config ← yaml.field root "log" (yaml.parseLog config) config
  let config ← yaml.field root "receiver" (yaml.withReceiver config) config
  (validateReceiverSettings config.receiver).mapError .config
  return config

def loadFault (path : Text) : LoadFault → ConfigLoadError
  | .load fault => fault
  | .config fault => ⟨fault.what⟩
  | .other what => ⟨"invalid config '".toList ++ path ++ "': ".toList ++ what⟩

def loadAppConfig (path : Text) : Except ConfigLoadError (AppConfig D) :=
  match yaml.loadFile path with
  | .error what =>
      .error ⟨"failed to load config '".toList ++ path ++ "': ".toList ++ what⟩
  | .ok root => (yaml.readConfig root).mapError (loadFault path)

end Yaml

/-! ## Accepted files -/

/-- What holds of the configuration after each section. -/
structure Sound {D : Type} (config : AppConfig D) : Prop where
  ctrlPort : config.ctrlPort ≠ 0
  ipsPort : config.receiver.ipsPort ≠ 0
  orientation : config.useSensorDefault =
    equalsCi config.receiver.imuOrientationMode "SensorDefault".toList

/-- What `main` may rely on. -/
structure Accepted {D : Type} [DecimalArithmetic D] (config : AppConfig D) : Prop
    extends Sound config where
  valid : validateReceiverSettings config.receiver = .ok ()

section

variable {D : Type} {yaml : Yaml D}

/-- A member keeps its value or is read from a node. -/
theorem field_eq_ok {node : Node} {key : String} {read : Node → Loading α} {value result : α}
    (loaded : yaml.field node key read value = .ok result) :
    result = value ∨ ∃ member, read member = .ok result := by
  rcases Checked.bind_eq_ok.mp loaded with ⟨found, _, rest⟩
  cases found with
  | none =>
      cases rest
      exact .inl rfl
  | some member => exact .inr ⟨member, rest⟩

theorem field_keeps {P : α → Prop} {node : Node} {key : String}
    {read : Node → Loading α} {value result : α}
    (loaded : yaml.field node key read value = .ok result) (holds : P value)
    (kept : ∀ member result, read member = .ok result → P result) : P result := by
  rcases field_eq_ok loaded with rfl | ⟨member, succeeds⟩
  · exact holds
  · exact kept member result succeeds

theorem readPort_ne_zero {key : String} {node : Node} {port : BitVec 16}
    (read : yaml.readPort key node = .ok port) : port ≠ 0 := by
  rcases Checked.bind_eq_ok.mp read with ⟨value, _, rest⟩
  split at rest
  · cases rest
  · rename_i inRange
    cases rest
    intro zero
    have number := congrArg BitVec.toNat zero
    rw [BitVec.toNat_ofInt, Int.emod_eq_of_lt (by omega) (by omega)] at number
    simp only [BitVec.ofNat_eq_ofNat, BitVec.toNat_ofNat] at number
    omega

theorem parseConnection_port {config result : AppConfig D} {node : Node}
    (parsed : yaml.parseConnection config node = .ok result) (port : config.ctrlPort ≠ 0) :
    result.ctrlPort ≠ 0 ∧ result.receiver = config.receiver ∧
      result.useSensorDefault = config.useSensorDefault := by
  rcases Checked.bind_eq_ok.mp parsed with ⟨host, _, parsed⟩
  rcases Checked.bind_eq_ok.mp parsed with ⟨newPort, read, parsed⟩
  rcases Checked.bind_eq_ok.mp parsed with ⟨user, _, parsed⟩
  rcases Checked.bind_eq_ok.mp parsed with ⟨password, _, parsed⟩
  have nonzero : newPort ≠ 0 :=
    field_keeps (P := (· ≠ 0)) read port fun _ _ => readPort_ne_zero
  cases parsed
  exact ⟨nonzero, rfl, rfl⟩

theorem parseOutput_port {config result : AppConfig D} {node : Node}
    (parsed : yaml.parseOutput config node = .ok result) :
    result.ctrlPort = config.ctrlPort ∧ result.receiver = config.receiver ∧
      result.useSensorDefault = config.useSensorDefault := by
  rcases Checked.bind_eq_ok.mp parsed with ⟨dir, _, parsed⟩
  rcases Checked.bind_eq_ok.mp parsed with ⟨filePrefix, _, parsed⟩
  rcases Checked.bind_eq_ok.mp parsed with ⟨rotateBytes, _, parsed⟩
  rcases Checked.bind_eq_ok.mp parsed with ⟨rotateInterval, _, parsed⟩
  cases parsed
  exact ⟨rfl, rfl, rfl⟩

theorem parseLog_port {config result : AppConfig D} {node : Node}
    (parsed : yaml.parseLog config node = .ok result) :
    result.ctrlPort = config.ctrlPort ∧ result.receiver = config.receiver ∧
      result.useSensorDefault = config.useSensorDefault := by
  rcases Checked.bind_eq_ok.mp parsed with ⟨dir, _, parsed⟩
  rcases Checked.bind_eq_ok.mp parsed with ⟨level, _, parsed⟩
  rcases Checked.bind_eq_ok.mp parsed with ⟨maxSize, _, parsed⟩
  rcases Checked.bind_eq_ok.mp parsed with ⟨maxFiles, _, parsed⟩
  cases parsed
  exact ⟨rfl, rfl, rfl⟩

theorem parseImu_port {receiver result : ReceiverSettings D} {node : Node}
    (parsed : yaml.parseImu receiver node = .ok result) : result.ipsPort = receiver.ipsPort := by
  rcases Checked.bind_eq_ok.mp parsed with ⟨startup, _, parsed⟩
  rcases Checked.bind_eq_ok.mp parsed with ⟨orientation, _, parsed⟩
  rcases Checked.bind_eq_ok.mp parsed with ⟨thetaX, _, parsed⟩
  rcases Checked.bind_eq_ok.mp parsed with ⟨thetaY, _, parsed⟩
  rcases Checked.bind_eq_ok.mp parsed with ⟨thetaZ, _, parsed⟩
  rcases Checked.bind_eq_ok.mp parsed with ⟨leverArm, _, parsed⟩
  cases parsed
  rfl

theorem parseAttitude_port {receiver result : ReceiverSettings D} {node : Node}
    (parsed : yaml.parseAttitude receiver node = .ok result) :
    result.ipsPort = receiver.ipsPort := by
  rcases Checked.bind_eq_ok.mp parsed with ⟨mode, _, parsed⟩
  rcases Checked.bind_eq_ok.mp parsed with ⟨offset, _, parsed⟩
  cases parsed
  rfl

theorem parseTracking_port {receiver result : ReceiverSettings D} {node : Node}
    (parsed : yaml.parseTracking receiver node = .ok result) :
    result.ipsPort = receiver.ipsPort := by
  rcases Checked.bind_eq_ok.mp parsed with ⟨enableAll, _, parsed⟩
  rcases Checked.bind_eq_ok.mp parsed with ⟨mask, _, parsed⟩
  cases parsed
  rfl

theorem parseReceiver_port {receiver result : ReceiverSettings D} {node : Node}
    (parsed : yaml.parseReceiver receiver node = .ok result) (port : receiver.ipsPort ≠ 0) :
    result.ipsPort ≠ 0 := by
  rcases Checked.bind_eq_ok.mp parsed with ⟨ipsId, _, parsed⟩
  rcases Checked.bind_eq_ok.mp parsed with ⟨ipsPort, read, parsed⟩
  rcases Checked.bind_eq_ok.mp parsed with ⟨requireAux1, _, parsed⟩
  rcases Checked.bind_eq_ok.mp parsed with ⟨withImu, imu, parsed⟩
  rcases Checked.bind_eq_ok.mp parsed with ⟨withAttitude, attitude, parsed⟩
  rcases Checked.bind_eq_ok.mp parsed with ⟨withTracking, tracking, parsed⟩
  rcases Checked.bind_eq_ok.mp parsed with ⟨streams, _, parsed⟩
  have nonzero : ipsPort ≠ 0 :=
    field_keeps (P := (· ≠ 0)) read port fun _ _ => readPort_ne_zero
  have first : withImu.ipsPort = ipsPort :=
    field_keeps (P := (·.ipsPort = ipsPort)) imu rfl fun _ _ => parseImu_port
  have second : withAttitude.ipsPort = withImu.ipsPort :=
    field_keeps (P := (·.ipsPort = withImu.ipsPort)) attitude rfl fun _ _ => parseAttitude_port
  have third : withTracking.ipsPort = withAttitude.ipsPort :=
    field_keeps (P := (·.ipsPort = withAttitude.ipsPort)) tracking rfl
      fun _ _ => parseTracking_port
  cases parsed
  rw [third, second, first]
  exact nonzero

theorem Sound.of_same {config result : AppConfig D} (sound : Sound config)
    (ctrlPort : result.ctrlPort ≠ 0) (receiver : result.receiver = config.receiver)
    (flag : result.useSensorDefault = config.useSensorDefault) : Sound result :=
  ⟨ctrlPort, receiver ▸ sound.ipsPort, by rw [flag, receiver, sound.orientation]⟩

theorem withReceiver_sound {config result : AppConfig D} {node : Node}
    (parsed : yaml.withReceiver config node = .ok result) (sound : Sound config) :
    Sound result := by
  rcases Checked.bind_eq_ok.mp parsed with ⟨receiver, read, parsed⟩
  cases parsed
  exact ⟨sound.ctrlPort, parseReceiver_port read sound.ipsPort, rfl⟩

variable [DecimalArithmetic D]

theorem default_sound : Sound (AppConfig.default : AppConfig D) := by
  refine ⟨?_, ?_, ?_⟩
  · change (28784 : BitVec 16) ≠ 0
    decide
  · change (28785 : BitVec 16) ≠ 0
    decide
  · change true = equalsCi "SensorDefault".toList "SensorDefault".toList
    decide

theorem readConfig_accepted {root : Node} {config : AppConfig D}
    (read : yaml.readConfig root = .ok config) : Accepted config := by
  rcases Checked.bind_eq_ok.mp read with ⟨connected, connection, read⟩
  rcases Checked.bind_eq_ok.mp read with ⟨withOutput, output, read⟩
  rcases Checked.bind_eq_ok.mp read with ⟨withLog, log, read⟩
  rcases Checked.bind_eq_ok.mp read with ⟨complete, receiver, read⟩
  rcases Checked.bind_eq_ok.mp read with ⟨_, checked, read⟩
  have first : Sound connected :=
    field_keeps connection default_sound fun _ _ parsed =>
      have kept := parseConnection_port parsed default_sound.ctrlPort
      default_sound.of_same kept.1 kept.2.1 kept.2.2
  have second : Sound withOutput :=
    field_keeps output first fun _ _ parsed =>
      have kept := parseOutput_port parsed
      first.of_same (kept.1 ▸ first.ctrlPort) kept.2.1 kept.2.2
  have third : Sound withLog :=
    field_keeps log second fun _ _ parsed =>
      have kept := parseLog_port parsed
      second.of_same (kept.1 ▸ second.ctrlPort) kept.2.1 kept.2.2
  have fourth : Sound complete :=
    field_keeps receiver third fun _ _ parsed => withReceiver_sound parsed third
  have valid : validateReceiverSettings complete.receiver = .ok () := by
    cases outcome : validateReceiverSettings complete.receiver with
    | error fault =>
        rw [outcome] at checked
        cases checked
    | ok _ => rfl
  cases read
  exact ⟨fourth, valid⟩

theorem accepted_of_loadAppConfig {path : Text} {config : AppConfig D}
    (loaded : yaml.loadAppConfig path = .ok config) : Accepted config := by
  unfold Yaml.loadAppConfig at loaded
  split at loaded
  · cases loaded
  · rename_i root _
    cases read : yaml.readConfig root with
    | error fault =>
        rw [read] at loaded
        cases loaded
    | ok result =>
        rw [read] at loaded
        cases loaded
        exact readConfig_accepted read

end

end AsterxDriver.Driver
