import AsterxDriver.Driver.TcpClient
import AsterxDriver.Foundation.DecimalText
import AsterxDriver.Foundation.Interaction

/-! # Receiver configuration

`receiver_config.hpp` and `receiver_config.cpp`. The configurator asks for the
banner and for the replies to its commands, and does not see how they travel. -/

namespace AsterxDriver.Driver

open Foundation

structure ConfigError where
  what : Text
  deriving DecidableEq, Repr

structure SbfStream where
  streamId : ℤ
  blocks : List Text
  interval : Text
  deriving DecidableEq, Repr

structure Vec3 (D : Type) where
  x : D
  y : D
  z : D

structure AttitudeOffset (D : Type) where
  headingDeg : D
  pitchDeg : D

structure ReceiverCapabilities where
  hasMain : Bool
  hasAux1 : Bool
  measurementIntervalMs : ℤ
  pvtIntervalMs : ℤ
  insIntervalMs : ℤ
  deriving DecidableEq, Repr

/-- The credentials are arguments of `login`, and `use_sensor_default` is only
read by the configuration file. -/
structure ReceiverSettings (D : Type) where
  ipsId : ℤ
  ipsPort : BitVec 16
  streams : List SbfStream
  imuStartupDataMode : Text
  imuOrientationMode : Text
  thetaXDeg : D
  thetaYDeg : D
  thetaZDeg : D
  antLeverArmM : Vec3 D
  antLeverArmConfigured : Bool
  requireAux1 : Bool
  gnssAttitudeMode : Text
  attitudeOffsetDeg : AttitudeOffset D
  configureAllTracking : Bool
  cn0MaskDbhz : ℤ

/-! ## Text -/

def kMaxAsciiCommandLength : ℕ := 2000

def join (parts : List Text) (separator : Char) : Text := [separator].intercalate parts

def trim (text : Text) : Text := (text.dropWhile isSpace).rdropWhile isSpace

def lowerCopy (text : Text) : Text := text.map Char.toLower

def equalsCi (a b : Text) : Bool := lowerCopy a == lowerCopy b

def startsWithCi (text start : Text) : Bool :=
  if text.length < start.length then false
  else lowerCopy (text.take start.length) == lowerCopy start

def split (text : Text) (separator : Char) : List Text := (getlines separator text).map trim

def integerText (value : ℤ) : Text := (toString value).toList

def parseIntPrefix (text field : Text) : Except ConfigError ℤ :=
  match extractInt (trim text) with
  | none => .error ⟨"could not parse integer field '".toList ++ field ++ "' from '".toList ++
      text ++ "'".toList⟩
  | some value => .ok value

/-- The payload of the first line that starts with the key. -/
def findPayload (start : Text) : List Text → Option Text
  | [] => none
  | line :: lines =>
      if startsWithCi (trim line) start then some (trim ((trim line).drop start.length))
      else findPayload start lines

def findConfigLinePayload (reply key : Text) : Except ConfigError Text :=
  match findPayload (key ++ ",".toList) (getlines '\n' reply) with
  | none => .error ⟨"receiver reply did not contain '".toList ++ key ++ "' line: ".toList ++ reply⟩
  | some payload => .ok payload

def compactPayloadAfterKey (reply key : Text) : Except ConfigError Text :=
  let marker := key ++ ",".toList
  match search marker reply with
  | none =>
      .error ⟨"receiver reply did not contain '".toList ++ key ++ "' payload: ".toList ++ reply⟩
  | some index =>
      let payload := (reply.drop (index + marker.length)).takeWhile (· ≠ '>')
      .ok (payload.map fun char => if char ∈ ['\r', '\n', '\t'] then ' ' else char)

def redactCmd (cmd : Text) : Text :=
  if "login".toList <+: cmd then "login, <REDACTED>, <REDACTED>".toList else cmd

/-! ## Commands -/

/-- The commands that set SBF output are kept apart. -/
inductive Command
  | sbfOutput (stream : SbfStream) (ipsId : ℤ)
  | clearStream (streamId : ℤ)
  | line (text : Text)
  deriving DecidableEq, Repr

def Command.text : Command → Text
  | .sbfOutput stream ipsId =>
      "setSBFOutput, Stream".toList ++ integerText stream.streamId ++ ", IPS".toList ++
        integerText ipsId ++ ", ".toList ++ join stream.blocks '+' ++ ", ".toList ++
        stream.interval
  | .clearStream streamId =>
      "setSBFOutput, Stream".toList ++ integerText streamId ++ ", none, none, off".toList
  | .line text => text

def allowedIntervals : List Text :=
  ["onchange", "off", "msec5", "msec10", "msec20", "msec40", "msec50", "msec100", "msec200",
    "msec500", "sec1", "sec2", "sec5", "sec10", "sec15", "sec30", "sec60", "min2", "min5",
    "min10", "min15", "min30", "min60"].map String.toList

def isValidSbfInterval (interval : Text) : Bool := lowerCopy interval ∈ allowedIntervals

def buildSbfOutputCommand (stream : SbfStream) (ipsId : ℤ) : Except ConfigError Command :=
  if stream.streamId < 1 ∨ stream.streamId > 10 then
    .error ⟨"SBF stream id must be in range 1..10".toList⟩
  else if ipsId < 1 ∨ ipsId > 5 then .error ⟨"IPS id must be in range 1..5".toList⟩
  else if stream.blocks = [] then
    .error ⟨"SBF stream must contain at least one block".toList⟩
  else if ¬isValidSbfInterval stream.interval then
    .error ⟨"unsupported SBF interval '".toList ++ stream.interval ++ "'".toList⟩
  else if (Command.sbfOutput stream ipsId).text.length > kMaxAsciiCommandLength then
    .error ⟨"ASCII command exceeds Septentrio 2000-character limit".toList⟩
  else .ok (.sbfOutput stream ipsId)

section

variable {D : Type} [DecimalArithmetic D]

open DecimalArithmetic (ofRat fabs less atMost)

def fmtCommandDecimal (value : D) : Text :=
  let value := if less (fabs value) (ofRat (5 / 10000)) then ofRat 0 else value
  DecimalArithmetic.printFixed 3 value

def parseDoublePrefix (text field : Text) : Except ConfigError D :=
  match DecimalArithmetic.extract (trim text) with
  | none => .error ⟨"could not parse numeric field '".toList ++ field ++ "' from '".toList ++
      text ++ "'".toList⟩
  | some value => .ok value

def closeEnough (a b : D) : Bool := atMost (fabs (DecimalArithmetic.sub a b)) (ofRat (1 / 1000))

def setOrientationCommand (settings : ReceiverSettings D) : Text :=
  if equalsCi settings.imuOrientationMode "SensorDefault".toList then
    "setIMUOrientation, SensorDefault".toList
  else
    "setIMUOrientation, ".toList ++ settings.imuOrientationMode ++ ", ".toList ++
      fmtCommandDecimal settings.thetaXDeg ++ ", ".toList ++
      fmtCommandDecimal settings.thetaYDeg ++ ", ".toList ++
      fmtCommandDecimal settings.thetaZDeg

def setVec3Command (name : Text) (value : Vec3 D) : Text :=
  name ++ ", ".toList ++ fmtCommandDecimal value.x ++ ", ".toList ++
    fmtCommandDecimal value.y ++ ", ".toList ++ fmtCommandDecimal value.z

def buildInsAntLeverArmCommand (leverArmM : Vec3 D) : Text :=
  setVec3Command "setINSAntLeverArm".toList leverArmM

def setAttitudeOffsetCommand (offset : AttitudeOffset D) : Text :=
  "setAttitudeOffset, ".toList ++ fmtCommandDecimal offset.headingDeg ++ ", ".toList ++
    fmtCommandDecimal offset.pitchDeg

/-! ## Replies -/

def parseReceiverCapabilitiesReply (reply : Text) : Except ConfigError ReceiverCapabilities := do
  let payload ← compactPayloadAfterKey reply "ReceiverCapabilities".toList
  let fields := split payload ','
  if fields.length < 7 then
    .error ⟨"ReceiverCapabilities reply had too few fields: ".toList ++ reply⟩
  else
    let antennas := split (fields.getD 0 []) '+'
    let field index := fields.getD (fields.length - index) []
    return {
      hasMain := antennas.any (equalsCi · "Main".toList)
      hasAux1 := antennas.any (equalsCi · "Aux1".toList)
      measurementIntervalMs := ← parseIntPrefix (field 3) "measurement_interval_ms".toList
      pvtIntervalMs := ← parseIntPrefix (field 2) "pvt_interval_ms".toList
      insIntervalMs := ← parseIntPrefix (field 1) "ins_interval_ms".toList }

def verifyImuOrientationReply (reply : Text) (settings : ReceiverSettings D) :
    Except ConfigError Unit := do
  let fields := split (← findConfigLinePayload reply "IMUOrientation".toList) ','
  let mode := settings.imuOrientationMode
  if fields = [] then
    .error ⟨"IMUOrientation reply did not contain an orientation mode".toList⟩
  else if ¬equalsCi (fields.getD 0 []) mode then
    .error ⟨"IMU orientation mismatch: expected ".toList ++ mode ++ ", got ".toList ++
      fields.getD 0 []⟩
  else if equalsCi mode "SensorDefault".toList then return
  else if fields.length < 4 then
    .error ⟨"IMUOrientation reply did not include theta values".toList⟩
  else
    let thetaX : D ← parseDoublePrefix (fields.getD 1 []) "ThetaX".toList
    let thetaY : D ← parseDoublePrefix (fields.getD 2 []) "ThetaY".toList
    let thetaZ : D ← parseDoublePrefix (fields.getD 3 []) "ThetaZ".toList
    if ¬closeEnough thetaX settings.thetaXDeg ∨ ¬closeEnough thetaY settings.thetaYDeg ∨
        ¬closeEnough thetaZ settings.thetaZDeg then
      .error ⟨"IMU orientation theta values do not match requested config".toList⟩

def verifyInsAntLeverArmReply (reply : Text) (expected : Vec3 D) : Except ConfigError Unit := do
  let fields := split (← findConfigLinePayload reply "INSAntLeverArm".toList) ','
  if fields.length < 3 then
    .error ⟨"INSAntLeverArm reply did not contain x/y/z values".toList⟩
  else
    let x : D ← parseDoublePrefix (fields.getD 0 []) "INSAntLeverArm.X".toList
    let y : D ← parseDoublePrefix (fields.getD 1 []) "INSAntLeverArm.Y".toList
    let z : D ← parseDoublePrefix (fields.getD 2 []) "INSAntLeverArm.Z".toList
    if ¬closeEnough x expected.x ∨ ¬closeEnough y expected.y ∨ ¬closeEnough z expected.z then
      .error ⟨"INS antenna lever arm does not match requested config".toList⟩

def verifyGnssAttitudeReply (reply expectedMode : Text) : Except ConfigError Unit := do
  let fields := split (← findConfigLinePayload reply "GNSSAttitude".toList) ','
  if fields = [] then .error ⟨"GNSSAttitude reply did not contain a mode".toList⟩
  else if ¬equalsCi (fields.getD 0 []) expectedMode then
    .error ⟨"GNSS attitude mode mismatch: expected ".toList ++ expectedMode ++ ", got ".toList ++
      fields.getD 0 []⟩

def verifyAttitudeOffsetReply (reply : Text) (expected : AttitudeOffset D) :
    Except ConfigError Unit := do
  let fields := split (← findConfigLinePayload reply "AttitudeOffset".toList) ','
  if fields.length < 2 then
    .error ⟨"AttitudeOffset reply did not contain heading/pitch values".toList⟩
  else
    let heading : D ← parseDoublePrefix (fields.getD 0 []) "AttitudeOffset.Heading".toList
    let pitch : D ← parseDoublePrefix (fields.getD 1 []) "AttitudeOffset.Pitch".toList
    if ¬closeEnough heading expected.headingDeg ∨ ¬closeEnough pitch expected.pitchDeg then
      .error ⟨"GNSS attitude offset does not match requested config".toList⟩

/-! ## Settings -/

def inLeverRange (value : D) : Bool := atMost (ofRat (-100)) value && atMost value (ofRat 100)

def validateReceiverSettings (settings : ReceiverSettings D) : Except ConfigError Unit :=
  if settings.ipsId < 1 ∨ settings.ipsId > 5 then
    .error ⟨"receiver.ips_id must be in range 1..5".toList⟩
  else if ¬equalsCi settings.imuStartupDataMode "Boot".toList ∧
      ¬equalsCi settings.imuStartupDataMode "GnssTimeKnown".toList then
    .error ⟨"receiver.imu.startup_data_mode must be Boot or GnssTimeKnown".toList⟩
  else if ¬equalsCi settings.imuOrientationMode "SensorDefault".toList ∧
      ¬equalsCi settings.imuOrientationMode "manual".toList ∧
      ¬equalsCi settings.imuOrientationMode "fixed".toList then
    .error ⟨"receiver.imu.orientation_mode must be SensorDefault, manual, or fixed".toList⟩
  else if ¬settings.antLeverArmConfigured then
    .error ⟨"receiver.imu.ant_lever_arm_m is required".toList⟩
  else if ¬inLeverRange settings.antLeverArmM.x ∨ ¬inLeverRange settings.antLeverArmM.y ∨
      ¬inLeverRange settings.antLeverArmM.z then
    .error ⟨"receiver.imu.ant_lever_arm_m components must be in [-100, 100] meters".toList⟩
  else if ¬equalsCi settings.gnssAttitudeMode "none".toList ∧
      ¬equalsCi settings.gnssAttitudeMode "MultiAntenna".toList then
    .error ⟨"receiver.gnss_attitude.mode must be none or MultiAntenna".toList⟩
  else if settings.cn0MaskDbhz < 0 ∨ settings.cn0MaskDbhz > 60 then
    .error ⟨"receiver.tracking.cn0_mask_dbhz must be in range 0..60 dB-Hz".toList⟩
  else if settings.streams = [] then
    .error ⟨"receiver.streams must contain at least one stream".toList⟩
  else settings.streams.forM fun stream => do
    let _ ← buildSbfOutputCommand stream settings.ipsId

end

/-! ## The configurator -/

inductive Question
  | banner
  | command (cmd : Command)
  deriving DecidableEq, Repr

/-- What `read_until` returned, or the error of the client. -/
abbrev Answer := Except TcpError Text

inductive DriverError
  | config (fault : ConfigError)
  | tcp (fault : TcpError)
  deriving DecidableEq, Repr

abbrev Configurator := ExceptT DriverError (Interaction Question Answer)

namespace Configurator

def check (action : Except ConfigError α) : Configurator α :=
  ExceptT.mk (.done (action.mapError .config))

/-- A reply with an error mark is rejected. -/
def acceptReply (cmd : Command) : Answer → Except DriverError Text
  | .error fault => .error (.tcp fault)
  | .ok reply =>
      if occurs "$R?".toList reply ∨ occurs "Invalid".toList reply then
        .error (.config ⟨"receiver rejected '".toList ++ redactCmd cmd.text ++ "': ".toList ++
          reply⟩)
      else .ok reply

def sendCommand (cmd : Command) : Configurator Text :=
  ExceptT.mk (.ask (.command cmd) fun answer => .done (acceptReply cmd answer))

def readBanner : Configurator Text :=
  ExceptT.mk (.ask .banner fun answer => .done (answer.mapError .tcp))

def login (user password : Text) : Configurator Unit := do
  let _ ← readBanner
  let reply ← sendCommand (.line ("login, ".toList ++ user ++ ", ".toList ++ password))
  if occurs "$R?".toList reply then
    throw (.config ⟨"login refused (check credentials)".toList⟩)

/-- Only a rejection is ignored. -/
def ignoreRejection : Except DriverError Text → Except DriverError Unit
  | .error (.config _) => .ok ()
  | .error (.tcp fault) => .error (.tcp fault)
  | .ok _ => .ok ()

def clearStream (streamId : ℤ) : Configurator Unit :=
  ExceptT.mk (.ask (.command (.clearStream streamId)) fun answer =>
    .done (ignoreRejection (acceptReply (.clearStream streamId) answer)))

def clearStreams : Configurator Unit := [1, 2, 3, 4, 5, 6, 7, 8, 9, 10].forM clearStream

section

variable {D : Type} [DecimalArithmetic D] (settings : ReceiverSettings D)

def checkCapabilities : Configurator Unit := do
  let reply ← sendCommand (.line "getReceiverCapabilities".toList)
  let caps ← check (parseReceiverCapabilitiesReply reply)
  if settings.requireAux1 ∧ ¬caps.hasAux1 then
    throw (.config ⟨"receiver capabilities do not include Aux1; ".toList ++
      "dual-antenna collection is not available".toList⟩)

def openDataPort : Configurator Unit := do
  let _ ← sendCommand (.line ("setIPServerSettings, IPS".toList ++ integerText settings.ipsId ++
    ", ".toList ++ integerText settings.ipsPort.toNat ++ ", TCP".toList))
  let _ ← sendCommand (.line ("setDataInOut, IPS".toList ++ integerText settings.ipsId ++
    ", , +SBF".toList))

def resetTracking : Configurator Unit := do
  if settings.configureAllTracking then
    let _ ← sendCommand (.line "setSatelliteTracking, all".toList)
    let _ ← sendCommand (.line "setSignalTracking, all".toList)
    let _ ← sendCommand (.line "setSignalUsage, all, all".toList)
    let _ ← sendCommand (.line ("setCN0Mask, all, ".toList ++ integerText settings.cn0MaskDbhz))

/-- A setting is sent and read back. -/
def setAndVerify (set get : Text) (verify : Text → Except ConfigError Unit) :
    Configurator Unit := do
  let _ ← sendCommand (.line set)
  let reply ← sendCommand (.line get)
  check (verify reply)

def setUpImu : Configurator Unit := do
  let _ ← sendCommand (.line ("setIMUStartupDataMode, ".toList ++ settings.imuStartupDataMode))
  setAndVerify (setOrientationCommand settings) "getIMUOrientation".toList
    fun reply => verifyImuOrientationReply reply settings
  setAndVerify (buildInsAntLeverArmCommand settings.antLeverArmM) "getINSAntLeverArm".toList
    fun reply => verifyInsAntLeverArmReply reply settings.antLeverArmM

def setUpAttitude : Configurator Unit := do
  setAndVerify ("setGNSSAttitude, ".toList ++ settings.gnssAttitudeMode) "getGNSSAttitude".toList
    fun reply => verifyGnssAttitudeReply reply settings.gnssAttitudeMode
  setAndVerify (setAttitudeOffsetCommand settings.attitudeOffsetDeg) "getAttitudeOffset".toList
    fun reply => verifyAttitudeOffsetReply reply settings.attitudeOffsetDeg

/-- Everything that `apply` does before its last step. -/
def prepare : Configurator Unit := do
  check (validateReceiverSettings settings)
  checkCapabilities settings
  clearStreams
  openDataPort settings
  resetTracking settings
  setUpImu settings
  setUpAttitude settings

def enableStream (stream : SbfStream) : Configurator Unit := do
  if stream.blocks ≠ [] then
    let cmd ← check (buildSbfOutputCommand stream settings.ipsId)
    let _ ← sendCommand cmd

/-- The last step: stream membership and intervals. -/
def enableStreams : Configurator Unit := settings.streams.forM (enableStream settings)

def apply : Configurator Unit := do
  prepare settings
  enableStreams settings

/-- What `main` does on the control connection before it records. -/
def session (user password : Text) : Configurator Unit := do
  login user password
  apply settings

end

end Configurator

/-- What `send_command` and `login` do on the control connection. A command is
written in at most one call of `send` for each byte and interruption. -/
def TcpClient.converse (client : TcpClient) (errnoString : Errno → String)
    (network : Network σ Char) (interruptions : ℕ) : Question → σ → Option (Answer × σ)
  | .banner, state => some (client.readUntil errnoString network ">".toList 65536 [] state)
  | .command cmd, state =>
      let line := cmd.text ++ "\r\n".toList
      match client.writeAll errnoString network (line.length + interruptions) line state with
      | none => none
      | some (.error fault, state) => some (.error fault, state)
      | some (.ok (), state) =>
          some (client.readUntil errnoString network ">".toList 65536 [] state)

end AsterxDriver.Driver
