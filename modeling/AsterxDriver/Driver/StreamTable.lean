import AsterxDriver.Driver.ReceiverConfig
import AsterxDriver.Foundation.Checked
import Mathlib.Logic.Function.Basic

/-! # The stream table of the receiver

A receiver keeps one entry for each stream number, and each accepted
`setSBFOutput` overwrites the entry of its stream. -/

namespace AsterxDriver.Driver

open Foundation Interaction Configurator

structure StreamEntry where
  /-- The number of the `IPS` port. -/
  port : ℤ
  blocks : List Text
  interval : Text
  deriving DecidableEq, Repr

/-- A stream without an entry is off. -/
abbrev StreamTable := ℤ → Option StreamEntry

def Command.update : Command → StreamTable → StreamTable
  | .sbfOutput stream ipsId, table =>
      Function.update table stream.streamId (some ⟨ipsId, stream.blocks, stream.interval⟩)
  | .clearStream streamId, table => Function.update table streamId none
  | .line _, table => table

/-- The lines that the receiver has heard, and its streams. -/
structure ReceiverState where
  lines : List Text
  table : StreamTable

/-- The reply to a line depends on all lines so far. -/
structure Receiver where
  banner : Text
  reply : List Text → Text

namespace Receiver

variable (receiver : Receiver)

def hear (state : ReceiverState) (cmd : Command) : ReceiverState :=
  let lines := state.lines ++ [cmd.text]
  match acceptReply cmd (.ok (receiver.reply lines)) with
  | .ok _ => ⟨lines, cmd.update state.table⟩
  | .error _ => ⟨lines, state.table⟩

def answer : Question → ReceiverState → Option (Answer × ReceiverState)
  | .banner, state => some (.ok receiver.banner, state)
  | .command cmd, state =>
      some (.ok (receiver.reply (state.lines ++ [cmd.text])), receiver.hear state cmd)

end Receiver

/-- The receiver accepts every command and echoes each setting when it is asked
for it right after it was set. -/
structure Receiver.Faithful {D : Type} [DecimalArithmetic D] (receiver : Receiver)
    (settings : ReceiverSettings D) : Prop where
  accepts : ∀ lines, ¬(occurs "$R?".toList (receiver.reply lines) ∨
    occurs "Invalid".toList (receiver.reply lines))
  capabilities : ∀ lines, ∃ caps,
    parseReceiverCapabilitiesReply
      (receiver.reply (lines ++ ["getReceiverCapabilities".toList])) = .ok caps ∧
    (settings.requireAux1 = true → caps.hasAux1 = true)
  imuOrientation : ∀ lines, verifyImuOrientationReply (receiver.reply
    (lines ++ [setOrientationCommand settings] ++ ["getIMUOrientation".toList])) settings = .ok ()
  insAntLeverArm : ∀ lines, verifyInsAntLeverArmReply (receiver.reply
    (lines ++ [buildInsAntLeverArmCommand settings.antLeverArmM] ++
      ["getINSAntLeverArm".toList])) settings.antLeverArmM = .ok ()
  gnssAttitude : ∀ lines, verifyGnssAttitudeReply (receiver.reply
    (lines ++ ["setGNSSAttitude, ".toList ++ settings.gnssAttitudeMode] ++
      ["getGNSSAttitude".toList])) settings.gnssAttitudeMode = .ok ()
  attitudeOffset : ∀ lines, verifyAttitudeOffsetReply (receiver.reply
    (lines ++ [setAttitudeOffsetCommand settings.attitudeOffsetDeg] ++
      ["getAttitudeOffset".toList])) settings.attitudeOffsetDeg = .ok ()

/-- The table holds the requested streams and no others. -/
structure Applied {D : Type} (settings : ReceiverSettings D) (table : StreamTable) : Prop where
  configured : ∀ stream ∈ settings.streams,
    table stream.streamId = some ⟨settings.ipsId, stream.blocks, stream.interval⟩
  others : ∀ streamId, 1 ≤ streamId → streamId ≤ 10 →
    (∀ stream ∈ settings.streams, stream.streamId ≠ streamId) → table streamId = none
  output : ∀ stream ∈ settings.streams, ∀ block ∈ stream.blocks, ∃ streamId entry,
    table streamId = some entry ∧ entry.port = settings.ipsId ∧ block ∈ entry.blocks ∧
    entry.interval = stream.interval

/-! ## The commands that a program sends -/

section

variable {receiver : Receiver}
  (accepts : ∀ lines, ¬(occurs "$R?".toList (receiver.reply lines) ∨
    occurs "Invalid".toList (receiver.reply lines)))

include accepts

theorem acceptReply_reply (cmd : Command) (lines : List Text) :
    acceptReply cmd (.ok (receiver.reply lines)) = .ok (receiver.reply lines) := by
  rw [acceptReply, if_neg (accepts lines)]

theorem hear_eq (state : ReceiverState) (cmd : Command) :
    receiver.hear state cmd = ⟨state.lines ++ [cmd.text], cmd.update state.table⟩ := by
  unfold Receiver.hear
  simp only [acceptReply_reply accepts]

theorem run_sendCommand (cmd : Command) (state : ReceiverState) :
    run receiver.answer (sendCommand cmd).run state =
      some ((.ok (receiver.reply (state.lines ++ [cmd.text])),
        [(.command cmd, .ok (receiver.reply (state.lines ++ [cmd.text])))]),
        receiver.hear state cmd) := by
  change some ((acceptReply cmd (.ok (receiver.reply (state.lines ++ [cmd.text]))), _), _) = _
  rw [acceptReply_reply accepts]

/-- The table after some commands. -/
theorem table_foldl_hear (cmds : List Command) (state : ReceiverState) :
    (cmds.foldl receiver.hear state).table =
      cmds.foldl (fun table cmd => cmd.update table) state.table := by
  induction cmds generalizing state with
  | nil => rfl
  | cons cmd later induction => rw [List.foldl_cons, induction, hear_eq accepts, List.foldl_cons]

end

/-- From this state of the receiver the program succeeds with this value, and
sends these commands. -/
def Receiver.HearsFrom (receiver : Receiver) (state : ReceiverState) (program : Configurator α)
    (cmds : List Command) (value : α) : Prop :=
  ∃ entries, run receiver.answer program.run state =
    some ((.ok value, entries), cmds.foldl receiver.hear state)

/-- The program succeeds from every state and sends these commands. -/
def Receiver.Hears (receiver : Receiver) (program : Configurator α) (cmds : List Command) : Prop :=
  ∀ state, ∃ value, receiver.HearsFrom state program cmds value

section

variable {receiver : Receiver}

theorem Receiver.HearsFrom.bind {state : ReceiverState} {program : Configurator α}
    {next : α → Configurator β} {cmds later : List Command} {value : α} {result : β}
    (first : receiver.HearsFrom state program cmds value)
    (second : receiver.HearsFrom (cmds.foldl receiver.hear state) (next value) later result) :
    receiver.HearsFrom state (program >>= next) (cmds ++ later) result := by
  rcases first with ⟨entries, ran⟩
  rcases second with ⟨rest, finished⟩
  refine ⟨entries ++ rest, ?_⟩
  rw [run_bind_ok ran, finished, List.foldl_append]
  rfl

theorem Receiver.Hears.bind {program : Configurator α} {next : α → Configurator β}
    {cmds later : List Command} (first : receiver.Hears program cmds)
    (second : ∀ value, receiver.Hears (next value) later) :
    receiver.Hears (program >>= next) (cmds ++ later) := by
  intro state
  rcases first state with ⟨value, ran⟩
  rcases second value (cmds.foldl receiver.hear state) with ⟨result, finished⟩
  exact ⟨result, ran.bind finished⟩

theorem Receiver.hears_pure (value : α) : receiver.Hears (pure value) [] :=
  fun _ => ⟨value, [], rfl⟩

theorem Receiver.hearsFrom_check {action : Except ConfigError α} {value : α}
    (succeeds : action = .ok value) (state : ReceiverState) :
    receiver.HearsFrom state (check action) [] value := by
  refine ⟨[], ?_⟩
  rw [succeeds]
  rfl

theorem Receiver.hears_forM {items : List α} {action : α → Configurator Unit}
    {cmd : α → Command} (each : ∀ item ∈ items, receiver.Hears (action item) [cmd item]) :
    receiver.Hears (items.forM action) (items.map cmd) := by
  induction items with
  | nil => exact Receiver.hears_pure ()
  | cons item later induction =>
      have rest := induction fun other member => each other (List.mem_cons_of_mem _ member)
      exact (each item (List.mem_cons_self ..)).bind fun _ => rest

/-- The program succeeds and sends no command that sets SBF output. -/
def Receiver.HearsLines (receiver : Receiver) (program : Configurator α) : Prop :=
  ∃ lines : List Text, receiver.Hears program (lines.map .line)

theorem Receiver.HearsLines.bind {program : Configurator α} {next : Configurator β}
    (first : receiver.HearsLines program) (second : receiver.HearsLines next) :
    receiver.HearsLines (program >>= fun _ => next) := by
  rcases first with ⟨lines, heard⟩
  rcases second with ⟨later, rest⟩
  refine ⟨lines ++ later, ?_⟩
  rw [List.map_append]
  exact heard.bind fun _ => rest

section

variable (accepts : ∀ lines, ¬(occurs "$R?".toList (receiver.reply lines) ∨
  occurs "Invalid".toList (receiver.reply lines)))

include accepts

theorem Receiver.hearsFrom_sendCommand (state : ReceiverState) (cmd : Command) :
    receiver.HearsFrom state (sendCommand cmd) [cmd]
      (receiver.reply (state.lines ++ [cmd.text])) :=
  ⟨_, run_sendCommand accepts cmd state⟩

theorem Receiver.hearsLines_sendCommand (text : Text) :
    receiver.HearsLines (sendCommand (.line text)) :=
  ⟨[text], fun state => ⟨_, hearsFrom_sendCommand accepts state (.line text)⟩⟩

theorem Receiver.hears_clearStream (streamId : ℤ) :
    receiver.Hears (clearStream streamId) [.clearStream streamId] := by
  intro state
  refine ⟨(), [(.command (.clearStream streamId), .ok (receiver.reply
    (state.lines ++ [(Command.clearStream streamId).text])))], ?_⟩
  change some ((ignoreRejection (acceptReply (.clearStream streamId)
    (.ok (receiver.reply (state.lines ++ [(Command.clearStream streamId).text])))), _), _) = _
  rw [acceptReply_reply accepts]
  rfl

theorem Receiver.hearsLines_setAndVerify {set get : Text} {verify : Text → Except ConfigError Unit}
    (echoes : ∀ lines, verify (receiver.reply (lines ++ [set] ++ [get])) = .ok ()) :
    receiver.HearsLines (setAndVerify set get verify) := by
  refine ⟨[set, get], ?_⟩
  intro state
  refine ⟨(), ?_⟩
  apply (hearsFrom_sendCommand accepts state (.line set)).bind
  apply (hearsFrom_sendCommand accepts (receiver.hear state (.line set)) (.line get)).bind
  apply hearsFrom_check
  rw [hear_eq accepts]
  exact echoes state.lines

end

end

/-! ## The commands that `apply` sends -/

section

variable {D : Type} [DecimalArithmetic D] {settings : ReceiverSettings D} {receiver : Receiver}
  (faithful : receiver.Faithful settings)

include faithful

theorem hearsLines_checkCapabilities : receiver.HearsLines (checkCapabilities settings) := by
  refine ⟨["getReceiverCapabilities".toList], ?_⟩
  intro state
  rcases faithful.capabilities state.lines with ⟨caps, parsed, present⟩
  refine ⟨(), ?_⟩
  apply (Receiver.hearsFrom_sendCommand faithful.accepts state _).bind
  apply (Receiver.hearsFrom_check parsed _).bind
  rw [if_neg]
  · exact ⟨[], rfl⟩
  · rintro ⟨required, missing⟩
    exact missing (present required)

theorem hearsLines_openDataPort : receiver.HearsLines (openDataPort settings) := by
  apply (Receiver.hearsLines_sendCommand faithful.accepts _).bind
  apply (Receiver.hearsLines_sendCommand faithful.accepts _).bind
  exact ⟨[], Receiver.hears_pure ()⟩

theorem hearsLines_resetTracking : receiver.HearsLines (resetTracking settings) := by
  unfold resetTracking
  split
  · apply (Receiver.hearsLines_sendCommand faithful.accepts _).bind
    apply (Receiver.hearsLines_sendCommand faithful.accepts _).bind
    apply (Receiver.hearsLines_sendCommand faithful.accepts _).bind
    apply (Receiver.hearsLines_sendCommand faithful.accepts _).bind
    exact ⟨[], Receiver.hears_pure ()⟩
  · exact ⟨[], Receiver.hears_pure ()⟩

theorem hearsLines_setUpImu : receiver.HearsLines (setUpImu settings) := by
  apply (Receiver.hearsLines_sendCommand faithful.accepts _).bind
  apply (Receiver.hearsLines_setAndVerify faithful.accepts faithful.imuOrientation).bind
  exact Receiver.hearsLines_setAndVerify faithful.accepts faithful.insAntLeverArm

theorem hearsLines_setUpAttitude : receiver.HearsLines (setUpAttitude settings) := by
  apply (Receiver.hearsLines_setAndVerify faithful.accepts faithful.gnssAttitude).bind
  exact Receiver.hearsLines_setAndVerify faithful.accepts faithful.attitudeOffset

theorem hears_clearStreams : receiver.Hears clearStreams
    ([1, 2, 3, 4, 5, 6, 7, 8, 9, 10].map .clearStream) :=
  Receiver.hears_forM fun streamId _ => Receiver.hears_clearStream faithful.accepts streamId

/-- The ten streams are cleared between commands that do not concern streams. -/
theorem hears_prepare (valid : validateReceiverSettings settings = .ok ()) :
    ∃ before after : List Text, receiver.Hears (prepare settings)
      (before.map .line ++ ([1, 2, 3, 4, 5, 6, 7, 8, 9, 10].map .clearStream ++
        after.map .line)) := by
  have rest : receiver.HearsLines (do
      openDataPort settings
      resetTracking settings
      setUpImu settings
      setUpAttitude settings) :=
    (hearsLines_openDataPort faithful).bind ((hearsLines_resetTracking faithful).bind
      ((hearsLines_setUpImu faithful).bind (hearsLines_setUpAttitude faithful)))
  rcases hearsLines_checkCapabilities faithful with ⟨before, capable⟩
  rcases rest with ⟨after, finished⟩
  refine ⟨before, after, ?_⟩
  have checked : receiver.Hears (check (validateReceiverSettings settings)) [] :=
    fun state => ⟨(), Receiver.hearsFrom_check valid state⟩
  exact checked.bind fun _ => capable.bind fun _ => (hears_clearStreams faithful).bind
    fun _ => finished

end

theorem buildSbfOutputCommand_eq_ok {stream : SbfStream} {ipsId : ℤ} {cmd : Command}
    (built : buildSbfOutputCommand stream ipsId = .ok cmd) :
    cmd = .sbfOutput stream ipsId ∧ stream.blocks ≠ [] := by
  unfold buildSbfOutputCommand at built
  split_ifs at built with badId badPort noBlocks badInterval tooLong
  cases built
  exact ⟨rfl, noBlocks⟩

section

variable {D : Type} [DecimalArithmetic D] {settings : ReceiverSettings D}

theorem built_of_valid (valid : validateReceiverSettings settings = .ok ()) :
    ∀ stream ∈ settings.streams,
      buildSbfOutputCommand stream settings.ipsId = .ok (.sbfOutput stream settings.ipsId) ∧
      stream.blocks ≠ [] := by
  unfold validateReceiverSettings at valid
  split_ifs at valid
  intro stream member
  rcases Checked.bind_eq_ok.mp (Checked.forM_eq_ok_iff.mp valid stream member) with ⟨cmd, built, _⟩
  rcases buildSbfOutputCommand_eq_ok built with ⟨rfl, blocks⟩
  exact ⟨built, blocks⟩

theorem hears_apply {receiver : Receiver} (faithful : receiver.Faithful settings)
    (valid : validateReceiverSettings settings = .ok ()) :
    ∃ before after : List Text, receiver.Hears (apply settings)
      (before.map .line ++ ([1, 2, 3, 4, 5, 6, 7, 8, 9, 10].map .clearStream ++
        after.map .line) ++ settings.streams.map (.sbfOutput · settings.ipsId)) := by
  rcases hears_prepare faithful valid with ⟨before, after, prepared⟩
  refine ⟨before, after, prepared.bind fun _ => Receiver.hears_forM ?_⟩
  intro stream member state
  rcases built_of_valid valid stream member with ⟨built, blocks⟩
  refine ⟨(), ?_⟩
  rw [enableStream, if_pos blocks]
  apply (Receiver.hearsFrom_check built state).bind
  apply (Receiver.hearsFrom_sendCommand faithful.accepts state _).bind
  exact ⟨[], rfl⟩

end

/-! ## The table -/

theorem foldl_line_update (lines : List Text) (table : StreamTable) :
    (lines.map Command.line).foldl (fun table cmd => cmd.update table) table = table := by
  induction lines with
  | nil => rfl
  | cons line later induction => exact induction

theorem foldl_clearStream_update (streamIds : List ℤ) (table : StreamTable) {streamId : ℤ}
    (cleared : streamId ∈ streamIds ∨ table streamId = none) :
    (streamIds.map Command.clearStream).foldl (fun table cmd => cmd.update table) table
      streamId = none := by
  induction streamIds generalizing table with
  | nil => simpa using cleared
  | cons first later induction =>
      apply induction
      by_cases same : streamId = first
      · right
        rw [same]
        exact Function.update_self ..
      · rcases cleared with member | off
        · exact .inl ((List.mem_cons.mp member).resolve_left same)
        · exact .inr ((Function.update_of_ne same ..).trans off)

section

variable (ipsId : ℤ)

/-- The table after the commands that enable these streams. -/
def enabledTable (streams : List SbfStream) (table : StreamTable) : StreamTable :=
  (streams.map (.sbfOutput · ipsId)).foldl (fun table (cmd : Command) => cmd.update table) table

theorem enabledTable_of_notMem {streams : List SbfStream} {streamId : ℤ}
    (others : ∀ stream ∈ streams, stream.streamId ≠ streamId) (table : StreamTable) :
    enabledTable ipsId streams table streamId = table streamId := by
  induction streams generalizing table with
  | nil => rfl
  | cons stream later induction =>
      have different := others stream (List.mem_cons_self ..)
      calc enabledTable ipsId (stream :: later) table streamId
          = (Command.sbfOutput stream ipsId).update table streamId :=
            induction (fun other member => others other (List.mem_cons_of_mem _ member)) _
        _ = table streamId := Function.update_of_ne different.symm ..

/-- Streams of one number do not cancel each other when they are the same. -/
theorem enabledTable_of_mem {streams : List SbfStream}
    (consistent : ∀ stream ∈ streams, ∀ other ∈ streams, stream.streamId = other.streamId →
      stream.blocks = other.blocks ∧ stream.interval = other.interval)
    (table : StreamTable) :
    ∀ stream ∈ streams, enabledTable ipsId streams table stream.streamId =
      some ⟨ipsId, stream.blocks, stream.interval⟩ := by
  induction streams generalizing table with
  | nil => simp
  | cons first later induction =>
      have rest := induction (fun stream member other inside => consistent stream
        (List.mem_cons_of_mem _ member) other (List.mem_cons_of_mem _ inside))
        ((Command.sbfOutput first ipsId).update table)
      intro stream member
      rcases List.mem_cons.mp member with rfl | behind
      · by_cases again : ∃ other ∈ later, other.streamId = stream.streamId
        · rcases again with ⟨other, inside, same⟩
          rcases consistent other (List.mem_cons_of_mem _ inside) stream (List.mem_cons_self ..)
            same with ⟨blocks, interval⟩
          rw [← same, ← blocks, ← interval]
          exact rest other inside
        · have others : ∀ other ∈ later, other.streamId ≠ stream.streamId :=
            fun other inside same => again ⟨other, inside, same⟩
          calc enabledTable ipsId (stream :: later) table stream.streamId
              = (Command.sbfOutput stream ipsId).update table stream.streamId :=
                enabledTable_of_notMem ipsId others _
            _ = some ⟨ipsId, stream.blocks, stream.interval⟩ := Function.update_self ..
      · exact rest stream behind

end

/-- The table after the ten clear commands. -/
def clearedTable (table : StreamTable) : StreamTable :=
  ([1, 2, 3, 4, 5, 6, 7, 8, 9, 10].map Command.clearStream).foldl
    (fun table cmd => cmd.update table) table

/-- What `apply` makes of the table. -/
theorem run_apply {D : Type} [DecimalArithmetic D] {settings : ReceiverSettings D}
    (valid : validateReceiverSettings settings = .ok ()) {receiver : Receiver}
    (faithful : receiver.Faithful settings) (initial : ReceiverState) :
    ∃ entries final, run receiver.answer (apply settings).run initial =
      some ((.ok (), entries), final) ∧
    final.table = enabledTable settings.ipsId settings.streams (clearedTable initial.table) := by
  rcases hears_apply faithful valid with ⟨before, after, heard⟩
  rcases heard initial with ⟨_, entries, ran⟩
  refine ⟨entries, _, ran, ?_⟩
  rw [table_foldl_hear faithful.accepts, List.foldl_append, List.foldl_append, List.foldl_append,
    foldl_line_update, foldl_line_update]
  rfl

/-- Settings with these streams. -/
def settingsOf (streams : List SbfStream) : ReceiverSettings ℚ where
  ipsId := 1
  ipsPort := 28785
  streams := streams
  imuStartupDataMode := "Boot".toList
  imuOrientationMode := "SensorDefault".toList
  thetaXDeg := 0
  thetaYDeg := 0
  thetaZDeg := 0
  antLeverArmM := ⟨0, 0, 1⟩
  antLeverArmConfigured := true
  requireAux1 := true
  gnssAttitudeMode := "MultiAntenna".toList
  attitudeOffsetDeg := ⟨0, 0⟩
  configureAllTracking := true
  cn0MaskDbhz := 0

def echoReply (line : Text) : Text :=
  if line = "getReceiverCapabilities".toList then
    "$R; getReceiverCapabilities\r\n  ReceiverCapabilities, Main+Aux1, GPSL1CA+GPSL5, ".toList ++
      "COM1+IPS1,\r\n      APME+INS, 5, 100, 5\r\nIP10>".toList
  else if line = "getIMUOrientation".toList then
    "$R; getIMUOrientation\r\n  IMUOrientation, SensorDefault\r\nIP10>".toList
  else if line = "getINSAntLeverArm".toList then
    "$R; getINSAntLeverArm\r\n  INSAntLeverArm, 0.000, 0.000, 1.000\r\nIP10>".toList
  else if line = "getGNSSAttitude".toList then
    "$R; getGNSSAttitude\r\n  GNSSAttitude, MultiAntenna\r\nIP10>".toList
  else if line = "getAttitudeOffset".toList then
    "$R; getAttitudeOffset\r\n  AttitudeOffset, 0.000, 0.000\r\nIP10>".toList
  else "$R; done\r\nIP10>".toList

/-- A receiver with two antennas that was set up by these settings. -/
def echoReceiver : Receiver where
  banner := "Welcome\r\nIP10>".toList
  reply := fun lines => echoReply (lines.getLastD [])

theorem echoReceiver_reply (lines : List Text) (line : Text) :
    echoReceiver.reply (lines ++ [line]) = echoReply line :=
  congrArg echoReply (List.getLastD_concat ..)

theorem echoReceiver_faithful (streams : List SbfStream) :
    echoReceiver.Faithful (settingsOf streams) := by
  have capable : parseReceiverCapabilitiesReply (echoReply "getReceiverCapabilities".toList) =
      .ok ⟨true, true, 5, 100, 5⟩ := by
    decide +kernel
  have lever : verifyInsAntLeverArmReply (echoReply "getINSAntLeverArm".toList)
      (⟨0, 0, 1⟩ : Vec3 ℚ) = .ok () := by
    decide +kernel
  have offset : verifyAttitudeOffsetReply (echoReply "getAttitudeOffset".toList)
      (⟨0, 0⟩ : AttitudeOffset ℚ) = .ok () := by
    decide +kernel
  refine ⟨?_, ?_, ?_, ?_, ?_, ?_⟩
  · intro lines
    change ¬(occurs "$R?".toList (echoReply _) ∨ occurs "Invalid".toList (echoReply _))
    unfold echoReply
    split_ifs <;> decide +kernel
  · intro lines
    rw [echoReceiver_reply]
    exact ⟨_, capable, fun _ => rfl⟩
  · intro lines
    rw [echoReceiver_reply]
    rfl
  · intro lines
    rw [echoReceiver_reply]
    exact lever
  · intro lines
    rw [echoReceiver_reply]
    rfl
  · intro lines
    rw [echoReceiver_reply]
    exact offset

def offState : ReceiverState := ⟨[], fun _ => none⟩

/-- Two streams with the number 1: the observations are not output. -/
def collidingStreams : List SbfStream :=
  [⟨1, ["MeasEpoch".toList, "MeasExtra".toList], "OnChange".toList⟩,
    ⟨1, ["ExtSensorMeas".toList], "OnChange".toList⟩]

end AsterxDriver.Driver
