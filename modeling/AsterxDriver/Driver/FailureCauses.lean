import AsterxDriver.Driver.AppConfig
import AsterxDriver.Driver.ConfigOrder
import AsterxDriver.Driver.StreamTable

/-! # Why a configuration fails

With settings that the configuration file was accepted for, nothing on this side
of the control connection makes `login` or `apply` fail: the last answer does. -/

namespace AsterxDriver.Driver

open Foundation Interaction Configurator

section

variable {D : Type} [DecimalArithmetic D] (settings : ReceiverSettings D)

/-- What `apply` makes of the reply to `getReceiverCapabilities`. -/
def capabilitiesCheck (reply : Text) : Except ConfigError Unit := do
  let caps ← parseReceiverCapabilitiesReply reply
  if settings.requireAux1 ∧ ¬caps.hasAux1 then
    .error ⟨"receiver capabilities do not include Aux1; ".toList ++
      "dual-antenna collection is not available".toList⟩

/-- The commands whose replies are checked, with their checks. -/
def checkedReplies : List (Text × (Text → Except ConfigError Unit)) :=
  [("getReceiverCapabilities".toList, capabilitiesCheck settings),
    ("getIMUOrientation".toList, fun reply => verifyImuOrientationReply reply settings),
    ("getINSAntLeverArm".toList,
      fun reply => verifyInsAntLeverArmReply reply settings.antLeverArmM),
    ("getGNSSAttitude".toList,
      fun reply => verifyGnssAttitudeReply reply settings.gnssAttitudeMode),
    ("getAttitudeOffset".toList,
      fun reply => verifyAttitudeOffsetReply reply settings.attitudeOffsetDeg)]

/-- The answer to the question is the reason for the fault. -/
inductive Blames : Question → Answer → DriverError → Prop
  | connection (question : Question) (fault : TcpError) :
      Blames question (.error fault) (.tcp fault)
  /-- A stream may be rejected when it is cleared, but no other command. -/
  | rejected {cmd : Command} {reply : Text} {fault : DriverError}
      (other : ∀ streamId, cmd ≠ .clearStream streamId)
      (refused : acceptReply cmd (.ok reply) = .error fault) :
      Blames (.command cmd) (.ok reply) fault
  | failsCheck {get : Text} {verify : Text → Except ConfigError Unit} {reply : Text}
      {fault : ConfigError} (listed : (get, verify) ∈ checkedReplies settings)
      (failed : verify reply = .error fault) :
      Blames (.command (.line get)) (.ok reply) (.config fault)

/-- Whenever the program fails, the last answer is the reason. -/
def BlamesLast (program : Configurator α) : Prop :=
  ∀ entries fault, Transcript program.run entries (.error fault) →
    ∃ front question answer, entries = front ++ [(question, answer)] ∧
      Blames settings question answer fault

variable {settings}

theorem blamesLast_pure (value : α) : BlamesLast settings (pure value) := by
  intro entries fault transcript
  rcases transcript_done_iff.mp transcript with ⟨_, impossible⟩
  cases impossible

theorem blamesLast_check {action : Except ConfigError α} {value : α}
    (succeeds : action = .ok value) : BlamesLast settings (check action) := by
  intro entries fault transcript
  rcases transcript_done_iff.mp transcript with ⟨_, impossible⟩
  rw [succeeds] at impossible
  cases impossible

/-- Only the values with which the first program can succeed matter. -/
theorem BlamesLast.bind {program : Configurator α} {next : α → Configurator β}
    (first : BlamesLast settings program)
    (second : ∀ entries value, Transcript program.run entries (.ok value) →
      BlamesLast settings (next value)) : BlamesLast settings (program >>= next) := by
  intro entries fault transcript
  rcases transcript_bind_cases transcript with ⟨other, same, failed⟩ |
    ⟨value, front, back, rfl, succeeded, failed⟩
  · cases same
    exact first entries fault failed
  · rcases second front value succeeded back fault failed with
      ⟨before, question, answer, rfl, blames⟩
    exact ⟨front ++ before, question, answer, by rw [List.append_assoc], blames⟩

theorem blamesLast_forM {items : List α} {action : α → Configurator Unit}
    (each : ∀ item ∈ items, BlamesLast settings (action item)) :
    BlamesLast settings (items.forM action) := by
  induction items with
  | nil => exact blamesLast_pure ()
  | cons item later induction =>
      have rest := induction fun other member => each other (List.mem_cons_of_mem _ member)
      exact (each item (List.mem_cons_self ..)).bind fun _ _ _ => rest

theorem acceptReply_error {cmd : Command} {fault : TcpError} {other : DriverError}
    (failed : acceptReply cmd (.error fault) = .error other) : other = .tcp fault := by
  cases failed
  rfl

theorem blamesLast_sendCommand {cmd : Command} (other : ∀ streamId, cmd ≠ .clearStream streamId) :
    BlamesLast settings (sendCommand cmd) := by
  intro entries fault transcript
  rcases transcript_ask_iff.mp transcript with ⟨answer, later, rfl, rest⟩
  rcases transcript_done_iff.mp rest with ⟨rfl, failed⟩
  refine ⟨[], .command cmd, answer, rfl, ?_⟩
  cases answer with
  | error tcp =>
      rw [acceptReply_error failed]
      exact .connection _ tcp
  | ok reply => exact .rejected other failed

theorem blamesLast_clearStream (streamId : ℤ) : BlamesLast settings (clearStream streamId) := by
  intro entries fault transcript
  rcases transcript_ask_iff.mp transcript with ⟨answer, later, rfl, rest⟩
  rcases transcript_done_iff.mp rest with ⟨rfl, failed⟩
  refine ⟨[], .command (.clearStream streamId), answer, rfl, ?_⟩
  cases answer with
  | error tcp =>
      cases failed
      exact .connection _ tcp
  | ok reply =>
      -- A rejection is a `ConfigError`, and these are ignored.
      by_cases rejected : occurs "$R?".toList reply ∨ occurs "Invalid".toList reply
      · rw [acceptReply, if_pos rejected] at failed
        cases failed
      · rw [acceptReply, if_neg rejected] at failed
        cases failed

theorem blamesLast_sendAndCheck {get : Text} {verify : Text → Except ConfigError Unit}
    (listed : (get, verify) ∈ checkedReplies settings) :
    BlamesLast settings (do
      let reply ← sendCommand (.line get)
      check (verify reply)) := by
  intro entries fault transcript
  have other : ∀ streamId, Command.line get ≠ .clearStream streamId := by
    intro streamId same
    cases same
  rcases transcript_bind_cases transcript with ⟨fault', same, failed⟩ |
    ⟨reply, front, back, rfl, sent, failed⟩
  · cases same
    exact blamesLast_sendCommand other entries fault failed
  · rcases transcript_done_iff.mp failed with ⟨rfl, mapped⟩
    refine ⟨[], .command (.line get), .ok reply, ?_, ?_⟩
    · rw [entries_of_sendCommand sent]
      rfl
    · cases verified : verify reply with
      | ok _ =>
          rw [verified] at mapped
          cases mapped
      | error wrong =>
          rw [verified] at mapped
          cases mapped
          exact .failsCheck listed verified

theorem blamesLast_line (text : Text) : BlamesLast settings (sendCommand (.line text)) := by
  apply blamesLast_sendCommand
  intro streamId same
  cases same

theorem blamesLast_setAndVerify {set get : Text} {verify : Text → Except ConfigError Unit}
    (listed : (get, verify) ∈ checkedReplies settings) :
    BlamesLast settings (setAndVerify set get verify) :=
  (blamesLast_line set).bind fun _ _ _ => blamesLast_sendAndCheck listed

/-! ## The steps of a session -/

omit [DecimalArithmetic D] in
theorem checkCapabilities_eq : checkCapabilities settings = (do
    let reply ← sendCommand (.line "getReceiverCapabilities".toList)
    check (capabilitiesCheck settings reply)) := by
  unfold checkCapabilities
  congr 1
  funext reply
  unfold capabilitiesCheck
  cases parsed : parseReceiverCapabilitiesReply reply with
  | error fault => rfl
  | ok caps =>
      change (if settings.requireAux1 = true ∧ ¬caps.hasAux1 = true then throw _ else pure ()) =
        check (if settings.requireAux1 = true ∧ ¬caps.hasAux1 = true then .error _ else pure ())
      split <;> rfl

theorem blamesLast_openDataPort : BlamesLast settings (openDataPort settings) := by
  apply (blamesLast_line _).bind
  intro _ _ _
  apply (blamesLast_line _).bind
  intro _ _ _
  exact blamesLast_pure ()

theorem blamesLast_resetTracking : BlamesLast settings (resetTracking settings) := by
  unfold resetTracking
  split
  · apply (blamesLast_line _).bind
    intro _ _ _
    apply (blamesLast_line _).bind
    intro _ _ _
    apply (blamesLast_line _).bind
    intro _ _ _
    apply (blamesLast_line _).bind
    intro _ _ _
    exact blamesLast_pure ()
  · exact blamesLast_pure ()

theorem blamesLast_setUpImu : BlamesLast settings (setUpImu settings) := by
  apply (blamesLast_line _).bind
  intro _ _ _
  apply (blamesLast_setAndVerify (by simp [checkedReplies])).bind
  intro _ _ _
  exact blamesLast_setAndVerify (by simp [checkedReplies])

theorem blamesLast_setUpAttitude : BlamesLast settings (setUpAttitude settings) := by
  apply (blamesLast_setAndVerify (by simp [checkedReplies])).bind
  intro _ _ _
  exact blamesLast_setAndVerify (by simp [checkedReplies])

theorem blamesLast_prepare (valid : validateReceiverSettings settings = .ok ()) :
    BlamesLast settings (prepare settings) := by
  apply (blamesLast_check valid).bind
  intro _ _ _
  rw [checkCapabilities_eq]
  apply (blamesLast_sendAndCheck (by simp [checkedReplies])).bind
  intro _ _ _
  apply (blamesLast_forM fun streamId _ => blamesLast_clearStream streamId).bind
  intro _ _ _
  apply blamesLast_openDataPort.bind
  intro _ _ _
  apply blamesLast_resetTracking.bind
  intro _ _ _
  apply blamesLast_setUpImu.bind
  intro _ _ _
  exact blamesLast_setUpAttitude

/-- The commands of accepted streams are built again without a fault. -/
theorem blamesLast_enableStreams (valid : validateReceiverSettings settings = .ok ()) :
    BlamesLast settings (enableStreams settings) := by
  apply blamesLast_forM
  intro stream member
  rcases built_of_valid valid stream member with ⟨built, blocks⟩
  rw [enableStream, if_pos blocks]
  apply (blamesLast_check built).bind
  intro entries cmd transcript
  rcases entries_of_check transcript with ⟨_, same⟩
  rw [built] at same
  cases same
  apply (blamesLast_sendCommand _).bind
  · intro _ _ _
    exact blamesLast_pure ()
  · intro streamId impossible
    cases impossible

theorem blamesLast_login (user password : Text) :
    BlamesLast settings (login user password) := by
  have banner : BlamesLast settings readBanner := by
    intro entries fault transcript
    rcases transcript_ask_iff.mp transcript with ⟨answer, later, rfl, rest⟩
    rcases transcript_done_iff.mp rest with ⟨rfl, failed⟩
    refine ⟨[], .banner, answer, rfl, ?_⟩
    cases answer with
    | ok text => cases failed
    | error tcp =>
        cases failed
        exact .connection _ tcp
  apply banner.bind
  intro _ _ _
  apply (blamesLast_line _).bind
  intro entries reply sent
  -- A reply with an error mark has been refused before it is looked at again.
  have accepted : ¬occurs "$R?".toList reply = true := by
    rcases transcript_ask_iff.mp sent with ⟨answer, later, _, rest⟩
    rcases transcript_done_iff.mp rest with ⟨_, kept⟩
    intro marked
    rw [answer_of_acceptReply kept, acceptReply, if_pos (.inl marked)] at kept
    cases kept
  rw [if_neg accepted]
  exact blamesLast_pure ()

theorem blamesLast_session (valid : validateReceiverSettings settings = .ok ())
    (user password : Text) : BlamesLast settings (session settings user password) := by
  apply (blamesLast_login user password).bind
  intro _ _ _
  apply (blamesLast_prepare valid).bind
  intro _ _ _
  exact blamesLast_enableStreams valid

end

/-- A file with nothing but a lever arm. -/
def leverArmYaml : Yaml ℚ where
  loadFile := fun _ => .ok (.map [("receiver".toList, .map [("imu".toList, .map
    [("ant_lever_arm_m".toList, .sequence [.scalar "0.0".toList, .scalar "0.0".toList,
      .scalar "1.0".toList])])])])
  asString := fun _ => .error "bad conversion".toList
  asInt := fun _ => .error "bad conversion".toList
  asUint64 := fun _ => .error "bad conversion".toList
  asBool := fun _ => .error "bad conversion".toList
  asDouble := fun node => match node with
    | .scalar text =>
        if text = "0.0".toList then .ok 0
        else if text = "1.0".toList then .ok 1
        else .error "bad conversion".toList
    | _ => .error "bad conversion".toList
  badSubscript := fun _ => "operator[] call on a scalar".toList
  invalidNode := fun _ => "invalid node".toList

def leverArmConfig : AppConfig ℚ :=
  { (AppConfig.default : AppConfig ℚ) with receiver := settingsOf defaultStreams }

theorem leverArmYaml_loads (path : Text) :
    leverArmYaml.loadAppConfig path = .ok leverArmConfig := by
  have valid : validateReceiverSettings (settingsOf defaultStreams) = .ok () := by
    decide +kernel
  change ((do
    (validateReceiverSettings (settingsOf defaultStreams)).mapError LoadFault.config
    return leverArmConfig : Loading (AppConfig ℚ)).mapError (Yaml.loadFault path)) = _
  rw [valid]
  rfl

end AsterxDriver.Driver
