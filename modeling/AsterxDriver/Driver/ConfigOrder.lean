import AsterxDriver.Driver.ReceiverConfig
import AsterxDriver.Foundation.NumberedName

/-! # The order of the configuration commands

No stream is enabled before the receiver is verified, whatever it replies. -/

namespace AsterxDriver.Driver

open Foundation Interaction Configurator

/-- The command lines that enable the output of a stream. -/
def EnablesOutput (text : Text) : Prop :=
  ∃ stream rest, ',' ∉ stream ∧
    text = "setSBFOutput, Stream".toList ++ stream ++ ", IPS".toList ++ rest

/-- What was asked and answered verifies the receiver. -/
structure Verified {D : Type} [DecimalArithmetic D] (settings : ReceiverSettings D)
    (entries : List (Question × Answer)) : Prop where
  valid : validateReceiverSettings settings = .ok ()
  capabilities : ∃ reply caps,
    (.command (.line "getReceiverCapabilities".toList), .ok reply) ∈ entries ∧
    parseReceiverCapabilitiesReply reply = .ok caps ∧
    (settings.requireAux1 = true → caps.hasAux1 = true)
  cleared : ∀ streamId, 1 ≤ streamId → streamId ≤ 10 → ∃ reply,
    (.command (.clearStream streamId), .ok reply) ∈ entries
  imuOrientation : ∃ reply, (.command (.line "getIMUOrientation".toList), .ok reply) ∈ entries ∧
    verifyImuOrientationReply reply settings = .ok ()
  insAntLeverArm : ∃ reply, (.command (.line "getINSAntLeverArm".toList), .ok reply) ∈ entries ∧
    verifyInsAntLeverArmReply reply settings.antLeverArmM = .ok ()
  gnssAttitude : ∃ reply, (.command (.line "getGNSSAttitude".toList), .ok reply) ∈ entries ∧
    verifyGnssAttitudeReply reply settings.gnssAttitudeMode = .ok ()
  attitudeOffset : ∃ reply, (.command (.line "getAttitudeOffset".toList), .ok reply) ∈ entries ∧
    verifyAttitudeOffsetReply reply settings.attitudeOffsetDeg = .ok ()

/-! ## Commands that enable nothing -/

theorem setSBF_of_enablesOutput {text : Text} (enables : EnablesOutput text) :
    text.take 5 = "setSB".toList := by
  rcases enables with ⟨stream, rest, -, rfl⟩
  rfl

theorem not_enablesOutput {text : Text} (start : Text) (starts : text.take 5 = start)
    (other : start ≠ "setSB".toList) : ¬EnablesOutput text := by
  intro enables
  apply other
  rw [← starts, setSBF_of_enablesOutput enables]

theorem comma_notMem_integerText (value : ℤ) : ',' ∉ integerText value := by
  have digits : ∀ number : ℕ, ',' ∉ NumberedName.digits number := by
    intro number member
    exact absurd (NumberedName.isDigit_of_mem_digits number ',' member) (by decide)
  cases value with
  | ofNat number => exact digits number
  | negSucc number =>
      change ',' ∉ ("-" ++ (number + 1).repr).toList
      rw [String.toList_append, List.mem_append, not_or]
      exact ⟨by decide, digits (number + 1)⟩

theorem not_enablesOutput_clearStream (streamId : ℤ) :
    ¬EnablesOutput (Command.clearStream streamId).text := by
  rintro ⟨stream, rest, noComma, equal⟩
  unfold Command.text at equal
  simp only [List.append_assoc, List.append_cancel_left_eq] at equal
  have number : (integerText streamId ++ ", none, none, off".toList).dropWhile (· ≠ ',') =
      ", none, none, off".toList := by
    rw [List.dropWhile_append_of_pos]
    · decide
    · intro char member
      simp only [decide_eq_true_eq]
      rintro rfl
      exact comma_notMem_integerText streamId member
  have port : (stream ++ (", IPS".toList ++ rest)).dropWhile (· ≠ ',') =
      ", IPS".toList ++ rest := by
    rw [List.dropWhile_append_of_pos]
    · rfl
    · intro char member
      simp only [decide_eq_true_eq]
      rintro rfl
      exact noComma member
  rw [equal, port] at number
  have letter : some 'I' = some 'n' := congrArg (·[2]?) number
  revert letter
  decide

/-- The program asks for nothing but replies to commands like these. -/
def Only (P : Command → Prop) (program : Configurator α) : Prop :=
  ∀ question, Asks program.run question → ∃ cmd, question = .command cmd ∧ P cmd

section

variable {P : Command → Prop}

theorem only_check (action : Except ConfigError α) : Only P (check action) := by
  intro question asks
  cases asks

theorem only_pure (value : α) : Only P (pure value) := by
  intro question asks
  cases asks

theorem only_throw (fault : DriverError) : Only P (throw fault : Configurator α) := by
  intro question asks
  cases asks

theorem only_bind {program : Configurator α} {next : α → Configurator β}
    (first : Only P program) (second : ∀ value, Only P (next value)) :
    Only P (program >>= next) := by
  intro question asks
  rcases asks_bind_cases asks with here | ⟨value, later⟩
  · exact first question here
  · exact second value question later

theorem only_forM {items : List α} {action : α → Configurator Unit}
    (each : ∀ item ∈ items, Only P (action item)) : Only P (items.forM action) := by
  induction items with
  | nil => exact only_pure ()
  | cons item later induction =>
      have rest := induction fun other member => each other (List.mem_cons_of_mem _ member)
      exact only_bind (each item (List.mem_cons_self ..)) fun _ => rest

theorem only_sendCommand {cmd : Command} (holds : P cmd) : Only P (sendCommand cmd) := by
  intro question asks
  cases asks with
  | here => exact ⟨cmd, rfl, holds⟩
  | later answer asks => cases asks

theorem only_clearStream {streamId : ℤ} (holds : P (.clearStream streamId)) :
    Only P (clearStream streamId) := by
  intro question asks
  cases asks with
  | here => exact ⟨_, rfl, holds⟩
  | later answer asks => cases asks

theorem only_setAndVerify {set get : Text} {verify : Text → Except ConfigError Unit}
    (setHolds : P (.line set)) (getHolds : P (.line get)) :
    Only P (setAndVerify set get verify) := by
  apply only_bind (only_sendCommand setHolds)
  intro _
  apply only_bind (only_sendCommand getHolds)
  intro reply
  exact only_check _

end

/-- Every command that `apply` may send before its last step is like this. -/
structure Preparation {D : Type} [DecimalArithmetic D] (P : Command → Prop)
    (settings : ReceiverSettings D) : Prop where
  getCapabilities : P (.line "getReceiverCapabilities".toList)
  clearStream : ∀ streamId ∈ [1, 2, 3, 4, 5, 6, 7, 8, 9, 10], P (.clearStream streamId)
  setIpServer : P (.line ("setIPServerSettings, IPS".toList ++ integerText settings.ipsId ++
    ", ".toList ++ integerText settings.ipsPort.toNat ++ ", TCP".toList))
  setDataInOut : P (.line ("setDataInOut, IPS".toList ++ integerText settings.ipsId ++
    ", , +SBF".toList))
  setSatelliteTracking : P (.line "setSatelliteTracking, all".toList)
  setSignalTracking : P (.line "setSignalTracking, all".toList)
  setSignalUsage : P (.line "setSignalUsage, all, all".toList)
  setCn0Mask : P (.line ("setCN0Mask, all, ".toList ++ integerText settings.cn0MaskDbhz))
  setStartup : P (.line ("setIMUStartupDataMode, ".toList ++ settings.imuStartupDataMode))
  setOrientation : P (.line (setOrientationCommand settings))
  getOrientation : P (.line "getIMUOrientation".toList)
  setLeverArm : P (.line (buildInsAntLeverArmCommand settings.antLeverArmM))
  getLeverArm : P (.line "getINSAntLeverArm".toList)
  setAttitude : P (.line ("setGNSSAttitude, ".toList ++ settings.gnssAttitudeMode))
  getAttitude : P (.line "getGNSSAttitude".toList)
  setOffset : P (.line (setAttitudeOffsetCommand settings.attitudeOffsetDeg))
  getOffset : P (.line "getAttitudeOffset".toList)

section

variable {D : Type} [DecimalArithmetic D] {P : Command → Prop} {settings : ReceiverSettings D}
  (preparation : Preparation P settings)

include preparation

theorem only_checkCapabilities : Only P (checkCapabilities settings) := by
  apply only_bind (only_sendCommand preparation.getCapabilities)
  intro reply
  apply only_bind (only_check _)
  intro caps
  split
  · exact only_throw _
  · exact only_pure ()

theorem only_openDataPort : Only P (openDataPort settings) := by
  apply only_bind (only_sendCommand preparation.setIpServer)
  intro _
  apply only_bind (only_sendCommand preparation.setDataInOut)
  intro _
  exact only_pure ()

theorem only_resetTracking : Only P (resetTracking settings) := by
  unfold resetTracking
  split
  · apply only_bind (only_sendCommand preparation.setSatelliteTracking)
    intro _
    apply only_bind (only_sendCommand preparation.setSignalTracking)
    intro _
    apply only_bind (only_sendCommand preparation.setSignalUsage)
    intro _
    apply only_bind (only_sendCommand preparation.setCn0Mask)
    intro _
    exact only_pure ()
  · exact only_pure ()

theorem only_setUpImu : Only P (setUpImu settings) := by
  apply only_bind (only_sendCommand preparation.setStartup)
  intro _
  apply only_bind (only_setAndVerify preparation.setOrientation preparation.getOrientation)
  intro _
  exact only_setAndVerify preparation.setLeverArm preparation.getLeverArm

theorem only_setUpAttitude : Only P (setUpAttitude settings) := by
  apply only_bind (only_setAndVerify preparation.setAttitude preparation.getAttitude)
  intro _
  exact only_setAndVerify preparation.setOffset preparation.getOffset

theorem only_prepare : Only P (prepare settings) := by
  apply only_bind (only_check _)
  intro _
  apply only_bind (only_checkCapabilities preparation)
  intro _
  apply only_bind (only_forM fun streamId member =>
    only_clearStream (preparation.clearStream streamId member))
  intro _
  apply only_bind (only_openDataPort preparation)
  intro _
  apply only_bind (only_resetTracking preparation)
  intro _
  apply only_bind (only_setUpImu preparation)
  intro _
  exact only_setUpAttitude preparation

end

theorem harmless_prepare {D : Type} [DecimalArithmetic D] (settings : ReceiverSettings D) :
    Only (fun cmd => ¬EnablesOutput cmd.text) (prepare settings) := by
  have orientation : ¬EnablesOutput (setOrientationCommand settings) := by
    unfold setOrientationCommand
    split
    · exact not_enablesOutput "setIM".toList rfl (by decide)
    · exact not_enablesOutput "setIM".toList rfl (by decide)
  exact only_prepare {
    getCapabilities := not_enablesOutput "getRe".toList rfl (by decide)
    clearStream := fun streamId _ => not_enablesOutput_clearStream streamId
    setIpServer := not_enablesOutput "setIP".toList rfl (by decide)
    setDataInOut := not_enablesOutput "setDa".toList rfl (by decide)
    setSatelliteTracking := not_enablesOutput "setSa".toList rfl (by decide)
    setSignalTracking := not_enablesOutput "setSi".toList rfl (by decide)
    setSignalUsage := not_enablesOutput "setSi".toList rfl (by decide)
    setCn0Mask := not_enablesOutput "setCN".toList rfl (by decide)
    setStartup := not_enablesOutput "setIM".toList rfl (by decide)
    setOrientation := orientation
    getOrientation := not_enablesOutput "getIM".toList rfl (by decide)
    setLeverArm := not_enablesOutput "setIN".toList rfl (by decide)
    getLeverArm := not_enablesOutput "getIN".toList rfl (by decide)
    setAttitude := not_enablesOutput "setGN".toList rfl (by decide)
    getAttitude := not_enablesOutput "getGN".toList rfl (by decide)
    setOffset := not_enablesOutput "setAt".toList rfl (by decide)
    getOffset := not_enablesOutput "getAt".toList rfl (by decide) }

/-! ## What a success has shown -/

theorem entries_of_check {action : Except ConfigError α} {value : α}
    {entries : List (Question × Answer)}
    (transcript : Transcript (check action).run entries (.ok value)) :
    entries = [] ∧ action = .ok value := by
  rcases transcript_done_iff.mp transcript with ⟨rfl, mapped⟩
  refine ⟨rfl, ?_⟩
  cases action with
  | error fault => cases mapped
  | ok result =>
      cases mapped
      rfl

theorem answer_of_acceptReply {cmd : Command} {answer : Answer} {reply : Text}
    (accepted : acceptReply cmd answer = .ok reply) : answer = .ok reply := by
  cases answer with
  | error fault => cases accepted
  | ok text =>
      by_cases rejected : occurs "$R?".toList text ∨ occurs "Invalid".toList text
      · rw [acceptReply, if_pos rejected] at accepted
        cases accepted
      · rw [acceptReply, if_neg rejected] at accepted
        cases accepted
        rfl

theorem entries_of_sendCommand {cmd : Command} {reply : Text}
    {entries : List (Question × Answer)}
    (transcript : Transcript (sendCommand cmd).run entries (.ok reply)) :
    entries = [(.command cmd, .ok reply)] := by
  rcases transcript_ask_iff.mp transcript with ⟨answer, later, rfl, rest⟩
  rcases transcript_done_iff.mp rest with ⟨rfl, accepted⟩
  rw [answer_of_acceptReply accepted]

theorem entries_of_clearStream {streamId : ℤ} {entries : List (Question × Answer)}
    (transcript : Transcript (clearStream streamId).run entries (.ok ())) :
    ∃ reply, entries = [(.command (.clearStream streamId), .ok reply)] := by
  rcases transcript_ask_iff.mp transcript with ⟨answer, later, rfl, rest⟩
  rcases transcript_done_iff.mp rest with ⟨rfl, ignored⟩
  cases answer with
  | error fault => cases ignored
  | ok reply => exact ⟨reply, rfl⟩

/-- Each item of a loop that succeeds has its own part of the transcript. -/
theorem part_of_forM {items : List α} {action : α → Configurator Unit}
    {entries : List (Question × Answer)}
    (transcript : Transcript (items.forM action).run entries (.ok ())) :
    ∀ item ∈ items, ∃ part, part ⊆ entries ∧ Transcript (action item).run part (.ok ()) := by
  induction items generalizing entries with
  | nil => simp
  | cons item later induction =>
      rcases transcript_bind_ok transcript with ⟨_, front, back, rfl, first, rest⟩
      intro other member
      rcases List.mem_cons.mp member with rfl | behind
      · exact ⟨front, List.subset_append_left .., first⟩
      · rcases induction rest other behind with ⟨part, inside, found⟩
        exact ⟨part, List.Subset.trans inside (List.subset_append_right ..), found⟩

theorem verified_of_setAndVerify {set get : Text} {verify : Text → Except ConfigError Unit}
    {entries : List (Question × Answer)}
    (transcript : Transcript (setAndVerify set get verify).run entries (.ok ())) :
    ∃ reply, (.command (.line get), .ok reply) ∈ entries ∧ verify reply = .ok () := by
  rcases transcript_bind_ok transcript with ⟨_, front, _, rfl, _, rest⟩
  rcases transcript_bind_ok rest with ⟨reply, asked, _, rfl, sent, checked⟩
  rcases entries_of_check checked with ⟨rfl, verified⟩
  refine ⟨reply, ?_, verified⟩
  rw [entries_of_sendCommand sent]
  simp

section

variable {D : Type} {settings : ReceiverSettings D} {entries : List (Question × Answer)}

theorem verified_of_checkCapabilities
    (transcript : Transcript (checkCapabilities settings).run entries (.ok ())) :
    ∃ reply caps, (.command (.line "getReceiverCapabilities".toList), .ok reply) ∈ entries ∧
      parseReceiverCapabilitiesReply reply = .ok caps ∧
      (settings.requireAux1 = true → caps.hasAux1 = true) := by
  rcases transcript_bind_ok transcript with ⟨reply, front, _, rfl, sent, rest⟩
  rcases transcript_bind_ok rest with ⟨caps, middle, back, rfl, checked, decided⟩
  rcases entries_of_check checked with ⟨rfl, parsed⟩
  refine ⟨reply, caps, ?_, parsed, ?_⟩
  · rw [entries_of_sendCommand sent]
    simp
  · intro required
    by_contra missing
    rw [if_pos ⟨required, missing⟩] at decided
    rcases transcript_done_iff.mp decided with ⟨_, impossible⟩
    cases impossible

theorem cleared_of_clearStreams (transcript : Transcript clearStreams.run entries (.ok ())) :
    ∀ streamId, 1 ≤ streamId → streamId ≤ 10 →
      ∃ reply, (.command (.clearStream streamId), .ok reply) ∈ entries := by
  intro streamId atLeast atMost
  have member : streamId ∈ [1, 2, 3, 4, 5, 6, 7, 8, 9, 10] := by
    simp only [List.mem_cons, List.not_mem_nil, or_false]
    omega
  rcases part_of_forM transcript streamId member with ⟨part, inside, cleared⟩
  rcases entries_of_clearStream cleared with ⟨reply, rfl⟩
  exact ⟨reply, inside (List.mem_singleton_self _)⟩

variable [DecimalArithmetic D]

theorem verified_of_prepare (transcript : Transcript (prepare settings).run entries (.ok ())) :
    Verified settings entries := by
  rcases transcript_bind_ok transcript with ⟨_, _, afterValid, rfl, checked, transcript⟩
  rcases transcript_bind_ok transcript with ⟨_, capable, _, rfl, capabilities, transcript⟩
  rcases transcript_bind_ok transcript with ⟨_, cleared, _, rfl, clears, transcript⟩
  rcases transcript_bind_ok transcript with ⟨_, opened, _, rfl, _, transcript⟩
  rcases transcript_bind_ok transcript with ⟨_, tracked, _, rfl, _, transcript⟩
  rcases transcript_bind_ok transcript with ⟨_, imu, attitude, rfl, imuSet, attitudeSet⟩
  rcases transcript_bind_ok imuSet with ⟨_, started, _, rfl, _, imuSet⟩
  rcases transcript_bind_ok imuSet with ⟨_, oriented, levered, rfl, orientation, lever⟩
  rcases transcript_bind_ok attitudeSet with ⟨_, modeled, offset, rfl, mode, offsets⟩
  rcases entries_of_check checked with ⟨rfl, valid⟩
  rcases verified_of_checkCapabilities capabilities with ⟨reply, caps, member, facts⟩
  rcases verified_of_setAndVerify orientation with ⟨orientationReply, orientationMember, oriented⟩
  rcases verified_of_setAndVerify lever with ⟨leverReply, leverMember, levered⟩
  rcases verified_of_setAndVerify mode with ⟨modeReply, modeMember, modeled⟩
  rcases verified_of_setAndVerify offsets with ⟨offsetReply, offsetMember, offsetted⟩
  refine ⟨valid, ⟨reply, caps, ?_, facts⟩, ?_, ⟨orientationReply, ?_, oriented⟩,
    ⟨leverReply, ?_, levered⟩, ⟨modeReply, ?_, modeled⟩, ⟨offsetReply, ?_, offsetted⟩⟩
  · simp only [List.nil_append, List.mem_append, member, true_or]
  · intro streamId atLeast atMost
    rcases cleared_of_clearStreams clears streamId atLeast atMost with ⟨clearReply, found⟩
    refine ⟨clearReply, ?_⟩
    simp only [List.nil_append, List.mem_append, found, true_or, or_true]
  · simp only [List.nil_append, List.mem_append, orientationMember, true_or, or_true]
  · simp only [List.nil_append, List.mem_append, leverMember, true_or, or_true]
  · simp only [List.nil_append, List.mem_append, modeMember, true_or, or_true]
  · simp only [List.nil_append, List.mem_append, offsetMember, or_true]

theorem Verified.append (verified : Verified settings entries)
    (later : List (Question × Answer)) : Verified settings (entries ++ later) := by
  have keep : ∀ {entry : Question × Answer}, entry ∈ entries → entry ∈ entries ++ later :=
    fun member => List.mem_append_left later member
  rcases verified.capabilities with ⟨reply, caps, member, facts⟩
  rcases verified.imuOrientation with ⟨orientationReply, orientationMember, oriented⟩
  rcases verified.insAntLeverArm with ⟨leverReply, leverMember, levered⟩
  rcases verified.gnssAttitude with ⟨modeReply, modeMember, modeled⟩
  rcases verified.attitudeOffset with ⟨offsetReply, offsetMember, offsetted⟩
  refine ⟨verified.valid, ⟨reply, caps, keep member, facts⟩, ?_,
    ⟨orientationReply, keep orientationMember, oriented⟩, ⟨leverReply, keep leverMember, levered⟩,
    ⟨modeReply, keep modeMember, modeled⟩, ⟨offsetReply, keep offsetMember, offsetted⟩⟩
  intro streamId atLeast atMost
  rcases verified.cleared streamId atLeast atMost with ⟨clearReply, found⟩
  exact ⟨clearReply, keep found⟩

end

/-- An enabling command is sent only to a verified receiver, and none is sent
when `apply` fails before its last step. -/
theorem enabled_only_when_verified {D : Type} [DecimalArithmetic D]
    (settings : ReceiverSettings D) :
    (∀ entries outcome, Transcript (apply settings).run entries outcome →
      ∀ before cmd answer after, entries = before ++ (.command cmd, answer) :: after →
        EnablesOutput cmd.text → Verified settings before) ∧
    ∀ entries fault, Transcript (prepare settings).run entries (.error fault) →
      Transcript (apply settings).run entries (.error fault) ∧
      ∀ cmd answer, (.command cmd, answer) ∈ entries → ¬EnablesOutput cmd.text := by
  constructor
  · intro entries outcome transcript before cmd answer after split enables
    have outside : ∀ {part : List (Question × Answer)} {result : Except DriverError Unit},
        Transcript (prepare settings).run part result → (.command cmd, answer) ∉ part := by
      intro part result prepared member
      rcases harmless_prepare settings _ (prepared.asks _ member) with ⟨other, same, harmless⟩
      cases same
      exact harmless enables
    rcases transcript_bind_cases transcript with ⟨fault, rfl, failed⟩ | ⟨_, front, back, rfl,
      prepared, enabled⟩
    · refine absurd ?_ (outside failed)
      rw [split]
      simp
    · rcases List.append_eq_append_iff.mp split with ⟨more, rfl, _⟩ | ⟨more, rfl, rest⟩
      · exact (verified_of_prepare prepared).append more
      · cases more with
        | nil =>
            rw [List.append_nil] at prepared
            exact verified_of_prepare prepared
        | cons first more =>
            cases rest
            refine absurd ?_ (outside prepared)
            simp
  · intro entries fault failed
    refine ⟨transcript_bind_error failed, ?_⟩
    intro cmd answer member
    rcases harmless_prepare settings _ (failed.asks _ member) with ⟨other, same, harmless⟩
    cases same
    exact harmless

end AsterxDriver.Driver
