import AsterxDriver.Driver.FailureCauses
import AsterxDriver.Driver.RecordingLoop
import AsterxDriver.Recorder.Survival

/-! # The program

`main.cpp` as a whole: the arguments, the configuration, the session on the
control connection, the recording and the shutdown. -/

namespace AsterxDriver.Driver

open Foundation Interaction Configurator Recorder

/-! ## Shutdown -/

/-- Any exception is ignored here, also one of the client. -/
def Configurator.stopStream (streamId : ℤ) : Configurator Unit :=
  ExceptT.mk (.ask (.command (.clearStream streamId)) fun _ => .done (.ok ()))

def Configurator.stopStreams : Configurator Unit :=
  [1, 2, 3, 4, 5, 6, 7, 8, 9, 10].forM stopStream

/-! ## Arguments -/

inductive Arguments
  | help
  | usage
  | run (configPath logLevelOverride : Text)
  deriving DecidableEq, Repr

/-- The loop over `argv`, with the options found so far. -/
def parseArguments (configPath logLevelOverride : Text) : List Text → Arguments
  | [] => if configPath = [] then .usage else .run configPath logLevelOverride
  | option :: rest =>
      if option = "--help".toList ∨ option = "-h".toList then .help
      else
        match rest with
        | [] => .usage
        | value :: later =>
            if option = "--config".toList then parseArguments value logLevelOverride later
            else if option = "--log-level".toList then parseArguments configPath value later
            else .usage

def AppConfig.overrideLogLevel {D : Type} (config : AppConfig D) (level : Text) : AppConfig D :=
  if level = [] then config else { config with logLevel := level }

theorem overrideLogLevel_eq {D : Type} (config : AppConfig D) (level : Text) :
    ∃ other, config.overrideLogLevel level = { config with logLevel := other } := by
  unfold AppConfig.overrideLogLevel
  split
  · exact ⟨config.logLevel, rfl⟩
  · exact ⟨level, rfl⟩

/-! ## One run -/

inductive Exit
  | code (number : ℕ)
  /-- An exception that nothing catches. -/
  | terminated
  deriving DecidableEq, Repr

/-- What the outside does to one run. -/
structure World (D σ : Type) where
  yaml : Yaml D
  /-- Whether the log can be opened. -/
  setupLogging : AppConfig D → Bool
  connectControl : Text → BitVec 16 → Except TcpError TcpClient
  /-- The control connection, whose state is a `σ`. -/
  control : Question → σ → Option (Answer × σ)
  initial : σ
  connectData : Text → BitVec 16 → Except TcpError { client : TcpClient // 0 ≤ client.fd }
  /-- The error text when the output directory cannot be made. -/
  createDirectories : Text → Option Text
  errnoString : Errno → String
  environment : Environment
  disk : Dict String (List Byte)
  turns : ℕ → Option Turn

/-- What is left of a run: how it ended, the conversation on the control connection,
the reads from the data channel, and the recorder if there was one. -/
structure Report (σ : Type) where
  exit : Exit
  entries : List (Question × Answer)
  state : σ
  reads : List (ReadEvent Byte)
  recorder : Option SbfRecorder

/-- The recorder after these calls of `feed`; none of its operations waits. -/
def Setup.fedRecorder (setup : Setup) (chunks : List (List Byte)) : SbfRecorder :=
  match (Act.calls setup.environment (chunks.map .feed)).run (.fresh setup.config setup.disk) with
  | some (_, recorder) => recorder
  | none => .fresh setup.config setup.disk

namespace World

variable {D σ : Type} [DecimalArithmetic D] (world : World D σ)

def setup (config : AppConfig D) (data : { client : TcpClient // 0 ≤ client.fd }) : Setup where
  data := data.1
  isOpen := data.2
  errnoString := world.errnoString
  environment := world.environment
  config :=
    { outputDir := String.ofList config.outputDir
      filePrefix := String.ofList config.filePrefix
      rotateBytes := config.rotateBytes
      rotateInterval := config.rotateIntervalSeconds }
  disk := world.disk

/-- After the loop of `n` turns. The destructor closes the file also when the
recorder has thrown. -/
def shutDown (setup : Setup) (entries : List (Question × Answer)) (state : σ) (n : ℕ) :
    Option (Report σ) :=
  let loop := setup.after world.turns n
  let recorder := (setup.fedRecorder loop.fed).close
  match loop.exit with
  | none => none
  | some (.fatal _) => some ⟨.code 1, entries, state, loop.reads, some recorder⟩
  | some _ => (run world.control stopStreams.run state).map fun stopped =>
      ⟨.code 0, entries ++ stopped.1.2, stopped.2, loop.reads, some recorder⟩

/-- The data channel and the recorder, after the session on the control connection. -/
def record (config : AppConfig D) (entries : List (Question × Answer)) (state : σ) (n : ℕ) :
    Option (Report σ) :=
  match world.connectData config.host config.receiver.ipsPort with
  | .error _ => some ⟨.code 1, entries, state, [], none⟩
  | .ok data =>
      match world.createDirectories config.outputDir with
      | some _ => some ⟨.code 1, entries, state, [], none⟩
      | none => world.shutDown (world.setup config data) entries state n

def configure (config : AppConfig D) (n : ℕ) : Option (Report σ) :=
  match world.connectControl config.host config.ctrlPort with
  | .error _ => some ⟨.code 1, [], world.initial, [], none⟩
  | .ok _ =>
      (run world.control (session config.receiver config.user config.password).run
          world.initial).bind fun finished =>
        match finished.1.1 with
        | .error _ => some ⟨.code 1, finished.1.2, finished.2, [], none⟩
        | .ok () => world.record config finished.1.2 finished.2 n

/-- The program, if it ends within `n` turns of its loop. -/
def main (arguments : List Text) (n : ℕ) : Option (Report σ) :=
  match parseArguments [] [] arguments with
  | .help => some ⟨.code 0, [], world.initial, [], none⟩
  | .usage => some ⟨.code 3, [], world.initial, [], none⟩
  | .run configPath logLevelOverride =>
      match world.yaml.loadAppConfig configPath with
      | .error _ => some ⟨.code 2, [], world.initial, [], none⟩
      | .ok loaded =>
          let config := loaded.overrideLogLevel logLevelOverride
          if world.setupLogging config then world.configure config n
          else some ⟨.terminated, [], world.initial, [], none⟩

end World

/-! ## The loop and its recorder -/

/-- What the calls of `feed` in the loop have come to. -/
def RecordingLoop.outcome (loop : RecordingLoop) : Except RecorderError SbfRecorder :=
  match loop.exit with
  | some (.fatal fault) => .error fault
  | _ => .ok loop.recorder

/-- Everything that was received was fed, and the recorder is what became of it. -/
structure Follows (setup : Setup) (loop : RecordingLoop) : Prop where
  fed : loop.fed.flatten = loop.reads.flatMap ReadEvent.bytes
  fedOutcome : (SbfRecorder.fresh setup.config setup.disk).run setup.environment
    (loop.fed.map .feed) = loop.outcome
  /-- No call was made after one that failed. -/
  earlier : ∀ front last, loop.fed = front ++ [last] → ∃ recorder,
    (SbfRecorder.fresh setup.config setup.disk).run setup.environment (front.map .feed) =
      .ok recorder

section

variable {setup : Setup} {loop : RecordingLoop}

theorem outcome_of_running (running : loop.exit = none) : loop.outcome = .ok loop.recorder := by
  rw [RecordingLoop.outcome, running]

theorem bytes_of_readSome_nil {event : ReadEvent Byte} (empty : setup.readSome event = .ok []) :
    event.bytes = [] := by
  rcases readSome_eq_nil_iff.mp empty with interrupted | rfl
  · cases event with
    | received bytes => cases interrupted
    | _ => rfl
  · rfl

/-- A turn that leaves the loop without a call of `feed`. -/
theorem Follows.leave (follows : Follows setup loop) (running : loop.exit = none)
    {event : ReadEvent Byte} (nothing : event.bytes = []) {exit : LoopExit}
    (caught : ∀ fault, exit ≠ .fatal fault) :
    Follows setup { loop with reads := loop.reads ++ [event], exit := some exit } := by
  have outcome := follows.fedOutcome
  rw [outcome_of_running running] at outcome
  refine ⟨?_, ?_, follows.earlier⟩
  · simp [follows.fed, nothing]
  · rw [outcome]
    cases exit with
    | fatal fault => exact absurd rfl (caught fault)
    | _ => rfl

theorem Follows.feed (follows : Follows setup loop) (running : loop.exit = none)
    (bytes : List Byte) :
    Follows setup
      (match loop.recorder.feed setup.environment bytes with
      | .error fault =>
          { loop with
            reads := loop.reads ++ [.received bytes]
            fed := loop.fed ++ [bytes]
            exit := some (.fatal fault) }
      | .ok recorder =>
          { loop with
            reads := loop.reads ++ [.received bytes]
            fed := loop.fed ++ [bytes]
            recorder := recorder }) := by
  have outcome := follows.fedOutcome
  rw [outcome_of_running running] at outcome
  have ran : (SbfRecorder.fresh setup.config setup.disk).run setup.environment
      ((loop.fed ++ [bytes]).map .feed) = loop.recorder.feed setup.environment bytes := by
    rw [List.map_append, SbfRecorder.run, List.foldlM_append]
    change (SbfRecorder.run setup.environment _ _ >>= _) = _
    rw [outcome, Checked.ok_bind, List.map_singleton, List.foldlM_cons, SbfRecorder.apply]
    cases loop.recorder.feed setup.environment bytes <;> rfl
  have earlier : ∀ front last, loop.fed ++ [bytes] = front ++ [last] → ∃ recorder,
      (SbfRecorder.fresh setup.config setup.disk).run setup.environment (front.map .feed) =
        .ok recorder := by
    intro front last split
    rcases List.append_inj' split rfl with ⟨rfl, _⟩
    exact ⟨loop.recorder, outcome⟩
  cases fed : loop.recorder.feed setup.environment bytes with
  | error fault =>
      refine ⟨by simp [follows.fed, ReadEvent.bytes], ?_, earlier⟩
      exact ran.trans fed
  | ok recorder =>
      refine ⟨by simp [follows.fed, ReadEvent.bytes], ?_, earlier⟩
      rw [outcome_of_running (by exact running)]
      exact ran.trans fed

theorem Follows.turn (follows : Follows setup loop) (turn : Turn) :
    Follows setup (setup.turn loop turn) := by
  by_cases left : loop.exit.isSome
  · rw [turn_left left]
    exact follows
  · have running : loop.exit = none := Option.not_isSome_iff_eq_none.mp left
    cases stop : turn.stop with
    | true =>
        rw [turn_stop running stop]
        refine ⟨follows.fed, ?_, follows.earlier⟩
        rw [follows.fedOutcome, outcome_of_running running]
        rfl
    | false =>
        cases read : setup.readSome turn.event with
        | error fault =>
            rw [turn_error running stop read]
            exact follows.leave running (bytes_of_readSome_error read) (by simp)
        | ok bytes =>
            cases bytes with
            | nil =>
                rw [turn_empty running stop read]
                exact follows.leave running (bytes_of_readSome_nil read) (by simp)
            | cons first later =>
                rw [turn_delivers running stop (readSome_eq_cons_iff.mp read)]
                exact follows.feed running (first :: later)

theorem follows_after (turns : ℕ → Option Turn) (n : ℕ) :
    Follows setup (setup.after turns n) := by
  induction n with
  | zero =>
      refine ⟨rfl, rfl, ?_⟩
      intro front last split
      exact absurd split.symm (List.append_ne_nil_of_right_ne_nil front (List.cons_ne_nil last []))
  | succ n induction =>
      cases here : turns n with
      | none =>
          rw [after_of_none here]
          exact induction
      | some turn =>
          rw [after_of_some here]
          exact induction.turn turn

theorem fedChunks_map_feed (chunks : List (List Byte)) :
    fedChunks (chunks.map Call.feed) = chunks := by
  simp [fedChunks, List.filterMap_map]

/-- Calls that fail are not a part of calls that succeed. -/
theorem run_ok_of_prefix {environment : Environment} {recorder final : SbfRecorder}
    {front back : List Call} (ran : recorder.run environment (front ++ back) = .ok final) :
    ∃ middle, recorder.run environment front = .ok middle := by
  rw [SbfRecorder.run, List.foldlM_append] at ran
  rcases Checked.bind_eq_ok.mp ran with ⟨middle, first, _⟩
  exact ⟨middle, first⟩

/-- The recorder that the loop leaves behind has the beginning of what was received,
and all of it unless it has thrown. -/
theorem Follows.survives (follows : Follows setup loop) (bounded : setup.environment.Bounded) :
    ∃ files lost torn, Survives setup.config setup.disk
        (loop.reads.flatMap ReadEvent.bytes) (setup.fedRecorder loop.fed) files lost torn ∧
      ((∀ fault, loop.exit ≠ some (.fatal fault)) → lost = [] ∧ torn = []) := by
  rcases calls_endsWithin (loop.fed.map Call.feed) (.fresh setup.config setup.disk) trivial with
    ⟨outcome, recorder, ends, _⟩
  have same : setup.fedRecorder loop.fed = recorder := by
    unfold Attempt.Ends at ends
    rw [Setup.fedRecorder, ends]
  rcases survives_of_ends bounded ends with
    ⟨ran, made, unmade, files, lost, torn, split, survives, ended⟩
  rw [follows.fedOutcome] at ran
  have all : unmade = [] := by
    rcases ended with ⟨_, none, _⟩ | ⟨message, _, failed⟩
    · exact none
    · induction unmade using List.reverseRecOn with
      | nil => rfl
      | append_singleton before call _ =>
          rw [← List.append_assoc] at split
          rcases List.map_eq_append_iff.mp split with ⟨front, last, whole, first, rest⟩
          rcases List.map_eq_singleton_iff.mp rest with ⟨chunk, rfl, _⟩
          rcases follows.earlier front chunk whole with ⟨middle, succeeded⟩
          rw [first] at succeeded
          rcases run_ok_of_prefix succeeded with ⟨_, impossible⟩
          rw [failed] at impossible
          cases impossible
  rw [all, List.append_nil] at split
  rw [← split, fedChunks_map_feed, follows.fed] at survives
  refine ⟨files, lost, torn, same ▸ survives, ?_⟩
  intro caught
  rcases ended with ⟨_, _, complete⟩ | ⟨message, rfl, _⟩
  · exact complete
  · exfalso
    unfold RecordingLoop.outcome at ran
    split at ran
    · rename_i fault exit
      exact caught fault exit
    · cases ran

end

/-! ## The conversation on the control connection -/

def stopQuestions : List Question :=
  [1, 2, 3, 4, 5, 6, 7, 8, 9, 10].map fun streamId => .command (.clearStream streamId)

/-- The ten streams are stopped in turn, whatever the receiver answers. -/
theorem questions_stopStreams {entries : List (Question × Answer)}
    {outcome : Except DriverError Unit} (transcript : Transcript stopStreams.run entries outcome) :
    outcome = .ok () ∧ entries.map Prod.fst = stopQuestions := by
  have each : ∀ (streamIds : List ℤ) (entries : List (Question × Answer)),
      Transcript (streamIds.forM stopStream).run entries outcome → outcome = .ok () ∧
        entries.map Prod.fst = streamIds.map fun streamId => .command (.clearStream streamId) := by
    intro streamIds
    induction streamIds with
    | nil =>
        intro entries transcript
        rcases transcript_done_iff.mp transcript with ⟨rfl, rfl⟩
        exact ⟨rfl, rfl⟩
    | cons streamId later induction =>
        intro entries transcript
        rcases transcript_bind_cases transcript with ⟨fault, rfl, failed⟩ |
          ⟨_, front, back, rfl, stopped, rest⟩
        · rcases transcript_ask_iff.mp failed with ⟨_, _, _, impossible⟩
          rcases transcript_done_iff.mp impossible with ⟨_, impossible⟩
          cases impossible
        · rcases transcript_ask_iff.mp stopped with ⟨answer, none, rfl, done⟩
          rcases transcript_done_iff.mp done with ⟨rfl, _⟩
          rcases induction back rest with ⟨ok, questions⟩
          exact ⟨ok, by simp [questions]⟩
  exact each _ entries transcript

theorem Verified.of_subset {D : Type} [DecimalArithmetic D] {settings : ReceiverSettings D}
    {entries more : List (Question × Answer)} (verified : Verified settings entries)
    (inside : entries ⊆ more) : Verified settings more := by
  rcases verified.capabilities with ⟨reply, caps, member, facts⟩
  rcases verified.imuOrientation with ⟨orientationReply, orientationMember, oriented⟩
  rcases verified.insAntLeverArm with ⟨leverReply, leverMember, levered⟩
  rcases verified.gnssAttitude with ⟨modeReply, modeMember, modeled⟩
  rcases verified.attitudeOffset with ⟨offsetReply, offsetMember, offsetted⟩
  refine ⟨verified.valid, ⟨reply, caps, inside member, facts⟩, ?_,
    ⟨orientationReply, inside orientationMember, oriented⟩,
    ⟨leverReply, inside leverMember, levered⟩, ⟨modeReply, inside modeMember, modeled⟩,
    ⟨offsetReply, inside offsetMember, offsetted⟩⟩
  intro streamId atLeast atMost
  rcases verified.cleared streamId atLeast atMost with ⟨clearReply, found⟩
  exact ⟨clearReply, inside found⟩

/-- A session that succeeds has verified the receiver. -/
theorem verified_of_session {D : Type} [DecimalArithmetic D] {settings : ReceiverSettings D}
    {user password : Text} {entries : List (Question × Answer)}
    (transcript : Transcript (session settings user password).run entries (.ok ())) :
    Verified settings entries := by
  rcases transcript_bind_ok transcript with ⟨_, front, back, rfl, _, applied⟩
  rcases transcript_bind_ok applied with ⟨_, prepared, enabled, rfl, preparation, _⟩
  apply (verified_of_prepare preparation).of_subset
  intro entry member
  exact List.mem_append_right _ (List.mem_append_left _ member)

/-! ## How a run can end -/

theorem close_survives {config : Config} {disk : Dict String (List Byte)} {stream : List Byte}
    {recorder : SbfRecorder} {files : List LocatedFile} {lost : List (ℕ × Sbf.Frame)}
    {torn : List Byte} (survives : Survives config disk stream recorder files lost torn) :
    Survives config disk stream recorder.close files lost torn := by
  unfold SbfRecorder.close
  split
  · exact { survives with }
  · exact survives

/-- The recorder of a run, and what must have happened before there was one. -/
structure Recorded {D σ : Type} [DecimalArithmetic D] (world : World D σ) (report : Report σ)
    (recorder : SbfRecorder) (config : AppConfig D) : Prop where
  accepted : Accepted config
  /-- The receiver was verified first, and it was told to stop if the loop was left in
  another way than by an exception of the recorder. -/
  conversation : ∃ front back, report.entries = front ++ back ∧
    Transcript (session config.receiver config.user config.password).run front (.ok ()) ∧
    Verified config.receiver front ∧
    (report.exit = .code 0 ∧ back.map Prod.fst = stopQuestions ∨
      report.exit = .code 1 ∧ back = [])
  /-- The disk has the beginning of what was received, and all of it after a clean exit. -/
  disk : ∃ files lost torn, Survives
      { outputDir := String.ofList config.outputDir
        filePrefix := String.ofList config.filePrefix
        rotateBytes := config.rotateBytes
        rotateInterval := config.rotateIntervalSeconds }
      world.disk (report.reads.flatMap ReadEvent.bytes) recorder files lost torn ∧
    (report.exit = .code 0 → lost = [] ∧ torn = [])

/-- Without a recorder nothing was read; with one, this is how it came to be. -/
structure Accounted {D σ : Type} [DecimalArithmetic D] (world : World D σ)
    (report : Report σ) : Prop where
  unrecorded : report.recorder = none → report.reads = []
  recorded : ∀ recorder ∈ report.recorder, ∃ path level loaded,
    world.yaml.loadAppConfig path = .ok loaded ∧
      Recorded world report recorder (loaded.overrideLogLevel level)

theorem accounted_of_none {D σ : Type} [DecimalArithmetic D] (world : World D σ) (exit : Exit)
    (entries : List (Question × Answer)) (state : σ) :
    Accounted world ⟨exit, entries, state, [], none⟩ where
  unrecorded := fun _ => rfl
  recorded := fun _ impossible => by cases impossible

section

variable {D σ : Type} [DecimalArithmetic D] {world : World D σ} {config : AppConfig D} {n : ℕ}
  {report : Report σ}

theorem shutDown_recorded (bounded : world.environment.Bounded) (accepted : Accepted config)
    {data : { client : TcpClient // 0 ≤ client.fd }} {entries : List (Question × Answer)}
    {state : σ}
    (session : Transcript (session config.receiver config.user config.password).run entries
      (.ok ()))
    (ended : world.shutDown (world.setup config data) entries state n = some report) :
    ∃ recorder, report.recorder = some recorder ∧ Recorded world report recorder config := by
  have verified := verified_of_session session
  have follows : Follows (world.setup config data)
      ((world.setup config data).after world.turns n) := follows_after world.turns n
  rcases follows.survives bounded with ⟨files, lost, torn, survives, complete⟩
  unfold World.shutDown at ended
  dsimp only at ended
  split at ended
  · cases ended
  · cases ended
    refine ⟨_, rfl, accepted, ⟨entries, [], by simp, session, verified, .inr ⟨rfl, rfl⟩⟩,
      files, lost, torn, close_survives survives, ?_⟩
    intro impossible
    cases impossible
  · rename_i exit caught left
    rcases Option.map_eq_some_iff.mp ended with ⟨stopped, ran, rfl⟩
    rcases questions_stopStreams (transcript_of_run ran) with ⟨_, questions⟩
    refine ⟨_, rfl, accepted, ⟨entries, stopped.1.2, rfl, session, verified,
      .inl ⟨rfl, questions⟩⟩, files, lost, torn, close_survives survives, ?_⟩
    intro _
    apply complete
    intro fault fatal
    rw [left] at fatal
    exact caught fault (Option.some.inj fatal)

theorem configure_recorded (bounded : world.environment.Bounded) (accepted : Accepted config)
    (ended : world.configure config n = some report) :
    (report.recorder = none ∧ report.reads = []) ∨
      ∃ recorder, report.recorder = some recorder ∧ Recorded world report recorder config := by
  unfold World.configure at ended
  split at ended
  · cases ended
    exact .inl ⟨rfl, rfl⟩
  · rcases Option.bind_eq_some_iff.mp ended with ⟨⟨⟨outcome, entries⟩, state⟩, ran, rest⟩
    cases outcome with
    | error fault =>
        cases rest
        exact .inl ⟨rfl, rfl⟩
    | ok _ =>
        have session := transcript_of_run ran
        change world.record config entries state n = some report at rest
        unfold World.record at rest
        split at rest
        · cases rest
          exact .inl ⟨rfl, rfl⟩
        · split at rest
          · cases rest
            exact .inl ⟨rfl, rfl⟩
          · exact .inr (shutDown_recorded bounded accepted session rest)

theorem Accepted.overrideLogLevel (accepted : Accepted config) (level : Text) :
    Accepted (config.overrideLogLevel level) := by
  rcases overrideLogLevel_eq config level with ⟨other, same⟩
  rw [same]
  exact ⟨⟨accepted.ctrlPort, accepted.ipsPort, accepted.orientation⟩, accepted.valid⟩

theorem accounted_of_configure {path level : Text}
    (load : world.yaml.loadAppConfig path = .ok config)
    (cases : (report.recorder = none ∧ report.reads = []) ∨
      ∃ recorder, report.recorder = some recorder ∧
        Recorded world report recorder (config.overrideLogLevel level)) :
    Accounted world report := by
  rcases cases with ⟨none, nothing⟩ | ⟨recorder, some, recorded⟩
  · refine ⟨fun _ => nothing, ?_⟩
    intro recorder member
    rw [none] at member
    cases member
  · refine ⟨?_, ?_⟩
    · intro none
      rw [some] at none
      cases none
    · intro found member
      rw [some] at member
      cases member
      exact ⟨path, level, config, load, recorded⟩

end

theorem exit_of_stop (setup : Setup) {turns : ℕ → Option Turn} {k : ℕ} {turn : Turn}
    (here : turns k = some turn) (stop : turn.stop = true) :
    (setup.after turns (k + 1)).exit.isSome := by
  rw [after_of_some here]
  by_cases left : (setup.after turns k).exit.isSome
  · rw [turn_left left]
    exact left
  · rw [turn_stop (Option.not_isSome_iff_eq_none.mp left) stop]
    rfl

theorem streamId_of_built {stream : SbfStream} {ipsId : ℤ} {cmd : Command}
    (built : buildSbfOutputCommand stream ipsId = .ok cmd) :
    1 ≤ stream.streamId ∧ stream.streamId ≤ 10 := by
  unfold buildSbfOutputCommand at built
  split_ifs at built with badId badPort noBlocks badInterval tooLong
  omega

/-- A stream that is enabled, or was before, is output. -/
theorem enabledTable_ne_none (ipsId : ℤ) {streams : List SbfStream} {table : StreamTable}
    {streamId : ℤ}
    (enabled : (∃ stream ∈ streams, stream.streamId = streamId) ∨ table streamId ≠ none) :
    enabledTable ipsId streams table streamId ≠ none := by
  induction streams generalizing table with
  | nil =>
      have on : table streamId ≠ none := by simpa using enabled
      exact on
  | cons first later induction =>
      apply induction
      by_cases same : streamId = first.streamId
      · right
        change Function.update table first.streamId
          (some ⟨ipsId, first.blocks, first.interval⟩) streamId ≠ none
        rw [same, Function.update_self]
        exact Option.some_ne_none _
      · rcases enabled with ⟨stream, member, number⟩ | on
        · rcases List.mem_cons.mp member with rfl | inside
          · exact absurd number.symm same
          · exact .inl ⟨stream, inside, number⟩
        · right
          change Function.update table first.streamId
            (some ⟨ipsId, first.blocks, first.interval⟩) streamId ≠ none
          rw [Function.update_of_ne same]
          exact on

theorem hears_stopStreams (receiver : Receiver) : receiver.Hears stopStreams
    ([1, 2, 3, 4, 5, 6, 7, 8, 9, 10].map .clearStream) :=
  Receiver.hears_forM fun streamId _ state =>
    ⟨(), [(.command (.clearStream streamId), .ok (receiver.reply
      (state.lines ++ [(Command.clearStream streamId).text])))], rfl⟩

section

variable {receiver : Receiver}
  (accepts : ∀ lines, ¬(occurs "$R?".toList (receiver.reply lines) ∨
    occurs "Invalid".toList (receiver.reply lines)))

include accepts

theorem hears_login (user password : Text) : receiver.Hears (login user password)
    [.line ("login, ".toList ++ user ++ ", ".toList ++ password)] := by
  intro state
  refine ⟨(), ?_⟩
  have banner : receiver.HearsFrom state readBanner [] receiver.banner := ⟨_, rfl⟩
  apply banner.bind
  apply (Receiver.hearsFrom_sendCommand accepts state _).bind
  rw [if_neg fun marked => accepts _ (.inl marked)]
  exact ⟨[], rfl⟩

end

section

variable {D : Type} [DecimalArithmetic D]

/-- What a session makes of the table. -/
theorem run_session {settings : ReceiverSettings D}
    (valid : validateReceiverSettings settings = .ok ()) {receiver : Receiver}
    (faithful : receiver.Faithful settings) (user password : Text) (initial : ReceiverState) :
    ∃ entries final, run receiver.answer (session settings user password).run initial =
      some ((.ok (), entries), final) ∧
    final.table = enabledTable settings.ipsId settings.streams (clearedTable initial.table) := by
  rcases hears_login faithful.accepts user password initial with ⟨_, entries, loggedIn⟩
  rcases run_apply valid faithful ([Command.line _].foldl receiver.hear initial) with
    ⟨later, final, applied, table⟩
  refine ⟨entries ++ later, final, ?_, ?_⟩
  · rw [session, run_bind_ok loggedIn, applied]
    rfl
  · rw [table, List.foldl_cons, List.foldl_nil, hear_eq faithful.accepts]
    rfl

theorem stopped_table {settings : ReceiverSettings D} {receiver : Receiver}
    (faithful : receiver.Faithful settings) (state : ReceiverState) :
    ∃ entries final, run receiver.answer stopStreams.run state =
      some ((.ok (), entries), final) ∧
    ∀ streamId, 1 ≤ streamId → streamId ≤ 10 → final.table streamId = none := by
  rcases hears_stopStreams receiver state with ⟨_, entries, ran⟩
  refine ⟨entries, _, ran, ?_⟩
  intro streamId atLeast atMost
  rw [table_foldl_hear faithful.accepts]
  apply foldl_clearStream_update
  left
  simp only [List.mem_cons, List.not_mem_nil, or_false]
  omega

theorem enabled_of_valid {settings : ReceiverSettings D}
    (valid : validateReceiverSettings settings = .ok ()) (table : StreamTable) :
    ∃ streamId, 1 ≤ streamId ∧ streamId ≤ 10 ∧
      enabledTable settings.ipsId settings.streams table streamId ≠ none := by
  have some : ∃ stream, stream ∈ settings.streams := by
    apply List.exists_mem_of_ne_nil
    intro empty
    unfold validateReceiverSettings at valid
    split_ifs at valid
  rcases some with ⟨stream, member⟩
  rcases streamId_of_built (built_of_valid valid stream member).1 with ⟨atLeast, atMost⟩
  exact ⟨stream.streamId, atLeast, atMost,
    enabledTable_ne_none settings.ipsId (.inl ⟨stream, member, rfl⟩)⟩

end

/-- Everything outside the program does its part. -/
structure Cooperates {D : Type} [DecimalArithmetic D] (world : World D ReceiverState)
    (receiver : Receiver) (arguments : List Text) (config : AppConfig D) : Prop where
  control : world.control = receiver.answer
  loaded : ∃ path level, parseArguments [] [] arguments = .run path level ∧
    world.yaml.loadAppConfig path = .ok config ∧
    world.setupLogging (config.overrideLogLevel level) = true
  faithful : receiver.Faithful config.receiver
  connects : ∃ client, world.connectControl config.host config.ctrlPort = .ok client
  connectsData : ∃ data, world.connectData config.host config.receiver.ipsPort = .ok data
  directory : world.createDirectories config.outputDir = none

section

variable {D : Type} [DecimalArithmetic D] {world : World D ReceiverState} {receiver : Receiver}
  {arguments : List Text} {config : AppConfig D}

theorem Cooperates.valid (cooperates : Cooperates world receiver arguments config) :
    validateReceiverSettings config.receiver = .ok () := by
  rcases cooperates.loaded with ⟨path, level, _, loaded, _⟩
  exact (accepted_of_loadAppConfig loaded).valid

/-- The program comes to its loop, with the streams enabled. -/
theorem Cooperates.reaches (cooperates : Cooperates world receiver arguments config) (n : ℕ) :
    ∃ setup entries state, world.main arguments n = world.shutDown setup entries state n ∧
      state.table = enabledTable config.receiver.ipsId config.receiver.streams
        (clearedTable world.initial.table) := by
  rcases cooperates.loaded with ⟨path, level, parsed, loaded, logs⟩
  rcases cooperates.connects with ⟨client, connects⟩
  rcases cooperates.connectsData with ⟨data, connectsData⟩
  rcases overrideLogLevel_eq config level with ⟨other, same⟩
  rcases run_session cooperates.valid cooperates.faithful config.user config.password
    world.initial with ⟨entries, state, configured, table⟩
  refine ⟨world.setup { config with logLevel := other } data, entries, state, ?_, table⟩
  simp only [World.main, parsed, loaded]
  rw [if_pos logs, same]
  simp only [World.configure, connects, cooperates.control, configured, Option.bind_some,
    World.record, connectsData, cooperates.directory]

/-- The loop is left when `g_stop` is seen to be set, and the streams are stopped unless
the recorder has thrown. -/
theorem Cooperates.stops (cooperates : Cooperates world receiver arguments config) {k : ℕ}
    {turn : Turn} (here : world.turns k = some turn) (stop : turn.stop = true) (setup : Setup)
    (entries : List (Question × Answer)) (state : ReceiverState) :
    ∃ report, world.shutDown setup entries state (k + 1) = some report ∧
      report.recorder.isSome ∧
      (report.exit = .code 0 ∧ (∀ streamId, 1 ≤ streamId → streamId ≤ 10 →
          report.state.table streamId = none) ∨
        report.exit = .code 1 ∧ report.state = state) := by
  have ends := exit_of_stop setup here stop
  unfold World.shutDown
  dsimp only
  split
  · rename_i running
    rw [running] at ends
    cases ends
  · exact ⟨_, rfl, rfl, .inr ⟨rfl, rfl⟩⟩
  · rcases stopped_table cooperates.faithful state with ⟨stops, final, ran, silent⟩
    rw [cooperates.control, ran]
    exact ⟨_, rfl, rfl, .inl ⟨rfl, silent⟩⟩

end

/-- A run that is stopped after one frame was received, on a disk that becomes full. -/
def fullDiskWorld : World ℚ ReceiverState where
  yaml := leverArmYaml
  setupLogging := fun _ => true
  connectControl := fun _ _ => .ok ⟨3⟩
  control := echoReceiver.answer
  initial := offState
  connectData := fun _ _ => .ok ⟨⟨4⟩, by decide⟩
  createDirectories := fun _ => none
  errnoString := fun _ => ""
  environment := fullDisk
  disk := ∅
  turns := fun k => match k with
    | 0 => some ⟨false, .received [0x24, 0x40, 0xE0, 0x06, 0x00, 0x00, 0x0C, 0x00, 0x01, 0x02,
        0x03, 0x04]⟩
    | _ => some ⟨true, .pollTimeout⟩

def configArguments : List Text := ["--config".toList, "config.yaml".toList]

theorem parseArguments_configArguments :
    parseArguments [] [] configArguments = .run "config.yaml".toList [] := by
  decide

theorem fullDiskWorld_cooperates :
    Cooperates fullDiskWorld echoReceiver configArguments leverArmConfig where
  control := rfl
  loaded := ⟨_, _, parseArguments_configArguments, leverArmYaml_loads _, rfl⟩
  faithful := echoReceiver_faithful defaultStreams
  connects := ⟨_, rfl⟩
  connectsData := ⟨_, rfl⟩
  directory := rfl

end AsterxDriver.Driver
