import AsterxDriver.Ntrip.ProcessThread

/-! # Two views of the threads

The threads with their condition variable are the threads of the receive loop, when one
looks only at the flags and at where each thread is. -/

namespace AsterxDriver.Ntrip

open Foundation

/-- The flags and where each thread is. -/
def Threads.control (threads : Threads) :
    Options × (Bool × Bool × Bool) × UserControl × ReceiveControl × Bool :=
  (threads.client.config, threads.client.flags, threads.user, threads.receiver,
    threads.processing)

section

variable {client client' : Client} {user : UserControl} {receiver : ReceiveControl}
  {processing : Bool}

/-- The clients differ in their data only. -/
structure SameFlags (client client' : Client) : Prop where
  config : client.config = client'.config
  connected : client.connected = client'.connected
  disconnected : client.disconnected = client'.disconnected
  receiving : client.receiving = client'.receiving

theorem SameFlags.control (same : SameFlags client client') (user : UserControl)
    (receiver : ReceiveControl) (processing : Bool) :
    Threads.control ⟨client, user, receiver, processing⟩ =
      Threads.control ⟨client', user, receiver, processing⟩ := by
  simp only [Threads.control, Client.flags, same.config, same.connected, same.disconnected,
    same.receiving]

theorem SameFlags.closed (same : SameFlags client client') :
    SameFlags (closed client) (closed client') :=
  ⟨same.config, rfl, same.disconnected, same.receiving⟩

theorem SameFlags.cleared (same : SameFlags client client') :
    SameFlags { client with receiving := false } { client' with receiving := false } :=
  ⟨same.config, same.connected, same.disconnected, rfl⟩

theorem SameFlags.unconnected (same : SameFlags client client') :
    SameFlags { client with connected := false } { client' with connected := false } :=
  ⟨same.config, rfl, same.disconnected, same.receiving⟩

theorem SameFlags.connectEnded (same : SameFlags client client') (result : CallResult) :
    SameFlags (connectEnded client result) (connectEnded client' result) := by
  rcases result with (_ | _) | _
  · exact same.closed
  · exact ⟨same.config, rfl, rfl, same.receiving⟩
  · exact same

theorem SameFlags.userStep (same : SameFlags client client') (event : Event) :
    (userStep ⟨client, user, receiver, processing⟩ event).map Threads.control =
      (userStep ⟨client', user, receiver, processing⟩ event).map Threads.control := by
  cases event with
  | connect =>
      simp only [Ntrip.userStep, same.connected]
      split
      · rfl
      split
      · exact congrArg some (same.control ..)
      · exact congrArg some (same.control ..)
  | connectEnds result =>
      simp only [Ntrip.userStep]
      split
      · rfl
      · exact congrArg some ((same.connectEnded result).control ..)
  | startReceiving =>
      simp only [Ntrip.userStep, startReceiving, same.connected, same.receiving]
      split
      · rfl
      split
      · exact congrArg some (same.control ..)
      split
      · exact congrArg some (same.control ..)
      split
      · rfl
      · have started : SameFlags (startedReceiving client) (startedReceiving client') :=
          ⟨same.config, same.connected, same.disconnected, rfl⟩
        exact congrArg some (started.control ..)
  | disconnect =>
      simp only [Ntrip.userStep, same.disconnected]
      split
      · rfl
      split
      · exact congrArg some (same.control ..)
      · have marked : SameFlags { client with disconnected := true }
            { client' with disconnected := true } :=
          ⟨same.config, same.connected, rfl, same.receiving⟩
        exact congrArg some (marked.control ..)
  | stopReceiving =>
      simp only [Ntrip.userStep, same.receiving]
      split
      · rfl
      split
      · exact congrArg some (same.control ..)
      · exact congrArg some (same.cleared.control ..)
  | join =>
      simp only [Ntrip.userStep]
      split
      · rfl
      split
      · exact congrArg some (same.control ..)
      · rfl
  | disconnectEnds =>
      simp only [Ntrip.userStep]
      split
      · rfl
      · exact congrArg some (same.closed.control ..)
  | _ => rfl

theorem SameFlags.processStep (same : SameFlags client client') (event : Event) :
    (processStep ⟨client, user, receiver, processing⟩ event).map Threads.control =
      (processStep ⟨client', user, receiver, processing⟩ event).map Threads.control := by
  cases event with
  | processThrows =>
      simp only [Ntrip.processStep]
      split
      · rfl
      · exact congrArg some (same.cleared.control ..)
  | processEnds =>
      simp only [Ntrip.processStep, same.receiving]
      split
      · rfl
      · exact congrArg some (same.control ..)
  | _ => rfl

/-- The same control point, with clients that differ in their data only. -/
def SameStep : Option (Client × ReceiveControl) → Option (Client × ReceiveControl) → Prop
  | none, none => True
  | some pair, some pair' => SameFlags pair.1 pair'.1 ∧ pair.2 = pair'.2
  | _, _ => False

theorem SameFlags.proceed (same : SameFlags client client') (control : ReceiveControl) :
    SameStep (proceed client control) (proceed client' control) := by
  cases control with
  | absent | reading | connecting attempts | exited => trivial
  | testReceiving | sleeping attempts =>
      simp only [Ntrip.proceed, same.receiving]
      exact ⟨same, rfl⟩
  | testConnected | calling attempts =>
      simp only [Ntrip.proceed, same.connected]
      exact ⟨same, rfl⟩
  | lost =>
      simp only [Ntrip.proceed, same.config, same.receiving]
      exact ⟨same, rfl⟩
  | reconnecting attempts =>
      simp only [Ntrip.proceed, same.config, same.receiving]
      split
      · exact ⟨⟨rfl, same.connected, same.disconnected, rfl⟩, rfl⟩
      · exact ⟨same, rfl⟩
  | closing attempts => exact ⟨same.closed, rfl⟩
  | givingUp =>
      simp only [Ntrip.proceed, same.config]
      split
      · exact ⟨same, rfl⟩
      · exact ⟨⟨rfl, same.connected, same.disconnected, rfl⟩, rfl⟩
  | handling => exact ⟨same.unconnected, rfl⟩
  | handled => exact ⟨same.cleared, rfl⟩

theorem SameFlags.received (same : SameFlags client client') (outcome : Received) :
    SameFlags (received client outcome).1 (received client' outcome).1 ∧
      (received client outcome).2 = (received client' outcome).2 := by
  cases outcome with
  | data | again => exact ⟨same, rfl⟩
  | closed => exact ⟨same.unconnected, rfl⟩
  | error =>
      refine ⟨same.unconnected, ?_⟩
      simp only [Ntrip.received, same.config]

theorem SameFlags.receiveStep (same : SameFlags client client') (event : Event) :
    (receiveStep ⟨client, user, receiver, processing⟩ event).map Threads.control =
      (receiveStep ⟨client', user, receiver, processing⟩ event).map Threads.control := by
  cases event with
  | proceeds =>
      have steps := same.proceed receiver
      simp only [Ntrip.receiveStep]
      cases here : Ntrip.proceed client receiver with
      | none =>
          rw [here] at steps
          cases there : Ntrip.proceed client' receiver with
          | none => rfl
          | some pair =>
              rw [there] at steps
              exact steps.elim
      | some pair =>
          rw [here] at steps
          cases there : Ntrip.proceed client' receiver with
          | none =>
              rw [there] at steps
              exact steps.elim
          | some pair' =>
              rw [there] at steps
              rcases pair with ⟨after, next⟩
              rcases pair' with ⟨after', next'⟩
              rcases steps with ⟨sameAfter, rfl⟩
              exact congrArg some (sameAfter.control ..)
  | receives outcome =>
      rcases same.received outcome with ⟨sameAfter, sameNext⟩
      simp only [Ntrip.receiveStep]
      split
      · rfl
      · simp only [Threads.withReceiver, sameNext]
        exact congrArg some (sameAfter.control ..)
  | reconnectEnds result =>
      simp only [Ntrip.receiveStep]
      split
      · exact congrArg some ((same.connectEnded (.returned result)).control ..)
      · rfl
  | throws =>
      simp only [Ntrip.receiveStep]
      split
      · rfl
      · exact congrArg some (same.control ..)
  | _ => rfl

end

theorem sameFlags_of_control {threads other : Threads} (same : threads.control = other.control) :
    SameFlags threads.client other.client ∧ threads.user = other.user ∧
      threads.receiver = other.receiver ∧ threads.processing = other.processing := by
  simp only [Threads.control, Client.flags, Prod.mk.injEq] at same
  rcases same with ⟨config, ⟨connected, disconnected, receiving⟩, user, receiver, processing⟩
  exact ⟨⟨config, connected, disconnected, receiving⟩, user, receiver, processing⟩

/-- The steps depend on nothing else. -/
theorem control_step {threads other : Threads} (same : threads.control = other.control)
    (event : Event) :
    (step threads event).map Threads.control = (step other event).map Threads.control := by
  rcases threads with ⟨client, user, receiver, processing⟩
  rcases other with ⟨client', user', receiver', processing'⟩
  rcases sameFlags_of_control same with ⟨same, sameUser, sameReceiver, sameProcessing⟩
  cases sameUser
  cases sameReceiver
  cases sameProcessing
  simp only [step, Option.map_or, same.userStep event, same.processStep event,
    same.receiveStep event]

/-- A step that the other view takes as well. -/
theorem follows_of_step {threads other next : Threads} {event : Event}
    (same : threads.control = other.control) (steps : step threads event = some next) :
    ∃ following, step other event = some following ∧ next.control = following.control := by
  have both := control_step same event
  rw [steps, Option.map_some, eq_comm] at both
  rcases Option.map_eq_some_iff.mp both with ⟨following, follows, sameNext⟩
  exact ⟨following, follows, sameNext.symm⟩

/-! ## The threads with their condition variable -/

/-- The two views of one moment. -/
def Viewed (signals : Signals) (threads : Threads) : Prop :=
  Watched signals ∧ signals.threads.control = threads.control

theorem control_enqueue (threads : Threads) (data : List Byte) :
    Threads.control { threads with client := enqueue threads.client data } = threads.control := by
  unfold enqueue Threads.control Client.flags
  dsimp only
  split <;> rfl

theorem control_chunkRtcmData (threads : Threads) (later : List (List Byte)) (data : List Byte) :
    Threads.control { threads with
      client := (chunkRtcmData { threads.client with dataQueue := later } data).1 } =
      threads.control := by
  unfold chunkRtcmData Threads.control Client.flags
  split
  · rfl
  · dsimp only
    split <;> rfl

section

variable {signals final : Signals} {threads : Threads}

/-- A step of the other view, with this image. -/
def Follows (final : Signals) (threads : Threads) : Prop :=
  ∃ event next, step threads event = some next ∧ final.threads.control = next.control

theorem follows_exit (watched : Watched signals) (running : signals.processor.Running = true)
    (stopped : signals.threads.client.receiving = false)
    (same : signals.threads.control = threads.control) : Follows signals.exit threads := by
  have processing : signals.threads.processing = true := watched.processing.trans running
  have ends : step signals.threads .processEnds =
      some { signals.threads with processing := false } := by
    simp only [step, userStep, processStep, receiveStep, processing, stopped, Option.none_or,
      Option.or_none, not_true_eq_false, Bool.false_eq_true, or_self, if_false]
  rcases follows_of_step same ends with ⟨next, follows, sameNext⟩
  exact ⟨.processEnds, next, follows, sameNext⟩

theorem follows_threadStep {event : Event} (steps : threadStep signals event = some final)
    (same : signals.threads.control = threads.control) : Follows final threads := by
  have taken : step signals.threads event = some final.threads := by
    unfold threadStep at steps
    split at steps
    · cases steps
    split at steps
    · cases steps
    · cases steps
    · cases steps
    · rcases Option.map_eq_some_iff.mp steps with ⟨next, goes, rfl⟩
      rw [goes]
      split <;> rfl
    · rcases Option.map_eq_some_iff.mp steps with ⟨next, goes, rfl⟩
      exact goes
    · split at steps
      · cases steps
      · rcases Option.map_eq_some_iff.mp steps with ⟨next, goes, rfl⟩
        exact goes
    · rcases Option.map_eq_some_iff.mp steps with ⟨next, goes, rfl⟩
      exact goes
    · rcases Option.map_eq_some_iff.mp steps with ⟨next, goes, rfl⟩
      exact goes
  rcases follows_of_step same taken with ⟨next, follows, sameNext⟩
  exact ⟨event, next, follows, sameNext⟩

theorem follows_receivesStep {data : List Byte} (steps : receivesStep signals data = some final)
    (same : signals.threads.control = threads.control) : Follows final threads := by
  rcases receivesStep_cases steps with ⟨_, _, _, reading, rfl⟩
  have receives : step signals.threads (.receives .data) =
      some { signals.threads with receiver := .testReceiving } := by
    simp only [step, userStep, processStep, receiveStep, reading, Option.none_or, ne_eq,
      not_true_eq_false, if_false]
    rfl
  rcases follows_of_step same receives with ⟨next, follows, sameNext⟩
  refine ⟨.receives .data, next, follows, ?_⟩
  exact (control_enqueue { signals.threads with receiver := .testReceiving } data).trans sameNext

theorem follows_processSteps (watched : Watched signals) (steps : ProcessSteps signals final)
    (same : signals.threads.control = threads.control) :
    final.threads.control = threads.control ∨ Follows final threads := by
  cases steps with
  | ends here stopped | leaves here _ stopped =>
      refine .inr (follows_exit watched ?_ stopped same)
      rw [here]
      rfl
  | takes here data later queue =>
      exact .inl ((control_chunkRtcmData signals.threads later data).trans same)
  | goesOn | locks | finds | blocks | waits | delivers | returns => exact .inl same

/-- Every step is one of the other view, or none. -/
theorem viewed_signalStep {event : SignalEvent} (viewed : Viewed signals threads)
    (steps : signalStep signals event = some final) :
    Viewed final threads ∨ ∃ action next, step threads action = some next ∧ Viewed final next := by
  rcases viewed with ⟨watched, same⟩
  have finally_ := watched_signalStep watched steps
  have moves : final.threads.control = threads.control ∨ Follows final threads := by
    cases event with
    | thread event => exact .inr (follows_threadStep steps same)
    | pends data =>
        simp only [signalStep, pendsStep] at steps
        split at steps
        · cases steps
          exact .inl same
        · cases steps
          exact .inl same
        · cases steps
    | receives data => exact .inr (follows_receivesStep steps same)
    | receiverNotifies | userNotifies | wakes =>
        simp only [signalStep] at steps
        split at steps
        · cases steps
        · cases steps
          exact .inl same
    | processes =>
        exact follows_processSteps watched (processSteps_of_processesStep steps) same
    | processThrows =>
        have throws : step signals.threads .processThrows = some final.threads := by
          simp only [signalStep, processThrowsStep] at steps
          split at steps
          · rcases Option.map_eq_some_iff.mp steps with ⟨next, goes, rfl⟩
            exact goes
          · cases steps
        rcases follows_of_step same throws with ⟨next, follows, sameNext⟩
        exact .inr ⟨.processThrows, next, follows, sameNext⟩
  rcases moves with still | ⟨action, next, follows, sameNext⟩
  · exact .inl ⟨finally_, still⟩
  · exact .inr ⟨action, next, follows, finally_, sameNext⟩

end

/-- Every run of the threads with their condition variable is a run of the threads of the
receive loop, with the same flags and the same control points. So the threads are held
as long as they are wanted, unless one of them has given up. -/
theorem signals_refine_threads (config : InsConfig) (events : List SignalEvent)
    (signals : Signals)
    (runs : runEvents signalStep (freshSignals config) events = some signals) :
    ∃ actions threads,
      runEvents step { client := freshClient config } actions = some threads ∧
      signals.threads.control = threads.control ∧
      (signals.threads.user ≠ .joining → (signals.threads.receiver ≠ .absent ↔
        signals.threads.client.receiving = true ∨
          GaveUp { client := freshClient config } actions)) := by
  have start : Viewed (freshSignals config) { client := freshClient config } :=
    ⟨watched_fresh config, rfl⟩
  rcases exists_run_of_simulation viewed_signalStep start runs with
    ⟨actions, threads, run, _, same⟩
  refine ⟨actions, threads, run, same, ?_⟩
  rcases sameFlags_of_control same with ⟨flags, user, receiver, _⟩
  rw [user, receiver, flags.receiving]
  intro notJoining
  rcases run_cases (joins_fresh config) run with ⟨gaveUp, abandoned⟩ | ⟨notGaveUp, joins⟩
  · exact iff_of_true abandoned.held (.inr gaveUp)
  · rw [joins.held]
    simp [notJoining, notGaveUp]

/-- The process thread waits for data. -/
def waitingEvents : List SignalEvent :=
  [.thread .connect, .thread (.connectEnds (.returned true)), .thread .startReceiving, .processes,
    .processes, .processes, .processes, .thread .proceeds, .thread .proceeds]

theorem waitingEvents_refine_threads : ∃ signals actions threads,
    runEvents signalStep (freshSignals casterConfig) waitingEvents = some signals ∧
    signals.processor = .waiting ∧ signals.threads.receiver = .reading ∧
    runEvents step { client := freshClient casterConfig } actions = some threads ∧
    signals.threads.control = threads.control := by
  have evaluated : (runEvents signalStep (freshSignals casterConfig) waitingEvents).map
      (fun signals => (signals.processor, signals.threads.receiver)) =
      some (.waiting, .reading) := by
    decide +kernel
  rcases Option.map_eq_some_iff.mp evaluated with ⟨signals, runs, same⟩
  simp only [Prod.mk.injEq] at same
  rcases signals_refine_threads casterConfig waitingEvents signals runs with
    ⟨actions, threads, run, control, _⟩
  exact ⟨signals, actions, threads, runs, same.1, same.2, run, control⟩

end AsterxDriver.Ntrip
