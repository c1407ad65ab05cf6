import AsterxDriver.Ntrip.Pipeline
import AsterxDriver.Ntrip.ThreadHandles

/-! # Waiting for data

`ProcessThread` waits on a condition variable until the queue has data or the client
has stopped to receive. The queue changes under the mutex of the wait, and a
notification follows. The flag `receiving_` changes without the mutex. -/

namespace AsterxDriver.Ntrip

open Foundation

/-- Where `ProcessThread` is. -/
inductive ProcessControl
  /-- There is no thread that could be joined. -/
  | absent
  | testReceiving
  /-- In front of the mutex of the queue, at the lock or at the end of the wait. -/
  | locking
  /-- At the condition of the wait, with the mutex. -/
  | checking
  /-- Behind the condition, which did not hold, still with the mutex. -/
  | blocking
  | waiting
  /-- Behind the wait, with the mutex. -/
  | taking
  /-- In the loop over the chunks of a block. -/
  | delivering (chunks : List (List Byte))
  | exited
  deriving DecidableEq, Repr

def ProcessControl.Running : ProcessControl → Bool
  | .absent | .exited => false
  | _ => true

def ProcessControl.HoldsMutex : ProcessControl → Bool
  | .checking | .blocking | .taking => true
  | _ => false

/-- What a notification does. -/
def ProcessControl.notified : ProcessControl → ProcessControl
  | .waiting => .locking
  | control => control

/-- The threads, with the steps of `ProcessThread`. -/
structure Signals where
  threads : Threads
  processor : ProcessControl := .absent
  /-- `ReceiveThread` has changed the queue or the flag and will notify next. -/
  receiverNotifies : Bool := false
  /-- `StopReceiving` has cleared the flag and will notify next. -/
  userNotifies : Bool := false
  /-- The blocks that have come since `StartReceiving`. -/
  arrived : List (List Byte) := []
  /-- How many of them the full queue has dropped. -/
  dropped : ℕ := 0
  /-- What the callbacks have got. -/
  delivered : List (List Byte) := []

inductive SignalEvent
  /-- A step that receives no data and is not one of `ProcessThread`. -/
  | thread (event : Event)
  /-- `Connect` has got data behind the header of the response. -/
  | pends (data : List Byte)
  /-- `ReceiveThread` puts a block into the queue. -/
  | receives (data : List Byte)
  | receiverNotifies
  | userNotifies
  | processes
  | processThrows
  /-- A wait may return without a notification. -/
  | wakes

def Event.ByUser : Event → Bool
  | .connect | .connectEnds _ | .startReceiving | .disconnect | .stopReceiving | .join
  | .disconnectEnds => true
  | _ => false

def Event.ByReceiver : Event → Bool
  | .proceeds | .receives _ | .reconnectEnds _ | .throws => true
  | _ => false

/-- The thread of the event has to notify first. -/
def Signals.Busy (signals : Signals) (event : Event) : Bool :=
  event.ByUser && signals.userNotifies || event.ByReceiver && signals.receiverNotifies

def threadStep (signals : Signals) (event : Event) : Option Signals :=
  if signals.Busy event then none
  else
    match event with
    | .processEnds | .processThrows | .receives .data => none
    | .startReceiving =>
        (step signals.threads .startReceiving).map fun next =>
          if signals.threads.receiver = .absent ∧ next.receiver ≠ .absent then
            { signals with
              threads := next
              processor := .testReceiving
              arrived := next.client.dataQueue
              dropped := 0
              delivered := [] }
          else { signals with threads := next }
    | .stopReceiving =>
        (step signals.threads .stopReceiving).map fun next =>
          { signals with threads := next, userNotifies := next.user = .joining }
    | .join =>
        if signals.receiverNotifies then none
        else
          (step signals.threads .join).map fun next =>
            { signals with threads := next, processor := .absent }
    | .proceeds =>
        (step signals.threads .proceeds).map fun next =>
          { signals with
            threads := next
            receiverNotifies := signals.threads.receiver = .handled }
    | event => (step signals.threads event).map fun next => { signals with threads := next }

/-- Only inside of `Connect`. -/
def pendsStep (signals : Signals) (data : List Byte) : Option Signals :=
  let pended := { signals.threads.client with pendingData := data }
  match signals.threads.user, signals.threads.receiver with
  | .connecting, _ => some { signals with threads := { signals.threads with client := pended } }
  | _, .connecting _ => some { signals with threads := { signals.threads with client := pended } }
  | _, _ => none

/-- The block goes into the queue under the mutex, the notification follows without it. -/
def receivesStep (signals : Signals) (data : List Byte) : Option Signals :=
  if signals.receiverNotifies ∨ signals.processor.HoldsMutex ∨ data = [] then none
  else
    (step signals.threads (.receives .data)).map fun next =>
      { signals with
        threads := { next with client := enqueue next.client data }
        receiverNotifies := true
        arrived := signals.arrived ++ [data]
        dropped := if next.client.dataQueue.length ≥ next.client.config.maxQueueSize then
          signals.dropped + 1 else signals.dropped }

/-- `ProcessThread` returns. -/
def Signals.exit (signals : Signals) : Signals :=
  { signals with
    threads := { signals.threads with processing := false }
    processor := .exited }

/-- The next step of `ProcessThread`. Nobody else keeps the mutex over a step. -/
def processesStep (signals : Signals) : Option Signals :=
  let client := signals.threads.client
  match signals.processor with
  | .absent | .waiting | .exited => none
  | .testReceiving =>
      some (if client.receiving then { signals with processor := .locking } else signals.exit)
  | .locking => some { signals with processor := .checking }
  | .checking =>
      some { signals with
        processor := if client.dataQueue ≠ [] ∨ ¬client.receiving then .taking else .blocking }
  | .blocking => some { signals with processor := .waiting }
  | .taking =>
      if ¬client.receiving ∧ client.dataQueue = [] then some signals.exit
      else
        match client.dataQueue with
        | [] => none -- `front` of an empty queue
        | data :: later =>
            let chunked := chunkRtcmData { client with dataQueue := later } data
            some { signals with
              threads := { signals.threads with client := chunked.1 }
              processor := .delivering chunked.2 }
  | .delivering [] => some { signals with processor := .testReceiving }
  | .delivering (chunk :: later) =>
      some (if client.receiving then
          { signals with
            processor := .delivering later
            delivered := signals.delivered ++ [chunk] }
        else { signals with processor := .testReceiving })

/-- A block is recorded, cut or given to the callbacks, and the handler has cleared the
flag. -/
def processThrowsStep (signals : Signals) : Option Signals :=
  match signals.processor with
  | .delivering _ =>
      (step signals.threads .processThrows).map fun next =>
        { signals with threads := next, processor := .exited }
  | _ => none

def signalStep (signals : Signals) : SignalEvent → Option Signals
  | .thread event => threadStep signals event
  | .pends data => pendsStep signals data
  | .receives data => receivesStep signals data
  | .receiverNotifies =>
      if ¬signals.receiverNotifies then none
      else
        some { signals with
          receiverNotifies := false
          processor := signals.processor.notified }
  | .userNotifies =>
      if ¬signals.userNotifies then none
      else
        some { signals with userNotifies := false, processor := signals.processor.notified }
  | .processes => processesStep signals
  | .processThrows => processThrowsStep signals
  | .wakes =>
      if signals.processor ≠ .waiting then none
      else some { signals with processor := .locking }

/-! ## What a step can do -/

/-- What the path of the data depends on. -/
def Client.data (client : Client) : Options × List (List Byte) × List Byte × List Byte :=
  (client.config, client.dataQueue, client.pendingData, client.rtcmBuffer)

/-- A step of the threads that keeps them, the flag and the data. -/
structure Quiet (threads next : Threads) : Prop where
  processing : next.processing = threads.processing
  held : next.receiver = .absent ↔ threads.receiver = .absent
  receiving : next.client.receiving = threads.client.receiving
  data : next.client.data = threads.client.data

theorem Quiet.queue {threads next : Threads} (quiet : Quiet threads next) :
    next.client.dataQueue = threads.client.dataQueue :=
  congrArg (·.2.1) quiet.data

inductive ThreadSteps (signals : Signals) : Event → Signals → Prop
  | quiet {event : Event} (next : Threads) (quiet : Quiet signals.threads next)
      (keeps : event = .proceeds →
        signals.threads.receiver.Clears signals.threads.client.config = false) :
      ThreadSteps signals event { signals with threads := next }
  | launches (idle : signals.threads.receiver = .absent) :
      ThreadSteps signals .startReceiving
        { signals with
          threads := { signals.threads with
            client := startedReceiving signals.threads.client
            receiver := .testReceiving
            processing := true }
          processor := .testReceiving
          arrived := (startedReceiving signals.threads.client).dataQueue
          dropped := 0
          delivered := [] }
  | stops (receiving : signals.threads.client.receiving = true) :
      ThreadSteps signals .stopReceiving
        { signals with
          threads := { signals.threads with
            user := .joining
            client := { signals.threads.client with receiving := false } }
          userNotifies := true }
  | joins (ended : signals.threads.processing = false)
      (announced : signals.receiverNotifies = false ∧ signals.userNotifies = false) :
      ThreadSteps signals .join
        { signals with
          threads := { signals.threads with user := .disconnecting, receiver := .absent }
          processor := .absent }
  | givesUp (givingUp : signals.threads.receiver = .givingUp)
      (ignored : signals.threads.client.config.enableRtk = false)
      (announced : signals.receiverNotifies = false) :
      ThreadSteps signals .proceeds
        { signals with
          threads := { signals.threads with
            client := { signals.threads.client with receiving := false }
            receiver := .exited } }
  | handles (handled : signals.threads.receiver = .handled)
      (announced : signals.receiverNotifies = false) :
      ThreadSteps signals .proceeds
        { signals with
          threads := { signals.threads with
            client := { signals.threads.client with receiving := false }
            receiver := .exited }
          receiverNotifies := true }

theorem proceed_data {client after : Client} {control next : ReceiveControl}
    (proceeds : proceed client control = some (after, next)) :
    after.data = client.data := by
  cases control with
  | absent | reading | connecting attempts | exited => cases proceeds
  | reconnecting attempts | givingUp =>
      simp only [proceed] at proceeds
      split at proceeds
      · cases proceeds
        rfl
      · cases proceeds
        rfl
  | _ =>
      cases proceeds
      rfl

section

variable {signals final : Signals}

theorem threadSteps_startReceiving
    (steps : threadStep signals .startReceiving = some final) :
    ThreadSteps signals .startReceiving final := by
  simp only [threadStep] at steps
  split at steps
  · cases steps
  rcases Option.map_eq_some_iff.mp steps with ⟨next, starts, rfl⟩
  simp only [step, userStep, processStep, receiveStep, Option.or_none] at starts
  split at starts
  · cases starts
  unfold startReceiving at starts
  have unlaunched : next = signals.threads → ThreadSteps signals .startReceiving
      (if signals.threads.receiver = .absent ∧ next.receiver ≠ .absent then
        { signals with
          threads := next
          processor := .testReceiving
          arrived := next.client.dataQueue
          dropped := 0
          delivered := [] }
      else { signals with threads := next }) := by
    rintro rfl
    rw [if_neg (fun both => both.2 both.1)]
    exact .quiet _ ⟨rfl, Iff.rfl, rfl, rfl⟩ (by simp)
  split at starts
  · exact unlaunched (Option.some.inj starts).symm
  split at starts
  · exact unlaunched (Option.some.inj starts).symm
  split at starts
  · cases starts
  · rename_i idle
    rw [not_not] at idle
    cases starts
    rw [if_pos ⟨idle, by simp⟩]
    exact .launches idle

theorem threadSteps_stopReceiving (steps : threadStep signals .stopReceiving = some final) :
    ThreadSteps signals .stopReceiving final := by
  simp only [threadStep] at steps
  split at steps
  · cases steps
  rename_i free
  rcases Option.map_eq_some_iff.mp steps with ⟨next, stops, rfl⟩
  have announced : signals.userNotifies = false := by
    simpa [Signals.Busy, Event.ByUser, Event.ByReceiver] using free
  simp only [step, userStep, processStep, receiveStep, Option.or_none] at stops
  split at stops
  · cases stops
  split at stops
  · cases stops
    have kept := @ThreadSteps.quiet signals .stopReceiving
      { signals.threads with user := .disconnecting } ⟨rfl, Iff.rfl, rfl, rfl⟩ (by simp)
    rw [announced] at kept
    exact kept
  · rename_i receiving
    cases stops
    exact .stops (not_not.mp receiving)

theorem threadSteps_join (steps : threadStep signals .join = some final) :
    ThreadSteps signals .join final := by
  simp only [threadStep] at steps
  split at steps
  · cases steps
  rename_i free
  split at steps
  · cases steps
  rename_i silent
  rcases Option.map_eq_some_iff.mp steps with ⟨next, joins, rfl⟩
  have announced : signals.userNotifies = false := by
    simpa [Signals.Busy, Event.ByUser, Event.ByReceiver] using free
  simp only [step, userStep, processStep, receiveStep, Option.or_none] at joins
  split at joins
  · cases joins
  rename_i ready
  split at joins
  · cases joins
    refine .joins ?_ ⟨by simpa using silent, announced⟩
    by_contra processing
    exact ready (.inr (by simpa using processing))
  · cases joins

theorem threadSteps_proceeds (steps : threadStep signals .proceeds = some final) :
    ThreadSteps signals .proceeds final := by
  simp only [threadStep] at steps
  split at steps
  · cases steps
  rename_i free
  rcases Option.map_eq_some_iff.mp steps with ⟨next, goes, rfl⟩
  have announced : signals.receiverNotifies = false := by
    simpa [Signals.Busy, Event.ByUser, Event.ByReceiver] using free
  simp only [step, userStep, processStep, receiveStep, Option.none_or] at goes
  rcases Option.map_eq_some_iff.mp goes with ⟨⟨after, control⟩, proceeds, rfl⟩
  by_cases handled : signals.threads.receiver = .handled
  · rw [handled] at proceeds
    cases proceeds
    rw [decide_eq_true handled]
    exact .handles handled announced
  rw [decide_eq_false handled, ← announced]
  by_cases givesUp : signals.threads.receiver = .givingUp ∧
      signals.threads.client.config.enableRtk = false
  · rcases givesUp with ⟨givingUp, ignored⟩
    rw [givingUp, proceed, if_neg (by simp [ignored])] at proceeds
    cases proceeds
    exact .givesUp givingUp ignored announced
  have keeps : signals.threads.receiver.Clears signals.threads.client.config = false := by
    cases control' : signals.threads.receiver with
    | handled => exact absurd control' handled
    | givingUp =>
        rw [control'] at givesUp
        simpa [ReceiveControl.Clears] using givesUp
    | _ => rfl
  rcases proceed_receiving proceeds with ⟨here, there, receiving, _⟩
  rw [keeps, Bool.not_false, Bool.and_true] at receiving
  exact .quiet _ ⟨rfl, iff_of_false there here, receiving, proceed_data proceeds⟩ fun _ => keeps

/-- The other steps of the user. -/
theorem quiet_userStep {threads next : Threads} {event : Event}
    (steps : userStep threads event = some next)
    (other : event ≠ .startReceiving ∧ event ≠ .stopReceiving ∧ event ≠ .join) :
    Quiet threads next := by
  cases event with
  | connect | disconnect =>
      simp only [userStep] at steps
      split at steps
      · cases steps
      split at steps
      · cases steps
        exact ⟨rfl, Iff.rfl, rfl, rfl⟩
      · cases steps
        exact ⟨rfl, Iff.rfl, rfl, rfl⟩
  | connectEnds result =>
      simp only [userStep] at steps
      split at steps
      · cases steps
      · cases steps
        rcases result with (_ | _) | _
        all_goals exact ⟨rfl, Iff.rfl, rfl, rfl⟩
  | disconnectEnds =>
      simp only [userStep] at steps
      split at steps
      · cases steps
      · cases steps
        exact ⟨rfl, Iff.rfl, rfl, rfl⟩
  | startReceiving => exact absurd rfl other.1
  | stopReceiving => exact absurd rfl other.2.1
  | join => exact absurd rfl other.2.2
  | _ => cases steps

/-- The other steps of the receive thread. -/
theorem quiet_receiveStep {threads next : Threads} {event : Event}
    (steps : receiveStep threads event = some next) (other : event ≠ .proceeds) :
    Quiet threads next := by
  have held := (launched_receiveStep steps).held
  have receiving := (launched_receiveStep steps).kept (by
    rintro ⟨_, ⟨rfl, _⟩ | ⟨proceeds, _⟩⟩
    · cases steps
    · exact other proceeds)
  cases event with
  | proceeds => exact absurd rfl other
  | receives outcome =>
      simp only [receiveStep] at steps
      split at steps
      · cases steps
      · cases steps
        cases outcome
        all_goals exact ⟨rfl, held, receiving, rfl⟩
  | reconnectEnds result =>
      simp only [receiveStep] at steps
      split at steps
      · cases steps
        cases result
        all_goals exact ⟨rfl, held, receiving, rfl⟩
      · cases steps
  | throws =>
      simp only [receiveStep] at steps
      split at steps
      · cases steps
      · cases steps
        exact ⟨rfl, held, receiving, rfl⟩
  | _ => cases steps

theorem threadSteps_of_threadStep {event : Event} (steps : threadStep signals event = some final) :
    ThreadSteps signals event final := by
  cases event with
  | startReceiving => exact threadSteps_startReceiving steps
  | stopReceiving => exact threadSteps_stopReceiving steps
  | join => exact threadSteps_join steps
  | proceeds => exact threadSteps_proceeds steps
  | connect | connectEnds _ | disconnect | disconnectEnds =>
      simp only [threadStep] at steps
      split at steps
      · cases steps
      rcases Option.map_eq_some_iff.mp steps with ⟨next, goes, rfl⟩
      simp only [step, processStep, receiveStep, Option.or_none] at goes
      exact .quiet next (quiet_userStep goes (by simp)) (by simp)
  | processThrows | processEnds =>
      simp only [threadStep] at steps
      split at steps <;> cases steps
  | receives outcome =>
      cases outcome with
      | data =>
          simp only [threadStep] at steps
          split at steps <;> cases steps
      | again | closed | error =>
          simp only [threadStep] at steps
          split at steps
          · cases steps
          rcases Option.map_eq_some_iff.mp steps with ⟨next, goes, rfl⟩
          simp only [step, userStep, processStep, Option.none_or] at goes
          exact .quiet next (quiet_receiveStep goes (by simp)) (by simp)
  | reconnectEnds _ | throws =>
      simp only [threadStep] at steps
      split at steps
      · cases steps
      rcases Option.map_eq_some_iff.mp steps with ⟨next, goes, rfl⟩
      simp only [step, userStep, processStep, Option.none_or] at goes
      exact .quiet next (quiet_receiveStep goes (by simp)) (by simp)

end

/-- The steps of `ProcessThread`, each where it is taken. -/
inductive ProcessSteps (signals : Signals) : Signals → Prop
  | goesOn (here : signals.processor = .testReceiving)
      (receiving : signals.threads.client.receiving = true) :
      ProcessSteps signals { signals with processor := .locking }
  | ends (here : signals.processor = .testReceiving)
      (stopped : signals.threads.client.receiving = false) : ProcessSteps signals signals.exit
  | locks (here : signals.processor = .locking) :
      ProcessSteps signals { signals with processor := .checking }
  | finds (here : signals.processor = .checking)
      (found : signals.threads.client.dataQueue ≠ [] ∨
        signals.threads.client.receiving = false) :
      ProcessSteps signals { signals with processor := .taking }
  | blocks (here : signals.processor = .checking)
      (empty : signals.threads.client.dataQueue = [])
      (receiving : signals.threads.client.receiving = true) :
      ProcessSteps signals { signals with processor := .blocking }
  | waits (here : signals.processor = .blocking) :
      ProcessSteps signals { signals with processor := .waiting }
  | leaves (here : signals.processor = .taking)
      (empty : signals.threads.client.dataQueue = [])
      (stopped : signals.threads.client.receiving = false) : ProcessSteps signals signals.exit
  | takes (here : signals.processor = .taking) (data : List Byte) (later : List (List Byte))
      (queue : signals.threads.client.dataQueue = data :: later) :
      ProcessSteps signals
        { signals with
          threads := { signals.threads with
            client := (chunkRtcmData
              { signals.threads.client with dataQueue := later } data).1 }
          processor := .delivering (chunkRtcmData
            { signals.threads.client with dataQueue := later } data).2 }
  | delivers (chunk : List Byte) (later : List (List Byte))
      (here : signals.processor = .delivering (chunk :: later))
      (receiving : signals.threads.client.receiving = true) :
      ProcessSteps signals
        { signals with
          processor := .delivering later
          delivered := signals.delivered ++ [chunk] }
  | returns (chunks : List (List Byte)) (here : signals.processor = .delivering chunks)
      (finished : chunks = [] ∨ signals.threads.client.receiving = false) :
      ProcessSteps signals { signals with processor := .testReceiving }

theorem processSteps_of_processesStep {signals final : Signals}
    (steps : processesStep signals = some final) : ProcessSteps signals final := by
  unfold processesStep at steps
  split at steps
  · cases steps
  · cases steps
  · cases steps
  · rename_i here
    cases steps
    split
    · rename_i receiving
      exact .goesOn here receiving
    · rename_i stopped
      exact .ends here (by simpa using stopped)
  · rename_i here
    cases steps
    exact .locks here
  · rename_i here
    cases steps
    split
    · rename_i found
      exact .finds here (by simpa using found)
    · rename_i nothing
      simp only [not_or, not_not] at nothing
      exact .blocks here nothing.1 nothing.2
  · rename_i here
    cases steps
    exact .waits here
  · rename_i here
    dsimp only at steps
    split at steps
    · rename_i leaves
      cases steps
      exact .leaves here leaves.2 (by simpa using leaves.1)
    · split at steps
      · cases steps
      · rename_i data later queue
        cases steps
        exact .takes here data later queue
  · rename_i here
    cases steps
    exact .returns [] here (.inl rfl)
  · rename_i chunk later here
    cases steps
    split
    · rename_i receiving
      exact .delivers chunk later here receiving
    · rename_i stopped
      exact .returns (chunk :: later) here (.inr (by simpa using stopped))

/-! ## No data is left behind -/

/-- Where `ProcessThread` is fits to the queue, the flag and the due notifications. -/
structure Watched (signals : Signals) : Prop where
  launched : signals.threads.receiver = .absent → signals.processor = .absent
  processing : signals.threads.processing = signals.processor.Running
  taking : signals.processor = .taking →
    signals.threads.client.dataQueue ≠ [] ∨ signals.threads.client.receiving = false
  blocking : signals.processor = .blocking → signals.threads.client.dataQueue = []
  waiting : signals.processor = .waiting → signals.threads.client.dataQueue ≠ [] →
    signals.receiverNotifies = true

section

variable {signals final : Signals}

/-- The wait and what stands around it do not change. -/
theorem Watched.of_elsewhere
    (launched : final.threads.receiver = .absent → final.processor = .absent)
    (processing : final.threads.processing = final.processor.Running)
    (elsewhere : final.processor ≠ .taking ∧ final.processor ≠ .blocking ∧
      final.processor ≠ .waiting) : Watched final where
  launched := launched
  processing := processing
  taking here := absurd here elsewhere.1
  blocking here := absurd here elsewhere.2.1
  waiting here := absurd here elsewhere.2.2

theorem Watched.not_running (watched : Watched signals)
    (ended : signals.threads.processing = false) : signals.processor.Running = false :=
  watched.processing.symm.trans ended

theorem watched_threadSteps {event : Event} (watched : Watched signals)
    (steps : ThreadSteps signals event final) : Watched final := by
  cases steps with
  | quiet next quiet =>
      refine ⟨?_, ?_, ?_, ?_, ?_⟩
      · exact fun absent => watched.launched (quiet.held.mp absent)
      · exact quiet.processing.trans watched.processing
      · rw [quiet.queue, quiet.receiving]
        exact watched.taking
      · rw [quiet.queue]
        exact watched.blocking
      · rw [quiet.queue]
        exact watched.waiting
  | launches idle => exact .of_elsewhere (by simp) rfl (by simp)
  | stops receiving =>
      exact ⟨watched.launched, watched.processing, fun _ => .inr rfl, watched.blocking,
        watched.waiting⟩
  | joins ended announced => exact .of_elsewhere (fun _ => rfl) ended (by simp)
  | givesUp givingUp ignored announced =>
      exact ⟨by simp, watched.processing, fun _ => .inr rfl, watched.blocking, watched.waiting⟩
  | handles handled announced =>
      exact ⟨by simp, watched.processing, fun _ => .inr rfl, watched.blocking, fun _ _ => rfl⟩

theorem watched_pendsStep {data : List Byte} (watched : Watched signals)
    (steps : pendsStep signals data = some final) : Watched final := by
  unfold pendsStep at steps
  split at steps
  · cases steps
    exact ⟨watched.launched, watched.processing, watched.taking, watched.blocking,
      watched.waiting⟩
  · cases steps
    exact ⟨watched.launched, watched.processing, watched.taking, watched.blocking,
      watched.waiting⟩
  · cases steps

/-- A block that goes into the queue. -/
theorem receivesStep_cases {data : List Byte} (steps : receivesStep signals data = some final) :
    signals.receiverNotifies = false ∧ signals.processor.HoldsMutex = false ∧ data ≠ [] ∧
      signals.threads.receiver = .reading ∧
      final = { signals with
        threads := { signals.threads with
          client := enqueue signals.threads.client data
          receiver := .testReceiving }
        receiverNotifies := true
        arrived := signals.arrived ++ [data]
        dropped := if signals.threads.client.dataQueue.length ≥
            signals.threads.client.config.maxQueueSize then
          signals.dropped + 1 else signals.dropped } := by
  unfold receivesStep at steps
  split at steps
  · cases steps
  rename_i free
  simp only [not_or, Bool.not_eq_true] at free
  rcases Option.map_eq_some_iff.mp steps with ⟨next, receives, rfl⟩
  simp only [step, userStep, processStep, receiveStep, Option.none_or] at receives
  split at receives
  · cases receives
  · rename_i reading
    cases receives
    exact ⟨free.1, free.2.1, free.2.2, not_not.mp reading, rfl⟩

theorem watched_receivesStep {data : List Byte} (watched : Watched signals)
    (steps : receivesStep signals data = some final) : Watched final := by
  rcases receivesStep_cases steps with ⟨_, unlocked, _, reading, rfl⟩
  refine ⟨by simp, watched.processing, ?_, ?_, fun _ _ => rfl⟩
  · intro taking
    rw [show signals.processor = .taking from taking] at unlocked
    cases unlocked
  · intro blocking
    rw [show signals.processor = .blocking from blocking] at unlocked
    cases unlocked

/-- After a notification the thread does not wait. -/
theorem watched_notified (watched : Watched signals) (receiverNotifies userNotifies : Bool) :
    Watched { signals with
      receiverNotifies := receiverNotifies
      userNotifies := userNotifies
      processor := signals.processor.notified } := by
  by_cases waiting : signals.processor = .waiting
  · refine .of_elsewhere ?_ ?_ ?_
    · intro absent
      have impossible := watched.launched absent
      rw [waiting] at impossible
      cases impossible
    · rw [watched.processing, waiting]
      rfl
    · rw [waiting]
      simp [ProcessControl.notified]
  · have same : signals.processor.notified = signals.processor := by
      cases control : signals.processor with
      | waiting => exact absurd control waiting
      | _ => rfl
    rw [same]
    exact ⟨watched.launched, watched.processing, watched.taking, watched.blocking,
      fun here => absurd here waiting⟩

theorem watched_processSteps (watched : Watched signals) (steps : ProcessSteps signals final) :
    Watched final := by
  have launched : signals.processor ≠ .absent →
      ∀ {control : ProcessControl}, signals.threads.receiver = .absent → control = .absent :=
    fun present _ absent => absurd (watched.launched absent) present
  have running : signals.processor.Running = true → signals.threads.processing = true :=
    watched.processing.trans
  cases steps with
  | goesOn here _ | locks here | delivers _ _ here _ | returns _ here _ =>
      rw [here] at launched running
      exact .of_elsewhere (launched (by simp)) (running rfl) (by simp)
  | ends here _ | leaves here _ _ =>
      rw [here] at launched
      exact .of_elsewhere (launched (by simp)) rfl (by simp [Signals.exit])
  | takes here _ _ _ =>
      rw [here] at launched running
      exact .of_elsewhere (launched (by simp)) (running rfl) (by simp)
  | finds here found =>
      rw [here] at launched running
      exact ⟨launched (by simp), running rfl, fun _ => found, by simp, by simp⟩
  | blocks here empty _ =>
      rw [here] at launched running
      exact ⟨launched (by simp), running rfl, by simp, fun _ => empty, by simp⟩
  | waits here =>
      rw [here] at launched running
      exact ⟨launched (by simp), running rfl, by simp, by simp,
        fun _ nonempty => absurd (watched.blocking here) nonempty⟩

theorem processThrowsStep_cases (steps : processThrowsStep signals = some final) :
    (∃ chunks, signals.processor = .delivering chunks) ∧
      final = { signals with
        threads := { signals.threads with
          client := { signals.threads.client with receiving := false }
          processing := false }
        processor := .exited } := by
  unfold processThrowsStep at steps
  split at steps
  · rename_i chunks here
    rcases Option.map_eq_some_iff.mp steps with ⟨next, throws, rfl⟩
    simp only [step, userStep, processStep, receiveStep, Option.none_or, Option.or_none] at throws
    split at throws
    · cases throws
    · cases throws
      exact ⟨⟨chunks, here⟩, rfl⟩
  · cases steps

theorem watched_signalStep {event : SignalEvent} (watched : Watched signals)
    (steps : signalStep signals event = some final) : Watched final := by
  cases event with
  | thread event => exact watched_threadSteps watched (threadSteps_of_threadStep steps)
  | pends data => exact watched_pendsStep watched steps
  | receives data => exact watched_receivesStep watched steps
  | receiverNotifies =>
      simp only [signalStep] at steps
      split at steps
      · cases steps
      · cases steps
        exact watched_notified watched false signals.userNotifies
  | userNotifies =>
      simp only [signalStep] at steps
      split at steps
      · cases steps
      · cases steps
        exact watched_notified watched signals.receiverNotifies false
  | processes => exact watched_processSteps watched (processSteps_of_processesStep steps)
  | processThrows =>
      rcases processThrowsStep_cases steps with ⟨⟨chunks, here⟩, rfl⟩
      refine .of_elsewhere ?_ rfl (by simp)
      intro absent
      have impossible := watched.launched absent
      rw [here] at impossible
      cases impossible
  | wakes =>
      simp only [signalStep] at steps
      split at steps
      · cases steps
      · rename_i waiting
        cases steps
        have woken := watched_notified watched signals.receiverNotifies signals.userNotifies
        rw [not_not.mp waiting] at woken
        exact woken

/-- The thread never takes from an empty queue, and nothing else can stop it either. -/
theorem Watched.processes (watched : Watched signals) (running : signals.processor.Running = true)
    (awake : signals.processor ≠ .waiting) : ∃ next, signalStep signals .processes = some next := by
  change ∃ next, processesStep signals = some next
  unfold processesStep
  cases here : signals.processor with
  | absent | exited =>
      rw [here] at running
      cases running
  | waiting => exact absurd here awake
  | taking =>
      dsimp only
      split
      · exact ⟨_, rfl⟩
      · rename_i stays
        cases queue : signals.threads.client.dataQueue with
        | nil =>
            rcases watched.taking here with nonempty | stopped
            · exact absurd queue nonempty
            · exact absurd ⟨by simpa using stopped, queue⟩ stays
        | cons data later => exact ⟨_, rfl⟩
  | delivering chunks =>
      cases chunks with
      | nil => exact ⟨_, rfl⟩
      | cons chunk later => exact ⟨_, rfl⟩
  | _ => exact ⟨_, rfl⟩

end

def freshSignals (config : InsConfig) : Signals where
  threads := { client := freshClient config }

theorem watched_fresh (config : InsConfig) : Watched (freshSignals config) :=
  .of_elsewhere (fun _ => rfl) rfl (by simp [freshSignals])

theorem watched_run {config : InsConfig} {events : List SignalEvent} {signals : Signals}
    (runs : runEvents signalStep (freshSignals config) events = some signals) :
    Watched signals := by
  have reached : Reached signalStep (fun _ _ => True) (freshSignals config) signals :=
    Reached.start.of_runEvents (fun _ _ _ => trivial) runs
  exact reached.invariant (watched_fresh config) fun watched _ steps =>
    watched_signalStep watched steps

end AsterxDriver.Ntrip
