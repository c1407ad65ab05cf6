import AsterxDriver.Foundation.Transitions
import AsterxDriver.Ntrip.ConnectCleanup

/-! # Threads of the client

The thread of the user, which calls `Connect`, `StartReceiving` and `Disconnect`,
and the two threads that `StartReceiving` launches. Between any two steps of one
thread the others may take any steps. What happens to the received data is left
to the pipeline. -/

namespace AsterxDriver.Ntrip

open Foundation Attempt

/-- The fields that `LoadConfig` reads. -/
structure InsConfig where
  enableRtk : Bool
  host : Text
  port : ℤ
  mountPoint : Text
  username : Text
  password : Text

def loadConfig (config : InsConfig) : Options where
  enableRtk := config.enableRtk
  host := config.host
  port := config.port
  mountPoint := config.mountPoint
  username := config.username
  password := config.password

/-- Where the user's thread is. -/
inductive UserControl
  | outside
  /-- In `Connect`, which has found no connection. -/
  | connecting
  /-- In `Disconnect`, in front of `StopReceiving`. -/
  | stopping
  /-- In `StopReceiving`, at the joins. -/
  | joining
  /-- In `Disconnect`, behind `StopReceiving`. -/
  | disconnecting
  deriving DecidableEq, Repr

/-- Where `ReceiveThread` is. -/
inductive ReceiveControl
  /-- There is no thread that could be joined. -/
  | absent
  | testReceiving
  | testConnected
  | reading
  /-- Behind a lost connection. -/
  | lost
  /-- At the condition of the loop in `HandleReconnect`. -/
  | reconnecting (attempts : ℤ)
  | sleeping (attempts : ℤ)
  | closing (attempts : ℤ)
  /-- At the call of `Connect`. -/
  | calling (attempts : ℤ)
  /-- In `Connect`, which has found no connection. -/
  | connecting (attempts : ℤ)
  /-- Behind the loop in `HandleReconnect`. -/
  | givingUp
  /-- In the exception handler, at each of its stores. -/
  | handling
  | handled
  | exited
  deriving DecidableEq, Repr

/-- The control points inside of the `try` block. -/
def ReceiveControl.InTry : ReceiveControl → Bool
  | .absent | .handling | .handled | .exited => false
  | _ => true

structure Threads where
  client : Client
  user : UserControl := .outside
  receiver : ReceiveControl := .absent
  /-- `ProcessThread` runs. -/
  processing : Bool := false

inductive CallResult
  | returned (result : Bool)
  | thrown

inductive Received
  | data
  /-- An error that says to try again. -/
  | again
  | closed
  | error

inductive Event
  | connect
  | connectEnds (result : CallResult)
  | startReceiving
  | disconnect
  | stopReceiving
  | join
  | disconnectEnds
  | processThrows
  | processEnds
  /-- The receive thread goes on, where nothing from outside decides how. -/
  | proceeds
  | receives (received : Received)
  | reconnectEnds (result : Bool)
  | throws

/-! ## The user's thread -/

/-- What the end of `Connect` does with the flags and the statistics. -/
def connectEnded (client : Client) : CallResult → Client
  | .returned true =>
      { client with
        connected := true
        disconnected := false
        stats := resetStatistics client.stats }
  | .returned false => closed client
  | .thrown => client

/-- `StartReceiving` with the thread handles. A handle that can still be joined
is overwritten, which ends the process. -/
def startReceiving (threads : Threads) : Option Threads :=
  if ¬threads.client.connected then some threads
  else if threads.client.receiving then some threads
  else if threads.receiver ≠ .absent then none
  else
    some { threads with
      client := startedReceiving threads.client
      receiver := .testReceiving
      processing := true }

def userStep (threads : Threads) : Event → Option Threads
  | .connect =>
      if threads.user ≠ .outside then none
      else if threads.client.connected then some threads
      else some { threads with user := .connecting }
  | .connectEnds result =>
      if threads.user ≠ .connecting then none
      else some { threads with user := .outside, client := connectEnded threads.client result }
  | .startReceiving => if threads.user ≠ .outside then none else startReceiving threads
  | .disconnect =>
      if threads.user ≠ .outside then none
      else if threads.client.disconnected then some threads
      else
        some { threads with
          user := .stopping
          client := { threads.client with disconnected := true } }
  | .stopReceiving =>
      if threads.user ≠ .stopping then none
      else if ¬threads.client.receiving then some { threads with user := .disconnecting }
      else
        some { threads with
          user := .joining
          client := { threads.client with receiving := false } }
  | .join =>
      if threads.user ≠ .joining ∨ threads.processing then none
      else if threads.receiver = .exited ∨ threads.receiver = .absent then
        some { threads with user := .disconnecting, receiver := .absent }
      else none
  | .disconnectEnds =>
      if threads.user ≠ .disconnecting then none
      else some { threads with user := .outside, client := closed threads.client }
  | _ => none

/-! ## The launched threads -/

/-- `ProcessThread` changes a flag only in its exception handler. -/
def processStep (threads : Threads) : Event → Option Threads
  | .processThrows =>
      if ¬threads.processing then none
      else
        some { threads with
          client := { threads.client with receiving := false }
          processing := false }
  | .processEnds =>
      if ¬threads.processing ∨ threads.client.receiving then none
      else some { threads with processing := false }
  | _ => none

/-- One step of `ReceiveThread` that nothing from outside decides. -/
def proceed (client : Client) : ReceiveControl → Option (Client × ReceiveControl)
  | .testReceiving => some (client, if client.receiving then .testConnected else .exited)
  | .testConnected => some (client, if client.connected then .reading else .exited)
  | .lost =>
      some (client, if client.config.autoReconnect ∧ client.receiving then .reconnecting 0
        else .exited)
  | .reconnecting attempts =>
      if client.config.autoReconnect ∧ client.receiving ∧
          attempts < client.config.maxReconnectAttempts then
        let stats := { client.stats with reconnectCount := client.stats.reconnectCount + 1 }
        some ({ client with stats := stats }, .sleeping (attempts + 1))
      else some (client, .givingUp)
  | .sleeping attempts =>
      some (client, if client.receiving then .closing attempts else .givingUp)
  | .closing attempts => some (closed client, .calling attempts)
  | .calling attempts =>
      some (client, if client.connected then .exited else .connecting attempts)
  | .givingUp =>
      if client.config.enableRtk then some (client, .handling)
      else some ({ client with receiving := false }, .exited)
  | .handling => some ({ client with connected := false }, .handled)
  | .handled => some ({ client with receiving := false }, .exited)
  | _ => none

def received (client : Client) : Received → Client × ReceiveControl
  | .data => (client, .testReceiving)
  | .again => (client, .testReceiving)
  | .closed => ({ client with connected := false }, .lost)
  | .error =>
      ({ client with connected := false },
        if client.config.enableRtk then .handling else .lost)

/-- The end of `Connect` in `HandleReconnect`. Success returns to the `break` of
the receive loop. -/
def reconnectEnded (client : Client) (attempts : ℤ) (result : Bool) :
    Client × ReceiveControl :=
  (connectEnded client (.returned result), if result then .exited else .reconnecting attempts)

def Threads.withReceiver (threads : Threads) (pair : Client × ReceiveControl) : Threads :=
  { threads with client := pair.1, receiver := pair.2 }

def receiveStep (threads : Threads) : Event → Option Threads
  | .proceeds => (proceed threads.client threads.receiver).map threads.withReceiver
  | .receives outcome =>
      if threads.receiver ≠ .reading then none
      else some (threads.withReceiver (received threads.client outcome))
  | .reconnectEnds result =>
      match threads.receiver with
      | .connecting attempts =>
          some (threads.withReceiver (reconnectEnded threads.client attempts result))
      | _ => none
  | .throws =>
      if ¬threads.receiver.InTry then none
      else some { threads with receiver := .handling }
  | _ => none

def step (threads : Threads) (event : Event) : Option Threads :=
  (userStep threads event).or ((processStep threads event).or (receiveStep threads event))

/-! ## What `Connect` does with the flags -/

def CallResult.of : Except NtripError Bool → CallResult
  | .ok result => .returned result
  | .error _ => .thrown

/-- A call of `Connect` that finds no connection ends as the steps of the threads
say it does. -/
theorem flags_connect {fdGuard : ℕ → Option ℕ} {base64Encode : Text → Text}
    {script : ConnectScript} {client final : Client} {outcome : Except NtripError Bool}
    (unconnected : client.connected = false)
    (ends : Ends (connect fdGuard base64Encode script) client outcome final) :
    final.flags = (connectEnded client (.of outcome)).flags := by
  rcases concludes_connect unconnected ends with ⟨⟨fault, rfl⟩, untouched⟩ |
    ⟨rfl, middle, untouched, rfl⟩ | ⟨rfl, middle, untouched, rfl⟩
  · exact untouched.flags
  · have same := untouched.flags
    simp only [Client.flags, Prod.mk.injEq] at same
    simp only [Client.flags, CallResult.of, connectEnded, closed, same]
  · have same := untouched.flags
    simp only [Client.flags, Prod.mk.injEq] at same
    simp only [Client.flags, CallResult.of, connectEnded, same]

/-! ## Who reads the socket -/

/-- If both flags are set and the threads are launched, the receive thread has
not exited. -/
def Threads.Receives (threads : Threads) : Prop :=
  threads.client.receiving = true → threads.client.connected = true →
    threads.receiver ≠ .absent → threads.receiver ≠ .exited

/-- `Connect` returns true to `HandleReconnect` while the client is receiving. -/
def Reconnects (threads : Threads) (event : Event) : Prop :=
  threads.client.receiving = true ∧
    ((∃ attempts, threads.receiver = .calling attempts) ∧ threads.client.connected = true ∧
        event = .proceeds ∨
      event = .reconnectEnds true)

/-- The control points at which a connection is read. -/
def ReceiveControl.InLoop : ReceiveControl → Bool
  | .testReceiving | .testConnected | .reading => true
  | _ => false

structure Consistent (threads : Threads) : Prop where
  reconnects : threads.client.config.autoReconnect = true
  exited : threads.receiver = .exited → threads.client.receiving = false
  looping : threads.receiver.InLoop = true → threads.client.receiving = true →
    threads.client.connected = true
  connecting : threads.user = .connecting → threads.receiver.InLoop = true →
    threads.client.receiving = false
  stopped : threads.user = .joining ∨ threads.user = .disconnecting →
    threads.client.receiving = false

section

variable {threads final : Threads} {event : Event}

theorem Consistent.receives (consistent : Consistent threads) : threads.Receives := by
  intro receiving _ _ exited
  rw [consistent.exited exited] at receiving
  cases receiving

/-- Once the client does not receive, only the control points matter. -/
theorem Consistent.of_not_receiving (reconnects : threads.client.config.autoReconnect = true)
    (stopped : threads.client.receiving = false) : Consistent threads where
  reconnects := reconnects
  exited _ := stopped
  looping _ receiving := by
    rw [stopped] at receiving
    cases receiving
  connecting _ _ := stopped
  stopped _ := stopped

theorem consistent_connectEnded (consistent : Consistent threads)
    (connecting : threads.user = .connecting) (result : CallResult) :
    Consistent
      { threads with user := .outside, client := connectEnded threads.client result } := by
  have looping : threads.receiver.InLoop = true → threads.client.receiving = true → False := by
    intro inLoop receiving
    rw [consistent.connecting connecting inLoop] at receiving
    cases receiving
  cases result with
  | thrown =>
      exact ⟨consistent.reconnects, consistent.exited, consistent.looping, nofun, nofun⟩
  | returned succeeded =>
      cases succeeded with
      | true => exact ⟨consistent.reconnects, consistent.exited, fun _ _ => rfl, nofun, nofun⟩
      | false =>
          refine ⟨consistent.reconnects, consistent.exited, ?_, nofun, nofun⟩
          intro inLoop receiving
          exact (looping inLoop receiving).elim

theorem consistent_startReceiving (consistent : Consistent threads)
    (outside : threads.user = .outside) (steps : startReceiving threads = some final) :
    Consistent final := by
  unfold startReceiving at steps
  split_ifs at steps with connected receiving handle
  · cases steps
    exact consistent
  · cases steps
    refine ⟨consistent.reconnects, nofun, fun _ _ => connected, ?_, ?_⟩
    · simp only [outside]
      exact nofun
    · simp only [outside]
      exact nofun
  · cases steps
    exact consistent

theorem consistent_userStep (consistent : Consistent threads)
    (steps : userStep threads event = some final) : Consistent final := by
  cases event with
  | connect =>
      simp only [userStep] at steps
      split_ifs at steps with away connected
      · cases steps
        exact consistent
      · cases steps
        refine ⟨consistent.reconnects, consistent.exited, consistent.looping, ?_, nofun⟩
        intro _ inLoop
        cases receiving : threads.client.receiving with
        | false => rfl
        | true => exact absurd (consistent.looping inLoop receiving) connected
  | connectEnds result =>
      simp only [userStep] at steps
      split_ifs at steps with away
      cases steps
      exact consistent_connectEnded consistent (not_not.mp away) result
  | startReceiving =>
      simp only [userStep] at steps
      split_ifs at steps with away
      exact consistent_startReceiving consistent (not_not.mp away) steps
  | disconnect =>
      simp only [userStep] at steps
      split_ifs at steps with away disconnected
      · cases steps
        exact consistent
      · cases steps
        exact ⟨consistent.reconnects, consistent.exited, consistent.looping, nofun, nofun⟩
  | stopReceiving =>
      simp only [userStep] at steps
      split_ifs at steps with away receiving
      · cases steps
        exact .of_not_receiving consistent.reconnects rfl
      · cases steps
        exact .of_not_receiving consistent.reconnects (Bool.eq_false_iff.mpr receiving)
  | join =>
      simp only [userStep] at steps
      split_ifs at steps with away ended
      cases steps
      have joining : threads.user = .joining := by
        rw [not_or] at away
        exact not_not.mp away.1
      exact .of_not_receiving consistent.reconnects (consistent.stopped (.inl joining))
  | disconnectEnds =>
      simp only [userStep] at steps
      split_ifs at steps with away
      cases steps
      exact .of_not_receiving consistent.reconnects
        (consistent.stopped (.inr (not_not.mp away)))
  | processThrows | processEnds | proceeds | receives received | reconnectEnds result | throws =>
      cases steps

theorem consistent_processStep (consistent : Consistent threads)
    (steps : processStep threads event = some final) : Consistent final := by
  cases event with
  | processThrows =>
      simp only [processStep] at steps
      split_ifs at steps with ended
      cases steps
      exact .of_not_receiving consistent.reconnects rfl
  | processEnds =>
      simp only [processStep] at steps
      split_ifs at steps with ended
      cases steps
      exact ⟨consistent.reconnects, consistent.exited, consistent.looping, consistent.connecting,
        consistent.stopped⟩
  | _ => cases steps

/-- A step of the receive thread that keeps the flag `receiving_` and does not get
into the loop. -/
theorem Consistent.withReceiver (consistent : Consistent threads) {client : Client}
    {control : ReceiveControl}
    (config : client.config.autoReconnect = threads.client.config.autoReconnect)
    (receiving : client.receiving = threads.client.receiving)
    (exited : control = .exited → threads.client.receiving = false)
    (outside : control.InLoop = false) : Consistent (threads.withReceiver (client, control)) where
  reconnects := config.trans consistent.reconnects
  exited ended := receiving.trans (exited ended)
  looping inLoop := by
    simp only [Threads.withReceiver, outside] at inLoop
    cases inLoop
  connecting _ inLoop := by
    simp only [Threads.withReceiver, outside] at inLoop
    cases inLoop
  stopped joining := receiving.trans (consistent.stopped joining)

/-- A step of the receive thread inside of the loop. -/
theorem Consistent.withinLoop (consistent : Consistent threads) {control : ReceiveControl}
    (before : threads.receiver.InLoop = true) (after : control ≠ .exited) :
    Consistent (threads.withReceiver (threads.client, control)) where
  reconnects := consistent.reconnects
  exited ended := absurd ended after
  looping _ := consistent.looping before
  connecting inConnect _ := consistent.connecting inConnect before
  stopped := consistent.stopped

theorem consistent_proceed (consistent : Consistent threads)
    (notReconnects : ¬Reconnects threads .proceeds) {client : Client} {control : ReceiveControl}
    (steps : proceed threads.client threads.receiver = some (client, control)) :
    Consistent (threads.withReceiver (client, control)) := by
  cases receiver : threads.receiver with
  | absent | exited | reading =>
      rw [receiver] at steps
      cases steps
  | connecting attempts =>
      rw [receiver] at steps
      cases steps
  | testReceiving =>
      rw [receiver] at steps
      cases steps
      cases receiving : threads.client.receiving with
      | true => exact consistent.withinLoop (by rw [receiver]; rfl) (by simp)
      | false => exact .of_not_receiving consistent.reconnects receiving
  | testConnected =>
      rw [receiver] at steps
      cases steps
      cases connected : threads.client.connected with
      | true => exact consistent.withinLoop (by rw [receiver]; rfl) (by simp)
      | false =>
          have stopped : threads.client.receiving = false := by
            cases receiving : threads.client.receiving with
            | false => rfl
            | true =>
                have still := consistent.looping (by rw [receiver]; rfl) receiving
                rw [connected] at still
                cases still
          exact .of_not_receiving consistent.reconnects stopped
  | lost =>
      rw [receiver] at steps
      cases steps
      cases receiving : threads.client.receiving with
      | true =>
          simp only [consistent.reconnects, and_self, if_true]
          exact consistent.withReceiver rfl rfl nofun rfl
      | false => exact .of_not_receiving consistent.reconnects receiving
  | reconnecting attempts =>
      rw [receiver] at steps
      simp only [proceed] at steps
      split_ifs at steps
      · cases steps
        exact consistent.withReceiver rfl rfl nofun rfl
      · cases steps
        exact consistent.withReceiver rfl rfl nofun rfl
  | sleeping attempts =>
      rw [receiver] at steps
      cases steps
      split_ifs
      · exact consistent.withReceiver rfl rfl nofun rfl
      · exact consistent.withReceiver rfl rfl nofun rfl
  | closing attempts =>
      rw [receiver] at steps
      cases steps
      exact consistent.withReceiver rfl rfl nofun rfl
  | calling attempts =>
      rw [receiver] at steps
      cases steps
      split_ifs with connected
      · have stopped : threads.client.receiving = false := by
          cases receiving : threads.client.receiving with
          | false => rfl
          | true =>
              exact absurd ⟨receiving, .inl ⟨⟨attempts, receiver⟩, connected, rfl⟩⟩ notReconnects
        exact .of_not_receiving consistent.reconnects stopped
      · exact consistent.withReceiver rfl rfl nofun rfl
  | givingUp =>
      rw [receiver] at steps
      simp only [proceed] at steps
      split_ifs at steps
      · cases steps
        exact consistent.withReceiver rfl rfl nofun rfl
      · cases steps
        exact .of_not_receiving consistent.reconnects rfl
  | handling =>
      rw [receiver] at steps
      cases steps
      exact consistent.withReceiver rfl rfl nofun rfl
  | handled =>
      rw [receiver] at steps
      cases steps
      exact .of_not_receiving consistent.reconnects rfl

theorem consistent_received (consistent : Consistent threads)
    (reading : threads.receiver = .reading) (outcome : Received) :
    Consistent (threads.withReceiver (received threads.client outcome)) := by
  have inLoop : threads.receiver.InLoop = true := by
    rw [reading]
    rfl
  cases outcome with
  | data => exact consistent.withinLoop inLoop nofun
  | again => exact consistent.withinLoop inLoop nofun
  | closed => exact consistent.withReceiver rfl rfl nofun rfl
  | error =>
      simp only [received]
      split_ifs
      · exact consistent.withReceiver rfl rfl nofun rfl
      · exact consistent.withReceiver rfl rfl nofun rfl

theorem consistent_receiveStep (consistent : Consistent threads)
    (notReconnects : ¬Reconnects threads event)
    (steps : receiveStep threads event = some final) : Consistent final := by
  cases event with
  | proceeds =>
      rcases Option.map_eq_some_iff.mp steps with ⟨⟨client, control⟩, goesOn, rfl⟩
      exact consistent_proceed consistent notReconnects goesOn
  | receives outcome =>
      simp only [receiveStep] at steps
      split_ifs at steps with away
      cases steps
      exact consistent_received consistent (not_not.mp away) outcome
  | reconnectEnds result =>
      simp only [receiveStep] at steps
      split at steps
      · cases steps
        cases result with
        | false => exact consistent.withReceiver rfl rfl nofun rfl
        | true =>
            have stopped : threads.client.receiving = false := by
              cases receiving : threads.client.receiving with
              | false => rfl
              | true => exact absurd ⟨receiving, .inr rfl⟩ notReconnects
            exact .of_not_receiving consistent.reconnects stopped
      · cases steps
  | throws =>
      simp only [receiveStep] at steps
      split_ifs at steps with inTry
      cases steps
      exact consistent.withReceiver rfl rfl nofun rfl
  | _ => cases steps

theorem consistent_step (consistent : Consistent threads)
    (notReconnects : ¬Reconnects threads event) (steps : step threads event = some final) :
    Consistent final := by
  rcases Option.or_eq_some_iff.mp steps with user | ⟨_, others⟩
  · exact consistent_userStep consistent user
  · rcases Option.or_eq_some_iff.mp others with process | ⟨_, receive⟩
    · exact consistent_processStep consistent process
    · exact consistent_receiveStep consistent notReconnects receive

end

/-- A client on which no function has been called. -/
def freshClient (config : InsConfig) : Client := { config := loadConfig config }

theorem consistent_fresh (config : InsConfig) : Consistent { client := freshClient config } :=
  .of_not_receiving rfl rfl

/-- A reconnect that succeeds ends the thread that should use it. -/
theorem not_receives_of_reconnects {threads final : Threads} {event : Event}
    (reconnects : Reconnects threads event) (steps : step threads event = some final) :
    ¬final.Receives := by
  rcases reconnects with ⟨receiving, ⟨⟨attempts, calling⟩, connected, rfl⟩ | rfl⟩
  · have exits : step threads .proceeds =
        some (threads.withReceiver (threads.client, .exited)) := by
      simp only [step, userStep, processStep, receiveStep, proceed, calling, connected,
        Option.none_or, Option.map_some, if_true]
    rw [exits] at steps
    cases steps
    intro receives
    exact receives receiving connected nofun rfl
  · simp only [step, userStep, processStep, receiveStep, Option.none_or] at steps
    split at steps
    · cases steps
      intro receives
      exact receives receiving rfl nofun rfl
    · cases steps

/-- While no reconnect has succeeded, a client that says that it is connected and
receiving has a thread that reads, and the first reconnect that succeeds ends this. -/
theorem receives_unless_reconnected (config : InsConfig) (threads : Threads)
    (reached : Reached step (fun threads event => ¬Reconnects threads event)
      { client := freshClient config } threads) :
    threads.Receives ∧
    ∀ event final, step threads event = some final →
      (final.Receives ↔ ¬Reconnects threads event) := by
  have consistent : Consistent threads :=
    reached.invariant (consistent_fresh config) consistent_step
  refine ⟨consistent.receives, ?_⟩
  intro event final steps
  constructor
  · intro receives reconnects
    exact not_receives_of_reconnects reconnects steps receives
  · intro notReconnects
    exact (consistent_step consistent notReconnects steps).receives

def casterConfig : InsConfig where
  enableRtk := false
  host := "caster".toList
  port := 2101
  mountPoint := "MOUNT".toList
  username := "user".toList
  password := "secret".toList

/-- The state after `Connect` and `StartReceiving`. -/
def started : Threads where
  client := { freshClient casterConfig with connected := true, receiving := true }
  receiver := .testReceiving
  processing := true

theorem started_receives : started.Receives ∧
    ∀ event final, step started event = some final →
      (final.Receives ↔ ¬Reconnects started event) := by
  have stopped : ∀ {threads event}, threads.client.receiving = false →
      ¬Reconnects threads event := by
    rintro threads event stopped ⟨receiving, _⟩
    rw [stopped] at receiving
    cases receiving
  have connecting : Reached step (fun threads event => ¬Reconnects threads event)
      { client := freshClient casterConfig }
      { client := freshClient casterConfig, user := .connecting } :=
    .next .connect .start (stopped rfl) rfl
  have connected : Reached step (fun threads event => ¬Reconnects threads event)
      { client := freshClient casterConfig }
      { client := { freshClient casterConfig with connected := true } } :=
    .next (.connectEnds (.returned true)) connecting (stopped rfl) rfl
  exact receives_unless_reconnected casterConfig started
    (.next .startReceiving connected (stopped rfl) rfl)

/-- The caster closes the connection and the first reconnect succeeds. -/
def reconnectEvents : List Event :=
  [.connect, .connectEnds (.returned true), .startReceiving, .proceeds, .proceeds,
    .receives .closed, .proceeds, .proceeds, .proceeds, .proceeds, .proceeds,
    .reconnectEnds true]

theorem reconnectEvents_not_receives : ∃ threads,
    Reached step (fun _ _ => True) { client := freshClient casterConfig } threads ∧
    threads.client.receiving = true ∧ threads.client.connected = true ∧
    threads.receiver = .exited ∧ ¬threads.Receives := by
  have runs : (runEvents step { client := freshClient casterConfig } reconnectEvents).map
      (fun threads => (threads.client.receiving, threads.client.connected, threads.receiver)) =
      some (true, true, .exited) := by
    decide +kernel
  rcases Option.map_eq_some_iff.mp runs with ⟨threads, runs, same⟩
  simp only [Prod.mk.injEq] at same
  rcases same with ⟨receiving, connected, exited⟩
  have reached := Reached.start.of_runEvents (fun _ _ _ => trivial) runs
  refine ⟨threads, reached, receiving, connected, exited, ?_⟩
  intro receives
  refine receives receiving connected ?_ exited
  rw [exited]
  exact nofun

end AsterxDriver.Ntrip
