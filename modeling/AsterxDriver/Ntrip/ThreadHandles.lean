import AsterxDriver.Ntrip.ReceiveLoop

/-! # Threads that are never joined

`StopReceiving` joins the launched threads only while `receiving_` is set. Both of
them clear this flag by themselves when they give up, and then their handles stay in
the client. The process ends when such a handle is overwritten or destroyed. -/

namespace AsterxDriver.Ntrip

open Foundation

/-- The next step of the receive thread clears the flag: behind the reconnect attempts,
or in the exception handler. -/
def ReceiveControl.Clears (config : Options) : ReceiveControl → Bool
  | .givingUp => !config.enableRtk
  | .handled => true
  | _ => false

/-- The step in which a launched thread clears the flag. -/
def GivesUp (threads : Threads) (event : Event) : Prop :=
  threads.client.receiving = true ∧
    (event = .processThrows ∧ threads.processing = true ∨
      event = .proceeds ∧ threads.receiver.Clears threads.client.config = true)

/-- One of the events is such a step. -/
def GaveUp : Threads → List Event → Prop
  | _, [] => False
  | threads, event :: later =>
      GivesUp threads event ∨ ∃ next, step threads event = some next ∧ GaveUp next later

/-- `Disconnect` returns with this event. -/
def DisconnectReturns (event : Event) (final : Threads) : Prop :=
  event = .disconnectEnds ∨ event = .disconnect ∧ final.user = .outside

/-- No thread has given up: the handles are held exactly while the threads are wanted. -/
structure Joins (threads : Threads) : Prop where
  held : threads.receiver ≠ .absent ↔
    threads.client.receiving = true ∨ threads.user = .joining
  stopped : threads.user = .joining ∨ threads.user = .disconnecting →
    threads.client.receiving = false
  idle : threads.user = .outside ∨ threads.user = .connecting →
    threads.client.disconnected = true →
    threads.client.connected = false ∧ threads.client.receiving = false

/-- A thread has given up, and nobody will join it. -/
structure Abandoned (threads : Threads) : Prop where
  held : threads.receiver ≠ .absent
  stopped : threads.client.receiving = false
  notJoining : threads.user ≠ .joining

section

variable {threads final : Threads} {event : Event}

/-! ## The launched threads -/

/-- What a step of a launched thread can do to the handles and the flag. -/
structure Launched (threads : Threads) (event : Event) (final : Threads) : Prop where
  user : final.user = threads.user
  held : final.receiver = .absent ↔ threads.receiver = .absent
  kept : ¬GivesUp threads event → final.client.receiving = threads.client.receiving
  cleared : GivesUp threads event → final.client.receiving = false
  disconnected : final.client.disconnected = true → threads.client.disconnected = true
  idle : threads.receiver = .absent → final.client.connected = threads.client.connected

theorem launched_processStep (steps : processStep threads event = some final) :
    Launched threads event final := by
  cases event with
  | processThrows =>
      simp only [processStep] at steps
      split at steps
      · cases steps
      · rename_i processing
        rw [not_not] at processing
        cases steps
        refine ⟨rfl, Iff.rfl, ?_, fun _ => rfl, id, fun _ => rfl⟩
        intro notGivesUp
        by_contra different
        have receiving : threads.client.receiving = true := by
          simpa using Ne.symm different
        exact notGivesUp ⟨receiving, .inl ⟨rfl, processing⟩⟩
  | processEnds =>
      simp only [processStep] at steps
      split at steps
      · cases steps
      · rename_i ends
        cases steps
        refine ⟨rfl, Iff.rfl, fun _ => rfl, ?_, id, fun _ => rfl⟩
        rintro ⟨receiving, _⟩
        exact absurd (.inr receiving) ends
  | _ => cases steps

/-- A step of the receive thread between two of its control points. -/
theorem proceed_receiving {client after : Client} {control next : ReceiveControl}
    (proceeds : proceed client control = some (after, next)) :
    control ≠ .absent ∧ next ≠ .absent ∧
      after.receiving = (client.receiving && !control.Clears client.config) ∧
      after.disconnected = client.disconnected := by
  cases control with
  | absent | reading | connecting attempts | exited => cases proceeds
  | testReceiving | testConnected | lost | sleeping attempts | calling attempts =>
      cases proceeds
      refine ⟨by simp, ?_, (Bool.and_true _).symm, rfl⟩
      split <;> simp
  | closing attempts | handling =>
      cases proceeds
      exact ⟨by simp, by simp, (Bool.and_true _).symm, rfl⟩
  | reconnecting attempts =>
      simp only [proceed] at proceeds
      split at proceeds
      · cases proceeds
        exact ⟨by simp, by simp, (Bool.and_true _).symm, rfl⟩
      · cases proceeds
        exact ⟨by simp, by simp, (Bool.and_true _).symm, rfl⟩
  | givingUp =>
      simp only [proceed] at proceeds
      split at proceeds
      · rename_i required
        cases proceeds
        simp [ReceiveControl.Clears, required]
      · rename_i ignored
        cases proceeds
        simp [ReceiveControl.Clears, ignored]
  | handled =>
      cases proceeds
      exact ⟨by simp, by simp, (Bool.and_false _).symm, rfl⟩

theorem launched_receiveStep (steps : receiveStep threads event = some final) :
    Launched threads event final := by
  cases event with
  | proceeds =>
      rcases Option.map_eq_some_iff.mp steps with ⟨⟨after, next⟩, proceeds, rfl⟩
      rcases proceed_receiving proceeds with ⟨here, there, receiving, disconnected⟩
      refine ⟨rfl, iff_of_false there here, ?_, ?_, disconnected.symm.trans,
        fun absent => absurd absent here⟩
      · intro notGivesUp
        refine receiving.trans ?_
        cases wasReceiving : threads.client.receiving with
        | false => rfl
        | true =>
            have keeps : threads.receiver.Clears threads.client.config = false := by
              by_contra clears
              exact notGivesUp ⟨wasReceiving, .inr ⟨rfl, by simpa using clears⟩⟩
            rw [keeps]
            rfl
      · rintro ⟨_, ⟨impossible, _⟩ | ⟨_, clears⟩⟩
        · cases impossible
        · rw [clears] at receiving
          exact receiving.trans (Bool.and_false _)
  | receives outcome =>
      simp only [receiveStep] at steps
      split at steps
      · cases steps
      · rename_i reading
        rw [not_not] at reading
        cases steps
        refine ⟨rfl, iff_of_false ?_ ?_, ?_, ?_, ?_, ?_⟩
        · cases outcome with
          | error =>
              change ¬(if _ then _ else _) = _
              split <;> simp
          | _ => rintro ⟨⟩
        · rw [reading]
          simp
        · intro _
          cases outcome <;> rfl
        · rintro ⟨_, ⟨impossible, _⟩ | ⟨impossible, _⟩⟩ <;> cases impossible
        · cases outcome <;> exact id
        · intro absent
          rw [reading] at absent
          cases absent
  | reconnectEnds result =>
      simp only [receiveStep] at steps
      split at steps
      · rename_i attempts connecting
        cases steps
        refine ⟨rfl, iff_of_false ?_ ?_, ?_, ?_, ?_, ?_⟩
        · change ¬(if _ then _ else _) = _
          split <;> simp
        · rw [connecting]
          simp
        · intro _
          cases result <;> rfl
        · rintro ⟨_, ⟨impossible, _⟩ | ⟨impossible, _⟩⟩ <;> cases impossible
        · intro disconnected
          cases result with
          | true => cases disconnected
          | false => exact disconnected
        · intro absent
          rw [connecting] at absent
          cases absent
      · cases steps
  | throws =>
      simp only [receiveStep] at steps
      split at steps
      · cases steps
      · rename_i inTry
        cases steps
        have here : threads.receiver ≠ .absent := by
          intro absent
          rw [absent] at inTry
          exact inTry (by decide)
        refine ⟨rfl, iff_of_false (by simp) here, fun _ => rfl, ?_, id,
          fun absent => absurd absent here⟩
        rintro ⟨_, ⟨impossible, _⟩ | ⟨impossible, _⟩⟩ <;> cases impossible
  | _ => cases steps

theorem Joins.absent (joins : Joins threads) (notJoining : threads.user ≠ .joining)
    (stopped : threads.client.receiving = false) : threads.receiver = .absent := by
  by_contra held
  rcases joins.held.mp held with receiving | joining
  · rw [stopped] at receiving
    cases receiving
  · exact notJoining joining

theorem joins_launched (joins : Joins threads) (notGivesUp : ¬GivesUp threads event)
    (launched : Launched threads event final) : Joins final := by
  have receiving := launched.kept notGivesUp
  refine ⟨?_, ?_, ?_⟩
  · rw [Ne, launched.held, receiving, launched.user]
    exact joins.held
  · rw [launched.user, receiving]
    exact joins.stopped
  · rw [launched.user, receiving]
    intro user disconnected
    rcases joins.idle user (launched.disconnected disconnected) with ⟨connected, stopped⟩
    have absent : threads.receiver = .absent := by
      refine joins.absent ?_ stopped
      rcases user with user | user
      · rw [user]
        simp
      · rw [user]
        simp
    exact ⟨(launched.idle absent).trans connected, stopped⟩

/-! ## The user's thread -/

theorem joins_startReceiving (joins : Joins threads) (outside : threads.user = .outside)
    (starts : startReceiving threads = some final) : Joins final := by
  unfold startReceiving at starts
  split at starts
  · cases starts
    exact joins
  rename_i connected
  rw [not_not] at connected
  split at starts
  · cases starts
    exact joins
  split at starts
  · cases starts
  cases starts
  refine ⟨⟨fun _ => .inl rfl, fun _ => (by simp)⟩, ?_, ?_⟩
  · intro user
    rw [outside] at user
    rcases user with impossible | impossible <;> cases impossible
  · intro user disconnected
    have unconnected := (joins.idle (.inl outside) disconnected).1
    rw [connected] at unconnected
    cases unconnected

theorem joins_userStep (joins : Joins threads) (steps : userStep threads event = some final) :
    Joins final := by
  cases event with
  | connect =>
      simp only [userStep] at steps
      split at steps
      · cases steps
      rename_i outside
      rw [not_not] at outside
      split at steps
      · cases steps
        exact joins
      · cases steps
        refine ⟨?_, ?_, fun _ => joins.idle (.inl outside)⟩
        · have held := joins.held
          rw [outside] at held
          simpa using held
        · rintro (impossible | impossible) <;> cases impossible
  | connectEnds result =>
      simp only [userStep] at steps
      split at steps
      · cases steps
      rename_i connecting
      rw [not_not] at connecting
      cases steps
      have receiving : (connectEnded threads.client result).receiving =
          threads.client.receiving := by
        rcases result with (_ | _) | _ <;> rfl
      refine ⟨?_, ?_, ?_⟩
      · have held := joins.held
        rw [connecting] at held
        simpa [receiving] using held
      · rintro (impossible | impossible) <;> cases impossible
      · rintro _ disconnected
        rw [receiving]
        rcases result with (_ | _) | _
        · exact ⟨rfl, (joins.idle (.inr connecting) disconnected).2⟩
        · cases disconnected
        · exact joins.idle (.inr connecting) disconnected
  | startReceiving =>
      simp only [userStep] at steps
      split at steps
      · cases steps
      rename_i outside
      exact joins_startReceiving joins (not_not.mp outside) steps
  | disconnect =>
      simp only [userStep] at steps
      split at steps
      · cases steps
      rename_i outside
      rw [not_not] at outside
      split at steps
      · cases steps
        exact joins
      · cases steps
        refine ⟨?_, ?_, ?_⟩
        · have held := joins.held
          rw [outside] at held
          simpa using held
        · rintro (impossible | impossible) <;> cases impossible
        · rintro (impossible | impossible) <;> cases impossible
  | stopReceiving =>
      simp only [userStep] at steps
      split at steps
      · cases steps
      rename_i stopping
      rw [not_not] at stopping
      have held := joins.held
      rw [stopping] at held
      split at steps
      · rename_i stopped
        cases steps
        refine ⟨?_, fun _ => by simpa using stopped, ?_⟩
        · simpa using held
        · rintro (impossible | impossible) <;> cases impossible
      · rename_i receiving
        cases steps
        refine ⟨iff_of_true (held.mpr (.inl (not_not.mp receiving))) (.inr rfl),
          fun _ => rfl, ?_⟩
        rintro (impossible | impossible) <;> cases impossible
  | join =>
      simp only [userStep] at steps
      split at steps
      · cases steps
      rename_i ready
      have joining : threads.user = .joining := by
        by_contra elsewhere
        exact ready (.inl elsewhere)
      have stopped := joins.stopped (.inl joining)
      split at steps
      · cases steps
        refine ⟨?_, fun _ => stopped, ?_⟩
        · simp [stopped]
        · rintro (impossible | impossible) <;> cases impossible
      · cases steps
  | disconnectEnds =>
      simp only [userStep] at steps
      split at steps
      · cases steps
      rename_i disconnecting
      rw [not_not] at disconnecting
      cases steps
      have stopped := joins.stopped (.inr disconnecting)
      refine ⟨?_, ?_, fun _ _ => ⟨rfl, stopped⟩⟩
      · have held := joins.held
        rw [disconnecting] at held
        simpa [closed] using held
      · rintro (impossible | impossible) <;> cases impossible
  | _ => cases steps

theorem abandoned_userStep (abandoned : Abandoned threads)
    (steps : userStep threads event = some final) : Abandoned final := by
  cases event with
  | connect | disconnect =>
      simp only [userStep] at steps
      split at steps
      · cases steps
      split at steps
      · cases steps
        exact abandoned
      · cases steps
        exact ⟨abandoned.held, abandoned.stopped, by simp⟩
  | connectEnds result =>
      simp only [userStep] at steps
      split at steps
      · cases steps
      cases steps
      refine ⟨abandoned.held, ?_, by simp⟩
      rcases result with (_ | _) | _ <;> exact abandoned.stopped
  | startReceiving =>
      simp only [userStep] at steps
      split at steps
      · cases steps
      unfold startReceiving at steps
      split at steps
      · cases steps
        exact abandoned
      · rw [if_neg (by simp [abandoned.stopped]), if_pos abandoned.held] at steps
        cases steps
  | stopReceiving =>
      simp only [userStep] at steps
      split at steps
      · cases steps
      rw [if_pos (by simp [abandoned.stopped])] at steps
      cases steps
      exact ⟨abandoned.held, abandoned.stopped, by simp⟩
  | join =>
      simp only [userStep] at steps
      rw [if_pos (.inl abandoned.notJoining)] at steps
      cases steps
  | disconnectEnds =>
      simp only [userStep] at steps
      split at steps
      · cases steps
      cases steps
      exact ⟨abandoned.held, abandoned.stopped, by simp⟩
  | _ => cases steps

/-! ## Whole runs -/

/-- A step is one of the user or one of a launched thread. -/
theorem step_cases (steps : step threads event = some final) :
    (userStep threads event = some final ∧ ¬GivesUp threads event) ∨
      Launched threads event final := by
  rcases Option.or_eq_some_iff.mp steps with user | ⟨_, others⟩
  · refine .inl ⟨user, ?_⟩
    rintro ⟨_, ⟨rfl, _⟩ | ⟨rfl, _⟩⟩ <;> cases user
  · rcases Option.or_eq_some_iff.mp others with process | ⟨_, receive⟩
    · exact .inr (launched_processStep process)
    · exact .inr (launched_receiveStep receive)

theorem joins_step (joins : Joins threads) (notGivesUp : ¬GivesUp threads event)
    (steps : step threads event = some final) : Joins final := by
  rcases step_cases steps with ⟨user, _⟩ | launched
  · exact joins_userStep joins user
  · exact joins_launched joins notGivesUp launched

theorem abandoned_step (abandoned : Abandoned threads) (steps : step threads event = some final) :
    Abandoned final := by
  rcases step_cases steps with ⟨user, _⟩ | launched
  · exact abandoned_userStep abandoned user
  · refine ⟨fun absent => abandoned.held (launched.held.mp absent), ?_, ?_⟩
    · by_cases givesUp : GivesUp threads event
      · exact launched.cleared givesUp
      · exact (launched.kept givesUp).trans abandoned.stopped
    · rw [launched.user]
      exact abandoned.notJoining

/-- The user who waits for the threads has cleared the flag, so they cannot give up. -/
theorem abandoned_of_givesUp (joins : Joins threads) (givesUp : GivesUp threads event)
    (steps : step threads event = some final) : Abandoned final := by
  rcases step_cases steps with ⟨_, notGivesUp⟩ | launched
  · exact absurd givesUp notGivesUp
  · refine ⟨?_, launched.cleared givesUp, ?_⟩
    · rw [Ne, launched.held]
      exact joins.held.mpr (.inl givesUp.1)
    · rw [launched.user]
      intro joining
      have stopped := joins.stopped (.inl joining)
      rw [givesUp.1] at stopped
      cases stopped

theorem abandoned_run {events : List Event} (abandoned : Abandoned threads)
    (runs : runEvents step threads events = some final) : Abandoned final := by
  induction events generalizing threads with
  | nil =>
      cases runs
      exact abandoned
  | cons event later induction =>
      rcases Option.bind_eq_some_iff.mp runs with ⟨next, steps, rest⟩
      exact induction (abandoned_step abandoned steps) rest

theorem run_cases {events : List Event} (joins : Joins threads)
    (runs : runEvents step threads events = some final) :
    (GaveUp threads events ∧ Abandoned final) ∨ (¬GaveUp threads events ∧ Joins final) := by
  induction events generalizing threads with
  | nil =>
      cases runs
      exact .inr ⟨id, joins⟩
  | cons event later induction =>
      rcases Option.bind_eq_some_iff.mp runs with ⟨next, steps, rest⟩
      by_cases givesUp : GivesUp threads event
      · exact .inl ⟨.inl givesUp, abandoned_run (abandoned_of_givesUp joins givesUp steps) rest⟩
      · rcases induction (joins_step joins givesUp steps) rest with
          ⟨gaveUp, abandoned⟩ | ⟨notGaveUp, joins⟩
        · exact .inl ⟨.inr ⟨next, steps, gaveUp⟩, abandoned⟩
        · refine .inr ⟨?_, joins⟩
          rintro (impossible | ⟨other, alsoSteps, gaveUp⟩)
          · exact givesUp impossible
          · rw [steps] at alsoSteps
            cases alsoSteps
            exact notGaveUp gaveUp

/-- `StartReceiving` ends the process when it overwrites a handle. -/
theorem step_startReceiving_eq_none (outside : threads.user = .outside) :
    step threads .startReceiving = none ↔ threads.client.connected = true ∧
      threads.client.receiving = false ∧ threads.receiver ≠ .absent := by
  have only : step threads .startReceiving = startReceiving threads := by
    simp only [step, userStep, processStep, receiveStep, outside, Option.or_none, ne_eq,
      not_true_eq_false, if_false]
  rw [only, startReceiving]
  split
  · rename_i unconnected
    simp [unconnected]
  split
  · rename_i receiving
    simp [receiving]
  split
  · rename_i connected receiving held
    exact iff_of_true rfl ⟨not_not.mp connected, by simpa using receiving, held⟩
  · rename_i absent
    simp [absent]

/-- When no thread has given up, `Disconnect` returns without handles. -/
theorem Joins.absent_of_disconnectReturns (joins : Joins threads)
    (steps : step threads event = some final) (returns : DisconnectReturns event final) :
    final.receiver = .absent := by
  rcases returns with rfl | ⟨rfl, outside⟩
  · simp only [step, userStep, processStep, receiveStep, Option.or_none] at steps
    split at steps
    · cases steps
    rename_i disconnecting
    rw [not_not] at disconnecting
    cases steps
    refine joins.absent ?_ (joins.stopped (.inr disconnecting))
    rw [disconnecting]
    simp
  · simp only [step, userStep, processStep, receiveStep, Option.or_none] at steps
    split at steps
    · cases steps
    split at steps
    · rename_i disconnected
      cases steps
      refine joins.absent ?_ (joins.idle (.inl outside) disconnected).2
      rw [outside]
      simp
    · cases steps
      cases outside

end

theorem joins_fresh (config : InsConfig) : Joins { client := freshClient config } where
  held := by simp [freshClient]
  stopped := fun _ => rfl
  idle := fun _ _ => ⟨rfl, rfl⟩

/-- The caster closes the connection, no reconnect succeeds, and the user disconnects. -/
def hopelessEvents : List Event :=
  [.connect, .connectEnds (.returned true), .startReceiving, .proceeds, .proceeds,
    .receives .closed, .proceeds] ++
    (List.replicate 10
      [.proceeds, .proceeds, .proceeds, .proceeds, .reconnectEnds false]).flatten ++
    [.proceeds, .proceeds, .disconnect, .stopReceiving]

end AsterxDriver.Ntrip
