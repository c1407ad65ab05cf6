import AsterxDriver.Ntrip.ProcessThread

/-! # Missed notifications

A thread that clears `receiving_` does it without the mutex of the wait. Its
notification can come after the process thread has looked at the flag and before it
sleeps. -/

namespace AsterxDriver.Ntrip

open Foundation

section

variable {signals final : Signals}

/-- A thread is in front of a notification. -/
def Signals.Due (signals : Signals) : Prop :=
  signals.receiverNotifies = true ∨ signals.userNotifies = true

/-- `ProcessThread` waits, although the client does not receive any more and all
notifications have been made. -/
def Signals.Asleep (signals : Signals) : Prop :=
  signals.processor = .waiting ∧ signals.threads.client.receiving = false ∧ ¬signals.Due

/-- The thread goes to sleep after the flag has been cleared behind its back, or the
flag is cleared without a notification while it sleeps. -/
def Misses (signals : Signals) (event : SignalEvent) : Prop :=
  ¬signals.Due ∧
    (event = .processes ∧ signals.processor = .blocking ∧
        signals.threads.client.receiving = false ∨
      event = .thread .proceeds ∧ signals.processor = .waiting ∧
        signals.threads.client.receiving = true ∧ signals.threads.receiver = .givingUp ∧
        signals.threads.client.config.enableRtk = false)

/-- The wait returns by itself, or `ReceiveThread` comes to one more notification. -/
def Rouses (signals : Signals) (event : SignalEvent) : Prop :=
  event = .wakes ∨ (∃ data, event = .receives data) ∨
    event = .thread .proceeds ∧ signals.threads.receiver = .handled

theorem asleep_threadSteps {event : Event} (watched : Watched signals)
    (steps : ThreadSteps signals event final) :
    final.Asleep ↔ Misses signals (.thread event) ∨
      signals.Asleep ∧ ¬Rouses signals (.thread event) := by
  cases steps with
  | quiet next quiet keeps =>
      have notHandled : event = .proceeds → signals.threads.receiver ≠ .handled := by
        intro proceeds handled
        have clears := keeps proceeds
        rw [handled] at clears
        cases clears
      have notGivingUp : event = .proceeds → signals.threads.receiver = .givingUp →
          signals.threads.client.config.enableRtk ≠ false := by
        intro proceeds givingUp ignored
        have clears := keeps proceeds
        rw [givingUp, ReceiveControl.Clears, ignored] at clears
        cases clears
      simp only [Signals.Asleep, Misses, Rouses, Signals.Due, quiet.receiving,
        SignalEvent.thread.injEq] at *
      grind
  | launches idle =>
      have absent := watched.launched idle
      simp [Signals.Asleep, Misses, absent]
  | stops receiving => simp [Signals.Asleep, Misses, receiving, Signals.Due]
  | joins ended announced =>
      have stopped := watched.not_running ended
      have notWaiting : signals.processor ≠ .waiting := by
        intro waiting
        rw [waiting] at stopped
        cases stopped
      simp [Signals.Asleep, Misses, notWaiting]
  | givesUp givingUp ignored announced =>
      simp only [Signals.Asleep, Misses, Rouses, Signals.Due]
      cases receiving : signals.threads.client.receiving
      all_goals simp [givingUp, ignored, announced]
      tauto
  | handles handled announced =>
      simp [Signals.Asleep, Misses, Rouses, Signals.Due, handled]

theorem asleep_processSteps (steps : ProcessSteps signals final) :
    final.Asleep ↔ Misses signals .processes ∨
      signals.Asleep ∧ ¬Rouses signals .processes := by
  have awake : signals.processor ≠ .waiting → signals.processor ≠ .blocking →
      final.processor ≠ .waiting →
      (final.Asleep ↔ Misses signals .processes ∨
        signals.Asleep ∧ ¬Rouses signals .processes) := by
    intro here notBlocking there
    simp [Signals.Asleep, Misses, here, notBlocking, there]
  cases steps with
  | waits here =>
      simp only [Signals.Asleep, Misses, Signals.Due, here, true_and]
      simp [and_comm]
  | goesOn here _ | locks here | finds here _ | blocks here _ _ | delivers _ _ here _
  | returns _ here _ | ends here _ | leaves here _ _ | takes here _ _ _ =>
      rw [here] at awake
      exact awake (by simp) (by simp) (by simp [Signals.exit])

theorem notified_ne_waiting (control : ProcessControl) : control.notified ≠ .waiting := by
  cases control <;> simp [ProcessControl.notified]

/-- What changes whether the thread sleeps. -/
theorem asleep_signalStep {event : SignalEvent} (watched : Watched signals)
    (steps : signalStep signals event = some final) :
    final.Asleep ↔ Misses signals event ∨ signals.Asleep ∧ ¬Rouses signals event := by
  cases event with
  | thread event => exact asleep_threadSteps watched (threadSteps_of_threadStep steps)
  | pends data =>
      have same : final.Asleep ↔ signals.Asleep := by
        simp only [signalStep, pendsStep] at steps
        split at steps
        · cases steps
          rfl
        · cases steps
          rfl
        · cases steps
      simp [same, Misses, Rouses]
  | receives data =>
      rcases receivesStep_cases steps with ⟨_, _, _, _, rfl⟩
      simp [Signals.Asleep, Signals.Due, Misses, Rouses]
  | receiverNotifies =>
      simp only [signalStep] at steps
      split at steps
      · cases steps
      rename_i due
      cases steps
      simp [Signals.Asleep, Signals.Due, Misses, notified_ne_waiting, not_not.mp due]
  | userNotifies =>
      simp only [signalStep] at steps
      split at steps
      · cases steps
      rename_i due
      cases steps
      simp [Signals.Asleep, Signals.Due, Misses, notified_ne_waiting, not_not.mp due]
  | processes => exact asleep_processSteps (processSteps_of_processesStep steps)
  | processThrows =>
      rcases processThrowsStep_cases steps with ⟨⟨chunks, here⟩, rfl⟩
      simp [Signals.Asleep, Misses, here]
  | wakes =>
      simp only [signalStep] at steps
      split at steps
      · cases steps
      · cases steps
        simp [Signals.Asleep, Misses, Rouses]

end

/-- `StopReceiving` waits for a thread that sleeps, and the receive thread has ended. -/
structure Deadlocked (signals : Signals) : Prop where
  asleep : signals.Asleep
  joining : signals.threads.user = .joining
  exited : signals.threads.receiver = .exited

theorem Deadlocked.step_eq_none {signals : Signals} (deadlocked : Deadlocked signals)
    (watched : Watched signals) (event : Event) :
    event = .processEnds ∨ event = .processThrows ∨ step signals.threads event = none := by
  have processing : signals.threads.processing = true := by
    rw [watched.processing, deadlocked.asleep.1]
    rfl
  cases event with
  | processEnds => exact .inl rfl
  | processThrows => exact .inr (.inl rfl)
  | connect | connectEnds _ | startReceiving | disconnect | stopReceiving | join
  | disconnectEnds =>
      refine .inr (.inr ?_)
      simp [step, userStep, processStep, receiveStep, deadlocked.joining, processing]
  | proceeds | receives _ | reconnectEnds _ | throws =>
      refine .inr (.inr ?_)
      simp [step, userStep, processStep, receiveStep, proceed, deadlocked.exited,
        ReceiveControl.InTry]

/-- Then no thread can take a step. -/
theorem Deadlocked.stuck {signals : Signals} (deadlocked : Deadlocked signals)
    (watched : Watched signals) {event : SignalEvent} (notWakes : event ≠ .wakes) :
    signalStep signals event = none := by
  have waiting := deadlocked.asleep.1
  have silent := deadlocked.asleep.2.2
  simp only [Signals.Due, not_or, Bool.not_eq_true] at silent
  cases event with
  | wakes => exact absurd rfl notWakes
  | thread event =>
      have none := deadlocked.step_eq_none watched event
      cases signalled : signalStep signals (.thread event) with
      | none => rfl
      | some final =>
          simp only [signalStep, threadStep] at signalled
          split at signalled
          · cases signalled
          split at signalled
          all_goals simp_all
  | pends data =>
      simp [signalStep, pendsStep, deadlocked.joining, deadlocked.exited]
  | receives data =>
      simp [signalStep, receivesStep, step, userStep, processStep, receiveStep, deadlocked.exited]
  | receiverNotifies => simp [signalStep, silent.1]
  | userNotifies => simp [signalStep, silent.2]
  | processes => simp [signalStep, processesStep, waiting]
  | processThrows => simp [signalStep, processThrowsStep, waiting]

/-- The notification of `StopReceiving` comes between the condition and the sleep. -/
def missedEvents : List SignalEvent :=
  [.thread .connect, .thread (.connectEnds (.returned true)), .thread .startReceiving, .processes,
    .processes, .processes, .thread .disconnect, .thread .stopReceiving, .userNotifies, .processes,
    .thread .proceeds]

/-- How many steps it can still take, at most, when the client does not receive. -/
def ProcessControl.remaining : ProcessControl → ℕ
  | .absent | .exited => 0
  | .testReceiving => 1
  | .delivering _ => 2
  | .taking => 3
  | .checking => 4
  | .locking => 5
  | .waiting => 6
  | .blocking => 7

theorem ProcessControl.remaining_le (control : ProcessControl) : control.remaining ≤ 7 := by
  cases control <;> simp [remaining]

theorem ProcessControl.remaining_notified (control : ProcessControl) :
    control.notified.remaining ≤ control.remaining := by
  cases control <;> simp [remaining, notified]

/-- The events that are steps of `ProcessThread`. -/
def SignalEvent.Own : SignalEvent → Bool
  | .processes | .processThrows => true
  | _ => false

def SignalEvent.Starts : SignalEvent → Bool
  | .thread .startReceiving => true
  | _ => false

theorem receiving_enqueue (client : Client) (data : List Byte) :
    (enqueue client data).receiving = client.receiving := by
  unfold enqueue
  dsimp only
  split <;> rfl

theorem receiving_chunkRtcmData (client : Client) (data : List Byte) :
    (chunkRtcmData client data).1.receiving = client.receiving := by
  unfold chunkRtcmData
  split
  · rfl
  · dsimp only
    split <;> rfl

section

variable {signals final : Signals}

theorem remaining_processSteps (stopped : signals.threads.client.receiving = false)
    (steps : ProcessSteps signals final) :
    final.threads.client.receiving = false ∧
      1 + final.processor.remaining ≤ signals.processor.remaining := by
  cases steps with
  | goesOn _ receiving | blocks _ _ receiving | delivers _ _ _ receiving =>
      rw [stopped] at receiving
      cases receiving
  | takes here data later queue =>
      rw [here]
      exact ⟨(receiving_chunkRtcmData _ _).trans stopped, le_refl 3⟩
  | ends here _ | leaves here _ _ | locks here | finds here _ | waits here | returns _ here _ =>
      rw [here]
      exact ⟨stopped, by simp [ProcessControl.remaining, Signals.exit]⟩

theorem remaining_signalStep {event : SignalEvent}
    (stopped : signals.threads.client.receiving = false) (notStarts : event.Starts = false)
    (steps : signalStep signals event = some final) :
    final.threads.client.receiving = false ∧
      event.Own.toNat + final.processor.remaining ≤ signals.processor.remaining := by
  cases event with
  | thread event =>
      rw [show (SignalEvent.thread event).Own = false from rfl, Bool.toNat_false, Nat.zero_add]
      cases threadSteps_of_threadStep steps with
      | quiet next quiet keeps => exact ⟨quiet.receiving.trans stopped, le_rfl⟩
      | launches idle => cases notStarts
      | joins ended announced => exact ⟨stopped, Nat.zero_le _⟩
      | stops receiving => exact ⟨rfl, le_rfl⟩
      | givesUp givingUp ignored announced => exact ⟨rfl, le_rfl⟩
      | handles handled announced => exact ⟨rfl, le_rfl⟩
  | pends data =>
      simp only [signalStep, pendsStep] at steps
      split at steps
      · cases steps
        exact ⟨stopped, by simp [SignalEvent.Own]⟩
      · cases steps
        exact ⟨stopped, by simp [SignalEvent.Own]⟩
      · cases steps
  | receives data =>
      rcases receivesStep_cases steps with ⟨_, _, _, _, rfl⟩
      exact ⟨(receiving_enqueue _ _).trans stopped, by simp [SignalEvent.Own]⟩
  | receiverNotifies | userNotifies =>
      simp only [signalStep] at steps
      split at steps
      · cases steps
      · cases steps
        refine ⟨stopped, ?_⟩
        simpa [SignalEvent.Own] using signals.processor.remaining_notified
  | processes => exact remaining_processSteps stopped (processSteps_of_processesStep steps)
  | processThrows =>
      rcases processThrowsStep_cases steps with ⟨⟨chunks, here⟩, rfl⟩
      rw [here]
      exact ⟨rfl, by simp [ProcessControl.remaining, SignalEvent.Own]⟩
  | wakes =>
      simp only [signalStep] at steps
      split at steps
      · cases steps
      · rename_i waiting
        cases steps
        rw [not_not.mp waiting]
        exact ⟨stopped, by simp [ProcessControl.remaining, SignalEvent.Own]⟩

theorem remaining_run {events : List SignalEvent}
    (stopped : signals.threads.client.receiving = false)
    (notStarted : ∀ event ∈ events, event.Starts = false)
    (runs : runEvents signalStep signals events = some final) :
    final.threads.client.receiving = false ∧
      events.countP SignalEvent.Own + final.processor.remaining ≤
        signals.processor.remaining := by
  induction events generalizing signals with
  | nil =>
      cases runs
      exact ⟨stopped, by simp⟩
  | cons event later induction =>
      rcases List.forall_mem_cons.mp notStarted with ⟨first, rest⟩
      rcases Option.bind_eq_some_iff.mp runs with ⟨next, steps, laterRuns⟩
      rcases remaining_signalStep stopped first steps with ⟨stillStopped, lowered⟩
      rcases induction stillStopped rest laterRuns with ⟨finallyStopped, counted⟩
      refine ⟨finallyStopped, ?_⟩
      rw [List.countP_cons]
      cases own : event.Own with
      | false =>
          rw [own] at lowered
          simp only [Bool.toNat_false] at lowered
          simp
          omega
      | true =>
          rw [own] at lowered
          simp only [Bool.toNat_true] at lowered
          simp
          omega

end

/-- In whatever order the threads take their steps: once the client does not receive, the
process thread takes at most seven steps more, and unless it sleeps its next step, or the
notification that wakes it, can be taken. -/
theorem stopped_thread_ends (config : InsConfig) (events later : List SignalEvent)
    (signals final : Signals)
    (runs : runEvents signalStep (freshSignals config) events = some signals)
    (stopped : signals.threads.client.receiving = false)
    (notStarted : ∀ event ∈ later, event.Starts = false)
    (laterRuns : runEvents signalStep signals later = some final) :
    later.countP SignalEvent.Own + final.processor.remaining ≤ 7 ∧
    (final.processor.Running = true → final.Asleep ∨
      ∃ event next, (event = .processes ∨ event = .receiverNotifies ∨ event = .userNotifies) ∧
        signalStep final event = some next ∧
        next.processor.remaining < final.processor.remaining) := by
  rcases remaining_run stopped notStarted laterRuns with ⟨finallyStopped, counted⟩
  refine ⟨counted.trans signals.processor.remaining_le, fun running => ?_⟩
  have allRuns : runEvents signalStep (freshSignals config) (events ++ later) = some final := by
    rw [runEvents_append, runs, Option.bind_some, laterRuns]
  by_cases waiting : final.processor = .waiting
  · by_cases due : final.Due
    · refine .inr ?_
      rcases due with due | due
      · refine ⟨.receiverNotifies, _, .inr (.inl rfl), if_neg (not_not_intro due), ?_⟩
        simp [waiting, ProcessControl.notified, ProcessControl.remaining]
      · refine ⟨.userNotifies, _, .inr (.inr rfl), if_neg (not_not_intro due), ?_⟩
        simp [waiting, ProcessControl.notified, ProcessControl.remaining]
    · exact .inl ⟨waiting, finallyStopped, due⟩
  · rcases (watched_run allRuns).processes running waiting with ⟨next, steps⟩
    refine .inr ⟨.processes, next, .inl rfl, steps, ?_⟩
    have lowered := (remaining_signalStep finallyStopped rfl steps).2
    simp only [SignalEvent.Own, Bool.toNat_true] at lowered
    omega

/-- The notification comes in time. -/
theorem missedEvents_in_time : ∃ signals final,
    runEvents signalStep (freshSignals casterConfig) (missedEvents.take 8) = some signals ∧
    signals.processor = .blocking ∧
    runEvents signalStep signals
      [.processes, .userNotifies, .processes, .processes, .processes] = some final ∧
    final.processor = .exited ∧
    (final.processor.Running = true → final.Asleep ∨
      ∃ event next, (event = .processes ∨ event = .receiverNotifies ∨ event = .userNotifies) ∧
        signalStep final event = some next ∧
        next.processor.remaining < final.processor.remaining) := by
  have evaluated : ((runEvents signalStep (freshSignals casterConfig) (missedEvents.take 8)).bind
      fun signals => (runEvents signalStep signals
        [.processes, .userNotifies, .processes, .processes, .processes]).map
        fun final => (signals.processor, signals.threads.client.receiving, final.processor)) =
      some (.blocking, false, .exited) := by
    decide +kernel
  rcases Option.bind_eq_some_iff.mp evaluated with ⟨signals, runs, others⟩
  rcases Option.map_eq_some_iff.mp others with ⟨final, laterRuns, same⟩
  simp only [Prod.mk.injEq] at same
  rcases same with ⟨blocking, stopped, exited⟩
  refine ⟨signals, final, runs, blocking, laterRuns, exited, ?_⟩
  exact (stopped_thread_ends casterConfig (missedEvents.take 8)
    [.processes, .userNotifies, .processes, .processes, .processes] signals final runs stopped
    (by simp [SignalEvent.Starts]) laterRuns).2

end AsterxDriver.Ntrip
