import AsterxDriver.Ntrip.ConnectCleanup

/-! # Reconnecting

`HandleReconnect` of `ins401_ntrip_client.cpp`. Another thread may clear
`receiving_` before each of its reads. The loop takes `Connect` to report a
failure by its result; with RTK a failure throws instead. -/

namespace AsterxDriver.Ntrip

open Foundation Attempt

/-! ## The loop -/

/-- What happens around one attempt, apart from what the client does. -/
structure ReconnectRound where
  /-- `receiving_` is cleared before the condition of the loop. -/
  stopsBefore : Bool
  /-- `receiving_` is cleared while the thread sleeps. -/
  stopsAsleep : Bool
  script : ConnectScript

inductive ReconnectEvent
  | slept (seconds : ℤ)
  /-- `receiving_` was read and is false. -/
  | stopped
  /-- `Connect` was called and ended so. -/
  | attempted (outcome : Except NtripError Bool)

/-- The client with a log of what the loop does. -/
structure Reconnecting where
  client : Client
  events : List ReconnectEvent

abbrev Reconnection := Attempt Reconnecting NtripError

/-- A function of the client; its outcome may be logged. -/
def onClient (log : Except NtripError α → List ReconnectEvent) (program : Attempted α) :
    Reconnection α :=
  ExceptT.mk fun state => (program.run state.client).map fun result =>
    (result.1, ⟨result.2, state.events ++ log result.1⟩)

def note (event : ReconnectEvent) : Reconnection Unit :=
  modify fun state => { state with events := state.events ++ [event] }

/-- What another thread does to the flag. -/
def stopIf (stops : Bool) (client : Client) : Client :=
  if stops then { client with receiving := false } else client

/-- `receiving_.load()`, after the other threads had their turn. -/
def loadReceiving (stops : Bool) : Reconnection Bool := do
  modify fun state => { state with client := stopIf stops state.client }
  if (← get).client.receiving then return true
  else
    note .stopped
    return false

def countReconnect (client : Client) : Client :=
  { client with stats := { client.stats with
    reconnectCount := client.stats.reconnectCount + 1 } }

/-- The interval doubles after the third attempt, up to a minute. -/
def nextInterval (config : Options) (attempts : ℕ) (interval : ℤ) : ℤ :=
  if config.exponentialBackoff ∧ attempts > 3 then min (interval * 2) 60 else interval

section

variable (fdGuard : ℕ → Option ℕ) (base64Encode : Text → Text) (rounds : ℕ → ReconnectRound)

/-- `CloseConnection` and `Connect`. -/
def attemptReconnect (script : ConnectScript) : Reconnection Bool := do
  onClient (fun _ => []) closeConnection
  onClient (fun outcome => [.attempted outcome]) (connect fdGuard base64Encode script)

/-- The loop of `HandleReconnect`; `left` is the difference of
`max_reconnect_attempts` and `attempts`. It returns the number of attempts, or
nothing when one of them succeeded. -/
def reconnectLoop : (left attempts : ℕ) → ℤ → Reconnection (Option ℕ)
  | 0, attempts, _ => return some attempts
  | left + 1, attempts, interval => do
      if ¬(← get).client.config.autoReconnect then return some attempts
      else if ¬(← loadReceiving (rounds attempts).stopsBefore) then return some attempts
      else
        modify fun state => { state with client := countReconnect state.client }
        note (.slept interval)
        if ¬(← loadReceiving (rounds attempts).stopsAsleep) then return some (attempts + 1)
        else if ← attemptReconnect fdGuard base64Encode (rounds attempts).script then return none
        else
          let config := (← get).client.config
          reconnectLoop left (attempts + 1) (nextInterval config (attempts + 1) interval)

def handleReconnect : Reconnection Unit := do
  let config := (← get).client.config
  match ← reconnectLoop fdGuard base64Encode rounds config.maxReconnectAttempts.toNat 0
      config.reconnectInterval with
  | none => return ()
  | some attempts =>
      onClient (fun _ => []) (logErrorOrWarn ("Failed to reconnect after ".toList ++
        (toString attempts).toList ++ " attempts".toList))
      modify fun state => { state with client := { state.client with receiving := false } }

end

/-! ## One attempt -/

section

variable {state final : Reconnecting}

theorem onClient_ends {log : Except NtripError α → List ReconnectEvent} {program : Attempted α}
    {outcome : Except NtripError α} {client : Client}
    (ends : Ends program state.client outcome client) :
    Ends (onClient log program) state outcome ⟨client, state.events ++ log outcome⟩ :=
  Option.map_eq_some_iff.mpr ⟨_, ends, rfl⟩

theorem ends_onClient {log : Except NtripError α → List ReconnectEvent} {program : Attempted α}
    {outcome : Except NtripError α} (ends : Ends (onClient log program) state outcome final) :
    ∃ client, Ends program state.client outcome client ∧
      final = ⟨client, state.events ++ log outcome⟩ := by
  rcases Option.map_eq_some_iff.mp ends with ⟨⟨result, client⟩, runs, same⟩
  cases same
  exact ⟨client, runs, rfl⟩

/-- `receiving_` is still set, or that it is not is in the log. -/
theorem ends_loadReceiving {stops : Bool} {outcome : Except NtripError Bool}
    (ends : Ends (loadReceiving stops) state outcome final) :
    (state.client.receiving = true ∧ stops = false ∧ outcome = .ok true ∧ final = state) ∨
    ((state.client.receiving = false ∨ stops = true) ∧ outcome = .ok false ∧
      .stopped ∈ final.events) := by
  unfold loadReceiving at ends
  rw [ends_modify_bind_iff, ends_get_bind_iff] at ends
  rcases ends_ite ends with ⟨receiving, ends⟩ | ⟨cleared, ends⟩
  · rcases ends_pure_iff.mp ends with ⟨rfl, rfl⟩
    cases stops with
    | false => exact .inl ⟨receiving, rfl, rfl, rfl⟩
    | true => cases receiving
  · rw [note, ends_modify_bind_iff] at ends
    rcases ends_pure_iff.mp ends with ⟨rfl, rfl⟩
    refine .inr ⟨?_, rfl, List.mem_append_right _ List.mem_cons_self⟩
    cases stops with
    | false => exact .inl (Bool.eq_false_iff.mpr cleared)
    | true => exact .inr rfl

/-- The loop goes on while `receiving_` is set. -/
theorem ends_whileReceiving {stops : Bool} {leave : α} {next : Reconnection α}
    {outcome : Except NtripError α}
    (ends : Ends (do if ¬(← loadReceiving stops) then return leave else next) state outcome
      final) :
    (state.client.receiving = true ∧ stops = false ∧ Ends next state outcome final) ∨
    ((state.client.receiving = false ∨ stops = true) ∧ .stopped ∈ final.events) := by
  rcases ends_bind_iff.mp ends with ⟨fault, loads, _⟩ | ⟨receives, middle, loads, ends⟩
  · rcases ends_loadReceiving loads with ⟨_, _, impossible, _⟩ | ⟨_, impossible, _⟩
    · cases impossible
    · cases impossible
  rcases ends_loadReceiving loads with ⟨receiving, noStop, same, rfl⟩ | ⟨stopped, same, logged⟩
  · cases same
    rw [if_neg (by simp)] at ends
    exact .inl ⟨receiving, noStop, ends⟩
  · cases same
    rw [if_pos (by simp)] at ends
    rcases ends_pure_iff.mp ends with ⟨_, rfl⟩
    exact .inr ⟨stopped, logged⟩

variable {fdGuard : ℕ → Option ℕ} {base64Encode : Text → Text} {rounds : ℕ → ReconnectRound}

theorem ends_attemptReconnect {script : ConnectScript} {outcome : Except NtripError Bool}
    (ends : Ends (attemptReconnect fdGuard base64Encode script) state outcome final) :
    ∃ client, Ends (connect fdGuard base64Encode script) (closed state.client) outcome client ∧
      final = ⟨client, state.events ++ [.attempted outcome]⟩ := by
  rcases ends_bind_iff.mp ends with ⟨fault, closing, _⟩ | ⟨_, middle, closing, ends⟩
  · rcases ends_onClient closing with ⟨_, impossible, _⟩
    cases impossible
  · rcases ends_onClient closing with ⟨_, closes, rfl⟩
    cases closes
    rcases ends_onClient ends with ⟨client, connects, same⟩
    exact ⟨client, connects, by rw [same, List.append_nil]⟩

/-- How one turn of the loop ends: the flag is cleared, or there is an attempt that
succeeds, throws, or fails and is followed by the next turn. -/
theorem ends_reconnectLoop_succ {left attempts : ℕ} {interval : ℤ}
    {outcome : Except NtripError (Option ℕ)}
    (reconnects : state.client.config.autoReconnect = true)
    (ends : Ends (reconnectLoop fdGuard base64Encode rounds (left + 1) attempts interval) state
      outcome final) :
    ((state.client.receiving = false ∨ (rounds attempts).stopsBefore = true ∨
        (rounds attempts).stopsAsleep = true) ∧ .stopped ∈ final.events) ∨
    (state.client.receiving = true ∧ (rounds attempts).stopsBefore = false ∧
      (rounds attempts).stopsAsleep = false ∧
      ∃ attempt client, Ends (connect fdGuard base64Encode (rounds attempts).script)
          (closed (countReconnect state.client)) attempt client ∧
        ((attempt = .ok true ∧ final.events =
            state.events ++ [.slept interval] ++ [.attempted (.ok true)]) ∨
          (∃ fault, attempt = .error fault ∧ outcome = .error fault ∧ final.events =
            state.events ++ [.slept interval] ++ [.attempted (.error fault)]) ∨
          (attempt = .ok false ∧ Ends (reconnectLoop fdGuard base64Encode rounds left
            (attempts + 1) (nextInterval client.config (attempts + 1) interval))
            ⟨client, state.events ++ [.slept interval] ++ [.attempted (.ok false)]⟩
            outcome final))) := by
  unfold reconnectLoop at ends
  rw [ends_get_bind_iff, if_neg (not_not.mpr reconnects)] at ends
  rcases ends_whileReceiving ends with ⟨receiving, noStop, ends⟩ | ⟨cleared | stops, logged⟩
  rotate_left
  · exact .inl ⟨.inl cleared, logged⟩
  · exact .inl ⟨.inr (.inl stops), logged⟩
  rw [ends_modify_bind_iff, note, ends_modify_bind_iff] at ends
  rcases ends_whileReceiving ends with ⟨_, noStopAsleep, ends⟩ | ⟨cleared | stops, logged⟩
  rotate_left
  · exact .inl ⟨.inl cleared, logged⟩
  · exact .inl ⟨.inr (.inr stops), logged⟩
  refine .inr ⟨receiving, noStop, noStopAsleep, ?_⟩
  rcases ends_bind_iff.mp ends with ⟨fault, attempts, rfl⟩ | ⟨succeeded, middle, attempts, ends⟩
  · rcases ends_attemptReconnect attempts with ⟨client, connects, rfl⟩
    exact ⟨_, client, connects, .inr (.inl ⟨fault, rfl, rfl, rfl⟩)⟩
  · rcases ends_attemptReconnect attempts with ⟨client, connects, rfl⟩
    refine ⟨_, client, connects, ?_⟩
    cases succeeded with
    | true =>
        rcases ends_pure_iff.mp ends with ⟨_, rfl⟩
        exact .inl ⟨rfl, rfl⟩
    | false => exact .inr (.inr ⟨rfl, ends⟩)

/-! ## All attempts -/

def ReconnectEvent.failed : ReconnectEvent → Bool
  | .attempted (.ok true) => false
  | .attempted _ => true
  | _ => false

/-- An attempt succeeded, or `receiving_` was cleared, or so many attempts failed. -/
def RetriedToTheEnd (maxAttempts : ℕ) (events : List ReconnectEvent) : Prop :=
  .attempted (.ok true) ∈ events ∨ .stopped ∈ events ∨
    events.countP ReconnectEvent.failed = maxAttempts

/-- Where failures do not throw, the loop goes on. -/
theorem reconnectLoop_retries {left attempts : ℕ} {interval : ℤ}
    {outcome : Except NtripError (Option ℕ)}
    (reconnects : state.client.config.autoReconnect = true)
    (noRtk : state.client.config.enableRtk = false)
    (failures : state.events.countP ReconnectEvent.failed = attempts)
    (ends : Ends (reconnectLoop fdGuard base64Encode rounds left attempts interval) state
      outcome final) :
    RetriedToTheEnd (attempts + left) final.events := by
  induction left generalizing state attempts interval with
  | zero =>
      rcases ends_pure_iff.mp ends with ⟨_, rfl⟩
      exact .inr (.inr failures)
  | succ left induction =>
      rcases ends_reconnectLoop_succ reconnects ends with ⟨_, stopped⟩ |
        ⟨_, _, _, attempt, client, connects, cases⟩
      · exact .inr (.inl stopped)
      rcases cases with ⟨_, events⟩ | ⟨fault, rfl, _, _⟩ | ⟨rfl, goesOn⟩
      · rw [events]
        exact .inl (List.mem_append_right _ List.mem_cons_self)
      · have rtk := (decides_connect rfl connects).of_error.2
        exact absurd (noRtk.symm.trans rtk) Bool.false_ne_true
      · have config : client.config = state.client.config := (concludes_connect rfl connects).config
        have retried := induction (by rw [config]; exact reconnects) (by rw [config]; exact noRtk)
          (by simp [List.countP_append, failures, ReconnectEvent.failed]) goesOn
        rwa [show attempts + (left + 1) = attempts + 1 + left by omega]

/-- Behind the loop nothing more is tried. -/
theorem ends_handleReconnect {outcome : Except NtripError Unit}
    (ends : Ends (handleReconnect fdGuard base64Encode rounds) state outcome final) :
    ∃ result middle, Ends (reconnectLoop fdGuard base64Encode rounds
        state.client.config.maxReconnectAttempts.toNat 0 state.client.config.reconnectInterval)
        state result middle ∧
      final.events = middle.events := by
  unfold handleReconnect at ends
  rw [ends_get_bind_iff] at ends
  rcases ends_bind_iff.mp ends with ⟨fault, loops, rfl⟩ | ⟨result, middle, loops, ends⟩
  · exact ⟨_, final, loops, rfl⟩
  · refine ⟨_, middle, loops, ?_⟩
    cases result with
    | none =>
        rcases ends_pure_iff.mp ends with ⟨_, rfl⟩
        rfl
    | some attempts =>
        rcases ends_bind_iff.mp ends with ⟨fault, logs, _⟩ | ⟨_, last, logs, ends⟩
        · rcases ends_onClient logs with ⟨_, _, rfl⟩
          exact List.append_nil _
        · rcases ends_onClient logs with ⟨_, _, rfl⟩
          cases ends
          exact List.append_nil _

/-! ## The loop ends -/

/-- The client has this configuration. -/
def Configured (config : Options) (state : Reconnecting) : Prop :=
  state.client.config = config

theorem configured_stopIf {config : Options} {stops : Bool} (configured : Configured config state) :
    Configured config { state with client := stopIf stops state.client } := by
  cases stops with
  | false => exact configured
  | true => exact configured

theorem endsWithin_note (config : Options) (event : ReconnectEvent) :
    EndsWithin (Configured config) (note event) :=
  endsWithin_modify fun _ configured => configured

theorem endsWithin_loadReceiving (config : Options) (stops : Bool) :
    EndsWithin (Configured config) (loadReceiving stops) := by
  refine (endsWithin_modify fun _ => configured_stopIf).bind fun _ => ?_
  refine endsWithin_get_bind fun _ _ => (endsWithin_pure true).ite ?_
  exact (endsWithin_note config .stopped).bind fun _ => endsWithin_pure false

/-- An attempt ends when its call of `Connect` ends. -/
theorem endsWithin_attemptReconnect {config : Options} {script : ConnectScript}
    (connects : ∀ client, client.config = config → ∃ outcome final,
      Ends (connect fdGuard base64Encode script) client outcome final) :
    EndsWithin (Configured config) (attemptReconnect fdGuard base64Encode script) := by
  intro start configured
  rcases connects (closed start.client) configured with ⟨outcome, final, ends⟩
  refine ⟨outcome, _, ends_bind_iff.mpr (.inr ⟨(), _, rfl, onClient_ends ends⟩), ?_⟩
  exact (concludes_connect rfl ends).config.trans configured

theorem endsWithin_reconnectLoop {config : Options}
    (connects : ∀ n client, client.config = config → ∃ outcome final,
      Ends (connect fdGuard base64Encode (rounds n).script) client outcome final)
    (left attempts : ℕ) (interval : ℤ) : EndsWithin (Configured config)
      (reconnectLoop fdGuard base64Encode rounds left attempts interval) := by
  induction left generalizing attempts interval with
  | zero => exact endsWithin_pure _
  | succ left induction =>
      have counts : EndsWithin (Configured config) (modify fun state =>
          { state with client := countReconnect state.client } : Reconnection PUnit) :=
        endsWithin_modify fun _ configured => configured
      unfold reconnectLoop
      refine endsWithin_get_bind fun _ _ => (endsWithin_pure _).ite ?_
      refine (endsWithin_loadReceiving config _).bind fun _ => (endsWithin_pure _).ite ?_
      refine counts.bind fun _ => ?_
      refine (endsWithin_note config _).bind fun _ => ?_
      refine (endsWithin_loadReceiving config _).bind fun _ => (endsWithin_pure _).ite ?_
      refine (endsWithin_attemptReconnect (connects attempts)).bind fun _ =>
        (endsWithin_pure _).ite ?_
      exact endsWithin_get_bind fun _ _ => induction _ _

theorem endsWithin_logErrorOrWarn (config : Options) (message : Text) :
    EndsWithin (Configured config) (onClient (fun _ => []) (logErrorOrWarn message)) := by
  intro start configured
  have logs : ∃ outcome, Ends (logErrorOrWarn message) start.client outcome start.client := by
    unfold logErrorOrWarn
    by_cases rtk : start.client.config.enableRtk = true
    · refine ⟨.error ⟨message⟩, ?_⟩
      rw [ends_get_bind_iff, if_pos rtk]
      rfl
    · refine ⟨.ok (), ?_⟩
      rw [ends_get_bind_iff, if_neg rtk]
      rfl
  rcases logs with ⟨outcome, ends⟩
  exact ⟨outcome, _, onClient_ends ends, configured⟩

theorem endsWithin_handleReconnect {config : Options}
    (connects : ∀ n client, client.config = config → ∃ outcome final,
      Ends (connect fdGuard base64Encode (rounds n).script) client outcome final) :
    EndsWithin (Configured config) (handleReconnect fdGuard base64Encode rounds) := by
  refine endsWithin_get_bind fun _ _ => (endsWithin_reconnectLoop connects _ _ _).bind ?_
  intro result
  cases result with
  | none => exact endsWithin_pure ()
  | some attempts =>
      refine EndsWithin.bind ?_ fun _ => endsWithin_modify fun _ configured => configured
      exact endsWithin_logErrorOrWarn config _

/-- After a failure with RTK there is no second attempt. -/
theorem not_retried_of_error {left : ℕ} {interval : ℤ} {fault : NtripError}
    (events : final.events = [.slept interval, .attempted (.error fault)]) :
    RetriedToTheEnd (left + 1) final.events ↔ left = 0 := by
  unfold RetriedToTheEnd
  rw [events]
  simp [ReconnectEvent.failed, eq_comm]

/-- With RTK there is no second attempt: the first one is not made, succeeds or throws. -/
theorem reconnectLoop_rtk {left : ℕ} {interval : ℤ} {client : Client}
    {outcome : Except NtripError (Option ℕ)}
    (reconnects : client.config.autoReconnect = true) (rtk : client.config.enableRtk = true)
    (ends : Ends (reconnectLoop fdGuard base64Encode rounds (left + 1) 0 interval) ⟨client, []⟩
      outcome final) :
    RetriedToTheEnd (left + 1) final.events ↔
      left = 0 ∨ client.receiving = false ∨ (rounds 0).stopsBefore = true ∨
      (rounds 0).stopsAsleep = true ∨ (rounds 0).script.Succeeds base64Encode client := by
  rcases ends_reconnectLoop_succ reconnects ends with ⟨stops, stopped⟩ |
    ⟨(receiving : client.receiving = true), noStop, noStopAsleep, attempt, last, connects, cases⟩
  · refine iff_of_true (.inr (.inl stopped)) ?_
    rcases stops with cleared | before | asleep
    · exact .inr (.inl cleared)
    · exact .inr (.inr (.inl before))
    · exact .inr (.inr (.inr (.inl asleep)))
  have decides : Decides ((rounds 0).script.Succeeds base64Encode (closed (countReconnect client)))
      (closed (countReconnect client)) attempt := decides_connect rfl connects
  have same : (rounds 0).script.Succeeds base64Encode (closed (countReconnect client)) ↔
      (rounds 0).script.Succeeds base64Encode client :=
    ⟨fun succeeds => ⟨succeeds.reaches, succeeds.ssl, succeeds.answered⟩,
      fun succeeds => ⟨succeeds.reaches, succeeds.ssl, succeeds.answered⟩⟩
  rw [same] at decides
  rcases cases with ⟨rfl, logged⟩ | ⟨fault, rfl, _, logged⟩ | ⟨rfl, _⟩
  · have succeeded : .attempted (.ok true) ∈ final.events := by
      rw [logged]
      exact List.mem_append_right _ List.mem_cons_self
    have succeeds := decides.of_true
    exact iff_of_true (.inl succeeded) (.inr (.inr (.inr (.inr succeeds))))
  · have fails := decides.of_error.1
    rw [not_retried_of_error logged]
    simp only [receiving, noStop, noStopAsleep, fails, Bool.true_eq_false, Bool.false_eq_true,
      or_false]
  · exact absurd (rtk.symm.trans decides.of_false) (by decide)

/-- `HandleReconnect` tries until an attempt succeeds, it is stopped or all attempts
have failed, if and only if RTK is not required or nothing has to follow the first
attempt: it is the last one, is not made or succeeds. The call ends when each
`Connect` does. -/
theorem retried_to_the_end_iff (fdGuard : ℕ → Option ℕ) (base64Encode : Text → Text)
    (rounds : ℕ → ReconnectRound) (client : Client)
    (reconnects : client.config.autoReconnect = true) :
    (∀ outcome final, Ends (handleReconnect fdGuard base64Encode rounds) ⟨client, []⟩
        outcome final →
      (RetriedToTheEnd client.config.maxReconnectAttempts.toNat final.events ↔
        client.config.enableRtk = false ∨ client.config.maxReconnectAttempts ≤ 1 ∨
        client.receiving = false ∨ (rounds 0).stopsBefore = true ∨
        (rounds 0).stopsAsleep = true ∨ (rounds 0).script.Succeeds base64Encode client)) ∧
    ((∀ n other, other.config = client.config → ∃ outcome final,
        Ends (connect fdGuard base64Encode (rounds n).script) other outcome final) →
      ∃ outcome final, Ends (handleReconnect fdGuard base64Encode rounds) ⟨client, []⟩
        outcome final) := by
  constructor
  · intro outcome final ends
    rcases ends_handleReconnect ends with ⟨result, middle, loops, events⟩
    rw [events]
    cases rtk : client.config.enableRtk with
    | false =>
        have noFailures : ([] : List ReconnectEvent).countP ReconnectEvent.failed = 0 := rfl
        have retried := reconnectLoop_retries reconnects rtk noFailures loops
        rw [zero_add] at retried
        exact iff_of_true retried (.inl rfl)
    | true =>
        cases attempts : client.config.maxReconnectAttempts.toNat with
        | zero =>
            rw [attempts] at loops
            rcases ends_pure_iff.mp loops with ⟨_, rfl⟩
            exact iff_of_true (.inr (.inr rfl)) (.inr (.inl (by omega)))
        | succ left =>
            rw [attempts] at loops
            have last : left = 0 ↔ client.config.maxReconnectAttempts ≤ 1 := by omega
            rw [reconnectLoop_rtk reconnects rtk loops, last]
            simp only [Bool.true_eq_false, false_or]
  · intro connects
    rcases endsWithin_handleReconnect connects ⟨client, []⟩ rfl with ⟨outcome, final, ends, _⟩
    exact ⟨outcome, final, ends⟩

end

/-- The name of the caster is not resolved. -/
def unresolved : ReconnectRound where
  stopsBefore := false
  stopsAsleep := false
  script := { brokenPipe with resolution := .error "Name or service not known".toList }

/-- The receiver runs and corrections are required. -/
def requiringRtk : Client where
  config := { casterOptions with enableRtk := true }
  receiving := true

/-- Without an address `Connect` ends at once. -/
theorem unresolved_connects (fdGuard : ℕ → Option ℕ) (base64Encode : Text → Text)
    (client : Client) : ∃ outcome final,
      Ends (connect fdGuard base64Encode unresolved.script) client outcome final := by
  rcases client with ⟨config, socketFd, sslCtx, ssl, connected⟩
  rcases config with ⟨enableRtk⟩
  cases connected with
  | true => exact ⟨_, _, rfl⟩
  | false =>
      cases enableRtk with
      | true => exact ⟨_, _, rfl⟩
      | false => exact ⟨_, _, rfl⟩

theorem unresolved_retried_iff : ∃ outcome final,
    Ends (handleReconnect (fun _ => none) encodedCredentials fun _ => unresolved)
      ⟨requiringRtk, []⟩ outcome final ∧
    (RetriedToTheEnd 10 final.events ↔ true = false ∨ (10 : ℤ) ≤ 1 ∨ true = false ∨
      false = true ∨ false = true ∨
      unresolved.script.Succeeds encodedCredentials requiringRtk) := by
  have retried := retried_to_the_end_iff (fun _ => none) encodedCredentials
    (fun _ => unresolved) requiringRtk rfl
  rcases retried.2 fun _ client _ => unresolved_connects _ _ client with ⟨outcome, final, ends⟩
  exact ⟨outcome, final, ends, retried.1 outcome final ends⟩

/-- One failure to resolve the name ends the loop with nine attempts to go. -/
theorem unresolved_not_retried : ∃ fault final,
    Ends (handleReconnect (fun _ => none) encodedCredentials fun _ => unresolved)
      ⟨requiringRtk, []⟩ (.error fault) final ∧
    requiringRtk.config.maxReconnectAttempts = 10 ∧ ¬RetriedToTheEnd 10 final.events := by
  have runs : ∃ fault client,
      Ends (handleReconnect (fun _ => none) encodedCredentials fun _ => unresolved)
        ⟨requiringRtk, []⟩ (.error fault) ⟨client, [.slept 5, .attempted (.error fault)]⟩ :=
    ⟨_, _, rfl⟩
  rcases runs with ⟨fault, client, ends⟩
  refine ⟨fault, _, ends, rfl, ?_⟩
  rw [not_retried_of_error rfl]
  decide

end AsterxDriver.Ntrip
