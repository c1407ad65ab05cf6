import AsterxDriver.Ntrip.Response

/-! # What a failed connect leaves behind

Each stage of `Connect` either succeeds or fails through `LogErrorOrWarn`, which
throws when RTK is enabled. -/

namespace AsterxDriver.Ntrip

open Foundation Attempt

/-- No connection and nothing that belongs to one. -/
structure Clean (client : Client) : Prop where
  connected : client.connected = false
  socketFd : client.socketFd = none
  ssl : client.ssl = false
  sslCtx : client.sslCtx = false

/-! ## When the stages succeed -/

def Reaches : Except Text (List AddressOutcome) → Prop
  | .error _ => False
  | .ok addresses => ∃ address ∈ addresses, address.Reached

def SslOutcome.Succeeds (config : Options) (outcome : SslOutcome) : Prop :=
  outcome.getFlags ∧ (outcome.wasNonblock → outcome.setBlocking) ∧ outcome.newContext ∧
  (config.verifySsl → outcome.defaultPaths ∨ outcome.candidates.any id) ∧ outcome.newSsl ∧
  (config.host ≠ [] → outcome.setSni ∧ (config.verifySsl → outcome.setHost)) ∧
  outcome.setFd ∧ outcome.handshake

/-- The writes send this number of bytes before one of them fails. -/
def SendsAll : List SendOutcome → ℕ → Prop
  | _, 0 => True
  | [], _ + 1 => False
  | outcome :: later, remaining + 1 =>
      0 < outcome.result ∧ SendsAll later (remaining + 1 - outcome.result.toNat)

/-- The response that the reads make up before one of them fails. -/
def responseOf : List ReadOutcome → List Byte → Option (List Byte)
  | .data first later :: reads, response =>
      if occurs headerTerminator response then some response
      else responseOf reads (response ++ cString (first :: later))
  | _, response => if occurs headerTerminator response then some response else none

def Accepts (reads : List ReadOutcome) : Prop :=
  ∃ response, responseOf reads [] = some response ∧
    isOk (response.take (headerEnd response + 4)) = true

/-- The length of the request for the mount point. -/
@[irreducible]
def requestLength (base64Encode : Text → Text) (config : Options) (nmeaGga : Text) : ℕ :=
  (buildHttpRequest base64Encode config nmeaGga ("/".toList ++ config.mountPoint)).length

/-- The request is sent and the response accepts it. -/
structure ConnectScript.Answered (base64Encode : Text → Text) (config : Options)
    (nmeaGga : Text) (script : ConnectScript) : Prop where
  sends : SendsAll script.sends (requestLength base64Encode config nmeaGga)
  select : 0 < script.select
  accepts : Accepts script.reads

/-- No call that the script is about fails. -/
structure ConnectScript.Succeeds (base64Encode : Text → Text) (client : Client)
    (script : ConnectScript) : Prop where
  reaches : Reaches script.resolution
  ssl : client.config.isSsl = true → script.ssl.Succeeds client.config
  answered : script.Answered base64Encode client.config client.nmeaGga

/-- The descriptor after an address to which no connection is made. -/
def AddressOutcome.left (fdGuard : ℕ → Option ℕ) (address : AddressOutcome) : Option ℕ :=
  match address.socket with
  | none => none
  | some fd => if address.optionsSet then none else fdGuard fd

/-- The descriptor after a search in which no connection is made. -/
def leftFd (fdGuard : ℕ → Option ℕ) (before : Option ℕ) :
    Except Text (List AddressOutcome) → Option ℕ
  | .error _ => before
  | .ok addresses => addresses.foldl (fun _ address => address.left fdGuard) before

/-! ## The stages -/

/-- The outcome after `LogErrorOrWarn` and the return of a value. -/
def Warns (client : Client) (value : α) (outcome : Except NtripError α) : Prop :=
  client.config.enableRtk = true ∧ (∃ fault, outcome = .error fault) ∨
  client.config.enableRtk = false ∧ outcome = .ok value

/-- The outcome of a function that succeeds in this case only. -/
def Decides (succeeds : Prop) (client : Client) (outcome : Except NtripError Bool) : Prop :=
  succeeds ∧ outcome = .ok true ∨ ¬succeeds ∧ Warns client false outcome

section

variable {client final : Client} {message : Text}

theorem ends_logErrorOrWarn {outcome : Except NtripError Unit}
    (ends : Ends (logErrorOrWarn message) client outcome final) :
    final = client ∧ (client.config.enableRtk = true ∧ outcome = .error ⟨message⟩ ∨
      client.config.enableRtk = false ∧ outcome = .ok ()) := by
  unfold logErrorOrWarn at ends
  rw [ends_get_bind_iff] at ends
  cases rtk : client.config.enableRtk with
  | true =>
      rw [rtk] at ends
      rcases ends_throw_iff.mp ends with ⟨thrown, same⟩
      exact ⟨same, .inl ⟨rfl, thrown⟩⟩
  | false =>
      rw [rtk] at ends
      rcases ends_pure_iff.mp ends with ⟨returned, same⟩
      exact ⟨same, .inr ⟨rfl, returned⟩⟩

theorem ends_log_return {value : α} {outcome : Except NtripError α}
    (ends : Ends (do logErrorOrWarn message; return value) client outcome final) :
    final = client ∧ Warns client value outcome := by
  rcases ends_bind_iff.mp ends with ⟨fault, logged, rfl⟩ | ⟨_, middle, logged, rest⟩
  · rcases ends_logErrorOrWarn logged with ⟨same, ⟨rtk, _⟩ | ⟨_, impossible⟩⟩
    · exact ⟨same, .inl ⟨rtk, fault, rfl⟩⟩
    · cases impossible
  · rcases ends_logErrorOrWarn logged with ⟨rfl, ⟨_, impossible⟩ | ⟨rtk, _⟩⟩
    · cases impossible
    · rcases ends_pure_iff.mp rest with ⟨returned, same⟩
      exact ⟨same, .inr ⟨rtk, returned⟩⟩

theorem ends_failWith {outcome : Except NtripError Bool}
    (ends : Ends (failWith message) client outcome final) :
    final = client ∧ Warns client false outcome :=
  ends_log_return ends

theorem ends_createSocket {fdGuard : ℕ → Option ℕ} {address : AddressOutcome}
    {outcome : Except NtripError Bool}
    (ends : Ends (createSocket fdGuard address) client outcome final) :
    (∃ fd, address.socket = some fd ∧ address.optionsSet = true ∧ outcome = .ok true ∧
      final = { client with socketFd := some fd }) ∨
    (¬(address.socket.isSome ∧ address.optionsSet = true) ∧ outcome = .ok false ∧
      final = { client with socketFd := address.left fdGuard }) := by
  unfold createSocket at ends
  rw [ends_modify_bind_iff] at ends
  cases socket : address.socket with
  | none =>
      rw [socket] at ends
      rcases ends_pure_iff.mp ends with ⟨returned, rfl⟩
      refine .inr ⟨by simp, returned, ?_⟩
      rw [AddressOutcome.left, socket]
  | some fd =>
      rw [socket] at ends
      cases options : address.optionsSet with
      | true =>
          rw [options] at ends
          rcases ends_pure_iff.mp ends with ⟨returned, rfl⟩
          exact .inl ⟨fd, rfl, rfl, returned, rfl⟩
      | false =>
          simp only [options, Bool.false_eq_true, if_false] at ends
          rw [ends_modify_bind_iff, ends_pure_iff] at ends
          rcases ends with ⟨returned, rfl⟩
          refine .inr ⟨by simp, returned, ?_⟩
          rw [AddressOutcome.left, socket, options]
          rfl

theorem ends_tryAddresses_cons {fdGuard : ℕ → Option ℕ} {address : AddressOutcome}
    {later : List AddressOutcome} {outcome : Except NtripError Bool}
    (ends : Ends (tryAddresses fdGuard (address :: later)) client outcome final) :
    (address.Reached ∧ outcome = .ok true ∧ ∃ fd, final = { client with socketFd := some fd }) ∨
    (¬address.Reached ∧ Ends (tryAddresses fdGuard later)
      { client with socketFd := address.left fdGuard } outcome final) := by
  rw [tryAddresses] at ends
  rcases ends_bind_iff.mp ends with ⟨fault, created, rfl⟩ | ⟨value, middle, created, rest⟩
  · rcases ends_createSocket created with ⟨_, _, _, impossible, _⟩ | ⟨_, impossible, _⟩
    · cases impossible
    · cases impossible
  · rcases ends_createSocket created with ⟨fd, socket, options, same, rfl⟩ | ⟨failed, same, rfl⟩
    · cases same
      cases connects : address.connect.connects with
      | true =>
          simp only [connects, if_true] at rest
          rcases ends_pure_iff.mp rest with ⟨returned, rfl⟩
          exact .inl ⟨⟨by rw [socket]; rfl, options, connects⟩, returned, fd, rfl⟩
      | false =>
          simp only [connects, if_true, Bool.false_eq_true, if_false] at rest
          rw [ends_modify_bind_iff] at rest
          have left : address.left fdGuard = none := by
            simp [AddressOutcome.left, socket, options]
          rw [left]
          exact .inr ⟨fun reached => absurd reached.2.2 (by simp [connects]), rest⟩
    · cases same
      exact .inr ⟨fun reached => failed ⟨reached.1, reached.2.1⟩, rest⟩

theorem ends_tryAddresses {fdGuard : ℕ → Option ℕ} {addresses : List AddressOutcome}
    {outcome : Except NtripError Bool}
    (ends : Ends (tryAddresses fdGuard addresses) client outcome final) :
    (Reaches (.ok addresses) ∧ outcome = .ok true ∧
      ∃ fd, final = { client with socketFd := some fd }) ∨
    (¬Reaches (.ok addresses) ∧ outcome = .ok false ∧
      final = { client with socketFd := leftFd fdGuard client.socketFd (.ok addresses) }) := by
  induction addresses generalizing client with
  | nil =>
      rcases ends_pure_iff.mp ends with ⟨returned, rfl⟩
      exact .inr ⟨by simp [Reaches], returned, rfl⟩
  | cons address later induction =>
      rcases ends_tryAddresses_cons ends with ⟨reached, facts⟩ | ⟨unreached, rest⟩
      · exact .inl ⟨⟨address, List.mem_cons_self .., reached⟩, facts⟩
      · rcases induction rest with ⟨⟨other, member, reached⟩, returned, fd, rfl⟩ |
          ⟨none, returned, rfl⟩
        · exact .inl ⟨⟨other, List.mem_cons_of_mem _ member, reached⟩, returned, fd, rfl⟩
        · refine .inr ⟨?_, returned, rfl⟩
          rintro ⟨other, member, reached⟩
          rcases List.mem_cons.mp member with rfl | behind
          · exact unreached reached
          · exact none ⟨other, behind, reached⟩

/-- The descriptor is the new one, or what the failed attempts have left. -/
theorem ends_connectSocket {fdGuard : ℕ → Option ℕ}
    {resolution : Except Text (List AddressOutcome)} {outcome : Except NtripError Bool}
    (ends : Ends (connectSocket fdGuard resolution) client outcome final) :
    Decides (Reaches resolution) client outcome ∧
    ((Reaches resolution ∧ ∃ fd, final = { client with socketFd := some fd }) ∨
      (¬Reaches resolution ∧
        final = { client with socketFd := leftFd fdGuard client.socketFd resolution })) := by
  unfold connectSocket at ends
  rw [ends_get_bind_iff] at ends
  cases resolution with
  | error reason =>
      rcases ends_failWith ends with ⟨rfl, warns⟩
      exact ⟨.inr ⟨id, warns⟩, .inr ⟨id, rfl⟩⟩
  | ok addresses =>
      rcases ends_bind_iff.mp ends with ⟨fault, tried, rfl⟩ | ⟨value, middle, tried, rest⟩
      · rcases ends_tryAddresses tried with ⟨_, impossible, _⟩ | ⟨_, impossible, _⟩
        · cases impossible
        · cases impossible
      · rcases ends_tryAddresses tried with ⟨reaches, same, fd, rfl⟩ | ⟨none, same, rfl⟩
        · cases same
          rcases ends_pure_iff.mp rest with ⟨returned, rfl⟩
          exact ⟨.inl ⟨reaches, returned⟩, .inl ⟨reaches, fd, rfl⟩⟩
        · cases same
          rcases ends_failWith rest with ⟨rfl, warns⟩
          exact ⟨.inr ⟨none, warns⟩, .inr ⟨none, rfl⟩⟩

/-- `InitSSL` changes nothing but the TLS objects. -/
theorem ends_initSsl {ssl : SslOutcome} {outcome : Except NtripError Bool}
    (ends : Ends (initSsl ssl) client outcome final) :
    Decides (ssl.Succeeds client.config) client outcome ∧
    ∃ held context, final = { client with ssl := held, sslCtx := context } := by
  have fails : ∀ {held context : Bool} {message : Text},
      Ends (failWith message) { client with ssl := held, sslCtx := context } outcome final →
      ¬ssl.Succeeds client.config → Decides (ssl.Succeeds client.config) client outcome ∧
        ∃ held context, final = { client with ssl := held, sslCtx := context } := by
    intro held context message failed unsuccessful
    rcases ends_failWith failed with ⟨rfl, outcome⟩
    exact ⟨.inr ⟨unsuccessful, outcome⟩, held, context, rfl⟩
  unfold initSsl at ends
  rw [ends_get_bind_iff] at ends
  rcases ends_ite ends with ⟨noFlags, failed⟩ | ⟨flags, ends⟩
  · exact fails failed (fun succeeds => noFlags succeeds.1)
  rcases ends_ite ends with ⟨blocked, failed⟩ | ⟨blocking, ends⟩
  · exact fails failed (fun succeeds => blocked.2 (succeeds.2.1 blocked.1))
  rw [ends_modify_bind_iff] at ends
  rcases ends_ite ends with ⟨noContext, failed⟩ | ⟨context, ends⟩
  · exact fails failed (fun succeeds => noContext succeeds.2.2.1)
  rcases ends_ite ends with ⟨untrusted, failed⟩ | ⟨trusted, ends⟩
  · have unsuccessful : ¬ssl.Succeeds client.config := fun succeeds =>
      (succeeds.2.2.2.1 untrusted.1).elim untrusted.2.1 untrusted.2.2
    exact fails failed unsuccessful
  rw [ends_modify_bind_iff] at ends
  rcases ends_ite ends with ⟨noSsl, failed⟩ | ⟨held, ends⟩
  · exact fails failed (fun succeeds => noSsl succeeds.2.2.2.2.1)
  rcases ends_ite ends with ⟨noSni, failed⟩ | ⟨sni, ends⟩
  · have unsuccessful : ¬ssl.Succeeds client.config := fun succeeds =>
      noSni.2 (succeeds.2.2.2.2.2.1 noSni.1).1
    exact fails failed unsuccessful
  rcases ends_ite ends with ⟨noHost, failed⟩ | ⟨host, ends⟩
  · have unsuccessful : ¬ssl.Succeeds client.config := fun succeeds =>
      noHost.2.2 ((succeeds.2.2.2.2.2.1 noHost.1).2 noHost.2.1)
    exact fails failed unsuccessful
  rcases ends_ite ends with ⟨noFd, failed⟩ | ⟨fd, ends⟩
  · exact fails failed (fun succeeds => noFd succeeds.2.2.2.2.2.2.1)
  rcases ends_ite ends with ⟨noHandshake, failed⟩ | ⟨handshake, ends⟩
  · exact fails failed (fun succeeds => noHandshake succeeds.2.2.2.2.2.2.2)
  rcases ends_pure_iff.mp ends with ⟨returned, rfl⟩
  refine ⟨.inl ⟨?_, returned⟩, _, _, rfl⟩
  simp only [not_and, not_not] at flags blocking context trusted held sni host fd handshake
  exact ⟨flags, blocking, context, fun verify => or_iff_not_imp_left.mpr (trusted verify), held,
    fun named => ⟨sni named, host named⟩, fd, handshake⟩

/-- A read or write returns its result; only a bad one may throw instead. -/
def Reports (bad : Prop) (client : Client) (result : α) (outcome : Except NtripError α) : Prop :=
  outcome = .ok result ∨
    bad ∧ client.config.enableRtk = true ∧ ∃ fault, outcome = .error fault

theorem reports_of_warns {bad : Prop} {result : α} {outcome : Except NtripError α} (isBad : bad)
    (warns : Warns client result outcome) : Reports bad client result outcome := by
  rcases warns with ⟨rtk, thrown⟩ | ⟨_, returned⟩
  · exact .inr ⟨isBad, rtk, thrown⟩
  · exact .inl returned

theorem ends_return {bad : Prop} {result : α} {outcome : Except NtripError α}
    (ends : Ends (pure result) client outcome final) :
    final = client ∧ Reports bad client result outcome := by
  rcases ends_pure_iff.mp ends with ⟨returned, same⟩
  exact ⟨same, .inl returned⟩

theorem ends_sendData {send : SendOutcome} {outcome : Except NtripError ℤ}
    (ends : Ends (sendData send) client outcome final) :
    final = client ∧ Reports (send.result ≤ 0) client send.result outcome := by
  unfold sendData at ends
  rw [ends_get_bind_iff] at ends
  by_cases held : client.ssl = true
  · rw [if_pos held] at ends
    by_cases bad : send.result ≤ 0 ∧ ¬send.temporary = true
    · rw [if_pos bad] at ends
      rcases ends_log_return ends with ⟨same, warns⟩
      exact ⟨same, reports_of_warns bad.1 warns⟩
    · rw [if_neg bad] at ends
      exact ends_return ends
  · rw [if_neg held] at ends
    by_cases bad : send.result < 0 ∧ ¬send.temporary = true
    · rw [if_pos bad] at ends
      rcases ends_log_return ends with ⟨same, warns⟩
      exact ⟨same, reports_of_warns bad.1.le warns⟩
    · rw [if_neg bad] at ends
      exact ends_return ends

theorem ends_sendRemaining {sends : List SendOutcome} {remaining : ℕ}
    {outcome : Except NtripError Bool}
    (ends : Ends (sendRemaining sends remaining) client outcome final) :
    Decides (SendsAll sends remaining) client outcome ∧ final = client := by
  induction sends generalizing remaining with
  | nil =>
      cases remaining with
      | zero =>
          rcases ends_pure_iff.mp ends with ⟨returned, same⟩
          exact ⟨.inl ⟨trivial, returned⟩, same⟩
      | succ remaining => exact absurd ends not_ends_wait
  | cons send later induction =>
      cases remaining with
      | zero =>
          rcases ends_pure_iff.mp ends with ⟨returned, same⟩
          exact ⟨.inl ⟨trivial, returned⟩, same⟩
      | succ remaining =>
          rw [sendRemaining] at ends
          rcases ends_bind_iff.mp ends with ⟨fault, sent, rfl⟩ | ⟨result, middle, sent, rest⟩
          · rcases ends_sendData sent with ⟨same, impossible | ⟨bad, rtk, _⟩⟩
            · cases impossible
            · refine ⟨.inr ⟨fun succeeds => ?_, .inl ⟨rtk, fault, rfl⟩⟩, same⟩
              exact absurd succeeds.1 (not_lt.mpr bad)
          · rcases ends_sendData sent with ⟨rfl, returned | ⟨_, _, _, impossible⟩⟩
            · cases returned
              rcases ends_ite rest with ⟨bad, failed⟩ | ⟨good, goesOn⟩
              · rcases ends_failWith failed with ⟨same, failed⟩
                refine ⟨.inr ⟨fun succeeds => ?_, failed⟩, same⟩
                exact absurd succeeds.1 (not_lt.mpr bad)
              · have positive : 0 < send.result := not_le.mp good
                rcases induction goesOn with ⟨decides, same⟩
                refine ⟨?_, same⟩
                rcases decides with ⟨all, succeeded⟩ | ⟨notAll, failed⟩
                · exact .inl ⟨⟨positive, all⟩, succeeded⟩
                · exact .inr ⟨fun succeeds => notAll succeeds.2, failed⟩
            · cases impossible

theorem ends_sendRequest {base64Encode : Text → Text} {sends : List SendOutcome}
    {outcome : Except NtripError Bool}
    (ends : Ends (sendRequest base64Encode sends) client outcome final) :
    Decides (SendsAll sends (requestLength base64Encode client.config client.nmeaGga)) client
      outcome ∧
      final = client := by
  unfold sendRequest at ends
  rw [ends_get_bind_iff] at ends
  unfold requestLength
  exact ends_sendRemaining ends

def ReadOutcome.IsData : ReadOutcome → Prop
  | .data _ _ => True
  | _ => False

theorem ends_receiveData_cases {read : ReadOutcome} {outcome : Except NtripError ReadOutcome}
    (ends : Ends (receiveData read) client outcome final) :
    final = client ∧ Reports (¬read.IsData) client read outcome := by
  unfold receiveData at ends
  rw [ends_get_bind_iff] at ends
  cases read with
  | data first later => exact ends_return ends
  | zero temporary code =>
      by_cases bad : client.ssl = true ∧ ¬temporary = true
      · simp only [if_pos bad] at ends
        rcases ends_log_return ends with ⟨same, warns⟩
        exact ⟨same, reports_of_warns id warns⟩
      · simp only [if_neg bad] at ends
        exact ends_return ends
  | negative temporary code =>
      by_cases bad : ¬temporary = true
      · simp only [if_pos bad] at ends
        rcases ends_log_return ends with ⟨same, warns⟩
        exact ⟨same, reports_of_warns id warns⟩
      · simp only [if_neg bad] at ends
        exact ends_return ends

theorem responseOf_of_occurs {reads : List ReadOutcome} {response : List Byte}
    (complete : occurs headerTerminator response = true) :
    responseOf reads response = some response := by
  unfold responseOf
  split <;> rw [if_pos complete]

theorem responseOf_of_not_data {read : ReadOutcome} {later : List ReadOutcome}
    {response : List Byte} (incomplete : ¬occurs headerTerminator response = true)
    (bad : ¬read.IsData) : responseOf (read :: later) response = none := by
  cases read with
  | data first bytes => exact absurd trivial bad
  | zero temporary code => rw [responseOf, if_neg incomplete]; simp
  | negative temporary code => rw [responseOf, if_neg incomplete]; simp

/-- What `receiveHeader` makes of a response, if there is one. -/
def Returns (client : Client) (response : Option (List Byte))
    (outcome : Except NtripError (Option (List Byte))) : Prop :=
  match response with
  | some text => outcome = .ok (some text)
  | none => Warns client none outcome

theorem ends_return_response {reads : List ReadOutcome} {response : List Byte}
    {outcome : Except NtripError (Option (List Byte))}
    (complete : occurs headerTerminator response = true)
    (ends : Ends (pure (some response)) client outcome final) :
    final = client ∧ Returns client (responseOf reads response) outcome := by
  rcases ends_pure_iff.mp ends with ⟨returned, same⟩
  rw [responseOf_of_occurs complete]
  exact ⟨same, returned⟩

theorem ends_receiveHeader_cases {reads : List ReadOutcome} {response : List Byte}
    {outcome : Except NtripError (Option (List Byte))}
    (ends : Ends (receiveHeader reads response) client outcome final) :
    final = client ∧ Returns client (responseOf reads response) outcome := by
  induction reads generalizing response with
  | nil =>
      rw [receiveHeader] at ends
      rcases ends_ite ends with ⟨complete, returned⟩ | ⟨_, waits⟩
      · exact ends_return_response complete returned
      · exact absurd waits not_ends_wait
  | cons read later induction =>
      rw [receiveHeader] at ends
      rcases ends_ite ends with ⟨complete, returned⟩ | ⟨incomplete, reads⟩
      · exact ends_return_response complete returned
      · rcases ends_bind_iff.mp reads with ⟨fault, received, rfl⟩ | ⟨result, middle, received,
          rest⟩
        · rcases ends_receiveData_cases received with ⟨same, impossible | ⟨bad, rtk, _⟩⟩
          · cases impossible
          · rw [responseOf_of_not_data incomplete bad]
            exact ⟨same, .inl ⟨rtk, fault, rfl⟩⟩
        · rcases ends_receiveData_cases received with ⟨rfl, returned | ⟨_, _, _, impossible⟩⟩
          · cases returned
            cases read with
            | data first bytes =>
                rw [responseOf, if_neg incomplete]
                exact induction rest
            | zero temporary code =>
                rw [responseOf_of_not_data incomplete id]
                exact ends_log_return rest
            | negative temporary code =>
                rw [responseOf_of_not_data incomplete id]
                exact ends_log_return rest
          · cases impossible

theorem ends_checkStatus {header : List Byte} {outcome : Except NtripError Bool}
    (ends : Ends (checkStatus header) client outcome final) :
    Decides (isOk header = true) client outcome ∧ final = client := by
  rcases ends_ite ends with ⟨ok, returned⟩ | ⟨notOk, ends⟩
  · rcases ends_pure_iff.mp returned with ⟨returned, same⟩
    exact ⟨.inl ⟨ok, returned⟩, same⟩
  rcases ends_ite ends with ⟨_, failed⟩ | ⟨_, ends⟩
  · rcases ends_failWith failed with ⟨same, warns⟩
    exact ⟨.inr ⟨notOk, warns⟩, same⟩
  rcases ends_ite ends with ⟨_, failed⟩ | ⟨_, failed⟩
  · rw [ends_get_bind_iff] at failed
    rcases ends_failWith failed with ⟨same, warns⟩
    exact ⟨.inr ⟨notOk, warns⟩, same⟩
  · rcases ends_failWith failed with ⟨same, warns⟩
    exact ⟨.inr ⟨notOk, warns⟩, same⟩

theorem ends_closeAndFail {outcome : Except NtripError Bool}
    (ends : Ends closeAndFail client outcome final) : outcome = .ok false ∧ final = closed client :=
  ends_pure_iff.mp ends

theorem ends_log_close {outcome : Except NtripError Bool}
    (ends : Ends (do logErrorOrWarn message; closeAndFail) client outcome final) :
    Warns client false outcome ∧
      (final = client ∨ client.config.enableRtk = false ∧ final = closed client) := by
  rcases ends_bind_iff.mp ends with ⟨fault, logged, rfl⟩ | ⟨_, middle, logged, rest⟩
  · rcases ends_logErrorOrWarn logged with ⟨same, ⟨rtk, _⟩ | ⟨_, impossible⟩⟩
    · exact ⟨.inl ⟨rtk, fault, rfl⟩, .inl same⟩
    · cases impossible
  · rcases ends_logErrorOrWarn logged with ⟨rfl, ⟨_, impossible⟩ | ⟨rtk, _⟩⟩
    · cases impossible
    · rcases ends_closeAndFail rest with ⟨returned, same⟩
      exact ⟨.inr ⟨rtk, returned⟩, .inr ⟨rtk, same⟩⟩

/-- A response that is complete decides by its status. -/
theorem decides_of_response {reads : List ReadOutcome} {text : List Byte} {select : ℤ}
    (response : responseOf reads [] = some text) (ready : 0 < select)
    {outcome : Except NtripError Bool}
    (decides : Decides (isOk (text.take (headerEnd text + 4)) = true) client outcome) :
    Decides (0 < select ∧ Accepts reads) client outcome := by
  rcases decides with ⟨ok, succeeded⟩ | ⟨notOk, warns⟩
  · exact .inl ⟨⟨ready, text, response, ok⟩, succeeded⟩
  · refine .inr ⟨?_, warns⟩
    rintro ⟨_, other, found, ok⟩
    rw [response] at found
    cases found
    exact notOk ok

/-- The data that may be pending after a response. -/
def MayBePending (client : Client) (reads : List ReadOutcome) (pending : List Byte) : Prop :=
  pending = client.pendingData ∨
    ∃ text, responseOf reads [] = some text ∧ pending = text.drop (headerEnd text + 4)

theorem ends_receiveResponse_cases {select : ℤ} {reads : List ReadOutcome}
    {outcome : Except NtripError Bool}
    (ends : Ends (receiveResponse select reads) client outcome final) :
    Decides (0 < select ∧ Accepts reads) client outcome ∧
    ((∃ pending, MayBePending client reads pending ∧
        final = { client with pendingData := pending }) ∨
      client.config.enableRtk = false ∧ final = closed client) := by
  rw [receiveResponse] at ends
  rcases ends_ite ends with ⟨unready, failed⟩ | ⟨notUnready, ends⟩
  · have unsuccessful : ¬(0 < select ∧ Accepts reads) := fun succeeds =>
      absurd succeeds.1 (not_lt.mpr unready)
    rcases ends_log_close failed with ⟨warns, rfl | cleaned⟩
    · exact ⟨.inr ⟨unsuccessful, warns⟩, .inl ⟨_, .inl rfl, rfl⟩⟩
    · exact ⟨.inr ⟨unsuccessful, warns⟩, .inr cleaned⟩
  · have ready : 0 < select := not_le.mp notUnready
    have unsuccessful : responseOf reads [] = none → ¬(0 < select ∧ Accepts reads) := by
      rintro missing ⟨_, text, found, _⟩
      rw [missing] at found
      cases found
    rcases ends_bind_iff.mp ends with ⟨fault, received, rfl⟩ | ⟨result, middle, received, rest⟩
    · rcases ends_receiveHeader_cases received with ⟨rfl, returns⟩
      cases response : responseOf reads [] with
      | some text =>
          rw [response] at returns
          cases returns
      | none =>
          rw [response] at returns
          rcases returns with ⟨rtk, _⟩ | ⟨_, impossible⟩
          · exact ⟨.inr ⟨unsuccessful response, .inl ⟨rtk, fault, rfl⟩⟩, .inl ⟨_, .inl rfl, rfl⟩⟩
          · cases impossible
    · rcases ends_receiveHeader_cases received with ⟨rfl, returns⟩
      cases response : responseOf reads [] with
      | some text =>
          rw [response] at returns
          cases returns
          by_cases body : text.length > headerEnd text + 4
          · simp only [if_pos body] at rest
            rw [ends_modify_bind_iff] at rest
            rcases ends_checkStatus rest with ⟨decides, rfl⟩
            exact ⟨decides_of_response response ready decides,
              .inl ⟨_, .inr ⟨text, response, rfl⟩, rfl⟩⟩
          · simp only [if_neg body] at rest
            rcases ends_checkStatus rest with ⟨decides, rfl⟩
            exact ⟨decides_of_response response ready decides, .inl ⟨_, .inl rfl, rfl⟩⟩
      | none =>
          rw [response] at returns
          rcases returns with ⟨_, _, impossible⟩ | ⟨rtk, same⟩
          · cases impossible
          · cases same
            rcases ends_pure_iff.mp rest with ⟨returned, rfl⟩
            exact ⟨.inr ⟨unsuccessful response, .inr ⟨rtk, returned⟩⟩, .inl ⟨_, .inl rfl, rfl⟩⟩

/-! ## Connect -/

/-- A stage throws, fails and is cleaned up after, or succeeds. -/
theorem ends_stage {stage rest : Attempted Bool} {outcome : Except NtripError Bool}
    (ends : Ends (do if ¬(← stage) then closeAndFail else rest) client outcome final) :
    (∃ fault, Ends stage client (.error fault) final ∧ outcome = .error fault) ∨
    (∃ middle, Ends stage client (.ok false) middle ∧ outcome = .ok false ∧
      final = closed middle) ∨
    ∃ middle, Ends stage client (.ok true) middle ∧ Ends rest middle outcome final := by
  rcases ends_bind_iff.mp ends with thrown | ⟨succeeded, middle, staged, ends⟩
  · exact .inl thrown
  · cases succeeded with
    | false => exact .inr (.inl ⟨middle, staged, ends_closeAndFail ends⟩)
    | true => exact .inr (.inr ⟨middle, staged, ends⟩)

/-- How `Connect` ends: it succeeds, or it fails and closes, or it throws. -/
inductive ConnectEnds (fdGuard : ℕ → Option ℕ) (base64Encode : Text → Text) (client : Client)
    (script : ConnectScript) (outcome : Except NtripError Bool) (final : Client) : Prop
  | succeeds (script : script.Succeeds base64Encode client) (result : outcome = .ok true)
  | fails (rtk : client.config.enableRtk = false) (middle : Client) (closed : final = closed middle)
  | unreached (rtk : client.config.enableRtk = true) (none : ¬Reaches script.resolution)
      (fault : NtripError) (result : outcome = .error fault)
      (left : final = { client with
        socketFd := leftFd fdGuard client.socketFd script.resolution })
  | reached (rtk : client.config.enableRtk = true) (reaches : Reaches script.resolution)
      (unsuccessful : ¬script.Succeeds base64Encode client) (fault : NtripError)
      (result : outcome = .error fault) (fd : ℕ) (left : final.socketFd = some fd)

theorem Decides.of_error {succeeds : Prop} {fault : NtripError}
    (decides : Decides succeeds client (.error fault)) :
    ¬succeeds ∧ client.config.enableRtk = true := by
  rcases decides with ⟨_, impossible⟩ | ⟨fails, ⟨rtk, _⟩ | ⟨_, impossible⟩⟩
  · cases impossible
  · exact ⟨fails, rtk⟩
  · cases impossible

theorem Decides.of_false {succeeds : Prop} (decides : Decides succeeds client (.ok false)) :
    client.config.enableRtk = false := by
  rcases decides with ⟨_, impossible⟩ | ⟨_, ⟨_, _, impossible⟩ | ⟨rtk, _⟩⟩
  · cases impossible
  · cases impossible
  · exact rtk

theorem Decides.of_true {succeeds : Prop} (decides : Decides succeeds client (.ok true)) :
    succeeds := by
  rcases decides with ⟨holds, _⟩ | ⟨_, ⟨_, _, impossible⟩ | ⟨_, impossible⟩⟩
  · exact holds
  · cases impossible
  · cases impossible

theorem ends_initSslIfNeeded {ssl : SslOutcome} {outcome : Except NtripError Bool}
    (ends : Ends (initSslIfNeeded ssl) client outcome final) :
    Decides (client.config.isSsl = true → ssl.Succeeds client.config) client outcome ∧
    ∃ held context, final = { client with ssl := held, sslCtx := context } := by
  unfold initSslIfNeeded at ends
  rw [ends_get_bind_iff] at ends
  rcases ends_ite ends with ⟨secure, ends⟩ | ⟨plain, ends⟩
  · rcases ends_initSsl ends with ⟨⟨succeeds, returned⟩ | ⟨fails, warns⟩, changed⟩
    · exact ⟨.inl ⟨fun _ => succeeds, returned⟩, changed⟩
    · exact ⟨.inr ⟨fun succeeds => fails (succeeds secure), warns⟩, changed⟩
  · rcases ends_pure_iff.mp ends with ⟨returned, rfl⟩
    exact ⟨.inl ⟨fun secure => absurd secure plain, returned⟩, _, _, rfl⟩

/-- How the request ends: it succeeds, or it fails and closes, or it throws and
keeps the descriptor. -/
theorem ends_requestStream {base64Encode : Text → Text} {script : ConnectScript}
    {outcome : Except NtripError Bool}
    (ends : Ends (requestStream base64Encode script) client outcome final) :
    script.Answered base64Encode client.config client.nmeaGga ∧ outcome = .ok true ∨
    client.config.enableRtk = false ∧ (∃ middle, final = closed middle) ∨
    client.config.enableRtk = true ∧ ¬script.Answered base64Encode client.config client.nmeaGga ∧
      (∃ fault, outcome = .error fault) ∧ final.socketFd = client.socketFd := by
  unfold requestStream at ends
  rcases ends_stage ends with ⟨fault, staged, rfl⟩ | ⟨middle, staged, rfl, same⟩ |
    ⟨middle, staged, rest⟩
  · rcases ends_sendRequest staged with ⟨decides, rfl⟩
    rcases decides.of_error with ⟨unsent, rtk⟩
    exact .inr (.inr ⟨rtk, fun answered => unsent answered.sends, ⟨fault, rfl⟩, rfl⟩)
  · exact .inr (.inl ⟨(ends_sendRequest staged).1.of_false, middle, same⟩)
  rcases ends_sendRequest staged with ⟨decides, rfl⟩
  have sent := decides.of_true
  rcases ends_stage rest with ⟨fault, answered, rfl⟩ | ⟨middle, answered, rfl, same⟩ |
    ⟨middle, answered, finishes⟩
  · rcases ends_receiveResponse_cases answered with ⟨decides, changed⟩
    rcases decides.of_error with ⟨refused, rtk⟩
    refine .inr (.inr ⟨rtk, ?_, ⟨fault, rfl⟩, ?_⟩)
    · intro answered
      exact refused ⟨answered.select, answered.accepts⟩
    · rcases changed with ⟨pending, _, rfl⟩ | ⟨other, _⟩
      · rfl
      · rw [rtk] at other
        cases other
  · exact .inr (.inl ⟨(ends_receiveResponse_cases answered).1.of_false, middle, same⟩)
  rcases (ends_receiveResponse_cases answered).1.of_true with ⟨select, accepts⟩
  rw [ends_modify_bind_iff] at finishes
  exact .inl ⟨⟨sent, select, accepts⟩, (ends_pure_iff.mp finishes).1⟩

theorem connect_ends {fdGuard : ℕ → Option ℕ} {base64Encode : Text → Text}
    {script : ConnectScript} {outcome : Except NtripError Bool}
    (unconnected : client.connected = false)
    (ends : Ends (connect fdGuard base64Encode script) client outcome final) :
    ConnectEnds fdGuard base64Encode client script outcome final := by
  unfold connect at ends
  rw [ends_get_bind_iff] at ends
  simp only [unconnected, Bool.false_eq_true, if_false] at ends
  rcases ends_stage ends with ⟨fault, staged, rfl⟩ | ⟨middle, staged, rfl, same⟩ |
    ⟨middle, staged, rest⟩
  · rcases ends_connectSocket staged with ⟨decides, left⟩
    rcases decides.of_error with ⟨none, rtk⟩
    exact .unreached rtk none fault rfl (left.resolve_left fun reached => none reached.1).2
  · exact .fails (ends_connectSocket staged).1.of_false middle same
  rcases ends_connectSocket staged with ⟨decides, ⟨reaches, fd, rfl⟩ | ⟨none, _⟩⟩
  rotate_left
  · exact absurd decides.of_true none
  rcases ends_stage rest with ⟨fault, secured, rfl⟩ | ⟨middle, secured, rfl, same⟩ |
    ⟨middle, secured, requests⟩
  · rcases ends_initSslIfNeeded secured with ⟨decides, held, context, rfl⟩
    rcases decides.of_error with ⟨insecure, rtk⟩
    exact .reached rtk reaches (fun succeeds => insecure succeeds.ssl) fault rfl fd rfl
  · exact .fails (ends_initSslIfNeeded secured).1.of_false middle same
  rcases ends_initSslIfNeeded secured with ⟨decides, held, context, rfl⟩
  have secure := decides.of_true
  rcases ends_requestStream requests with ⟨answered, returned⟩ | ⟨rtk, middle, same⟩ |
    ⟨rtk, unanswered, ⟨fault, thrown⟩, left⟩
  · exact .succeeds ⟨reaches, secure, answered⟩ returned
  · exact .fails rtk middle same
  · exact .reached rtk reaches (fun succeeds => unanswered succeeds.answered) fault thrown fd left

/-- Two stages decide together. -/
theorem decides_stage {stage rest : Attempted Bool} {first second : Prop}
    {outcome : Except NtripError Bool}
    (staged : ∀ {outcome middle}, Ends stage client outcome middle →
      Decides first client outcome)
    (goesOn : ∀ {middle}, Ends stage client (.ok true) middle → Ends rest middle outcome final →
      Decides second client outcome)
    (ends : Ends (do if ¬(← stage) then closeAndFail else rest) client outcome final) :
    Decides (first ∧ second) client outcome := by
  have stops : ∀ {result middle}, result ≠ .ok true → Ends stage client result middle →
      Decides (first ∧ second) client result := by
    intro result middle unsuccessful stageEnds
    rcases staged stageEnds with ⟨_, succeeded⟩ | ⟨fails, warns⟩
    · exact absurd succeeded unsuccessful
    · exact .inr ⟨fun both => fails both.1, warns⟩
  rcases ends_stage ends with ⟨fault, thrown, rfl⟩ | ⟨middle, failed, rfl, _⟩ |
    ⟨middle, succeeded, rest⟩
  · exact stops (by simp) thrown
  · exact stops (by simp) failed
  · have holds : first := (staged succeeded).of_true
    rcases goesOn succeeded rest with ⟨also, returned⟩ | ⟨fails, warns⟩
    · exact .inl ⟨⟨holds, also⟩, returned⟩
    · exact .inr ⟨fun both => fails both.2, warns⟩

theorem Decides.of_same {succeeds : Prop} {other : Client} {outcome : Except NtripError Bool}
    (decides : Decides succeeds other outcome) (same : other.config = client.config) :
    Decides succeeds client outcome := by
  unfold Decides Warns at decides ⊢
  rwa [same] at decides

theorem decides_requestStream {base64Encode : Text → Text} {script : ConnectScript}
    {outcome : Except NtripError Bool}
    (ends : Ends (requestStream base64Encode script) client outcome final) :
    Decides (script.Answered base64Encode client.config client.nmeaGga) client outcome := by
  unfold requestStream at ends
  have both := decides_stage (fun sends => (ends_sendRequest sends).1) (fun sends rest => by
    rw [(ends_sendRequest sends).2] at rest
    exact decides_stage (fun receives => (ends_receiveResponse_cases receives).1)
      (fun _ finishes => by
        rw [ends_modify_bind_iff] at finishes
        exact .inl ⟨trivial, (ends_pure_iff.mp finishes).1⟩) rest) ends
  rcases both with ⟨⟨sent, ⟨select, accepts⟩, _⟩, returned⟩ | ⟨fails, warns⟩
  · exact .inl ⟨⟨sent, select, accepts⟩, returned⟩
  · exact .inr ⟨fun answered =>
      fails ⟨answered.sends, ⟨answered.select, answered.accepts⟩, trivial⟩, warns⟩

/-- TLS, if it is used, and the request. -/
theorem decides_secured {base64Encode : Text → Text} {script : ConnectScript}
    {outcome : Except NtripError Bool}
    (ends : Ends (do
      if ¬(← initSslIfNeeded script.ssl) then closeAndFail
      else requestStream base64Encode script) client outcome final) :
    Decides ((client.config.isSsl = true → script.ssl.Succeeds client.config) ∧
      script.Answered base64Encode client.config client.nmeaGga) client outcome := by
  refine decides_stage (fun secures => (ends_initSslIfNeeded secures).1) ?_ ends
  intro middle secures requests
  rcases ends_initSslIfNeeded secures with ⟨_, held, context, rfl⟩
  exact (decides_requestStream requests).of_same rfl

/-- `Connect` succeeds when nothing that it calls fails, and else warns or throws. -/
theorem decides_connect {fdGuard : ℕ → Option ℕ} {base64Encode : Text → Text}
    {script : ConnectScript} {outcome : Except NtripError Bool}
    (unconnected : client.connected = false)
    (ends : Ends (connect fdGuard base64Encode script) client outcome final) :
    Decides (script.Succeeds base64Encode client) client outcome := by
  unfold connect at ends
  rw [ends_get_bind_iff] at ends
  simp only [unconnected, Bool.false_eq_true, if_false] at ends
  have all : Decides (Reaches script.resolution ∧
      (client.config.isSsl = true → script.ssl.Succeeds client.config) ∧
      script.Answered base64Encode client.config client.nmeaGga) client outcome := by
    refine decides_stage (fun connects => (ends_connectSocket connects).1) ?_ ends
    intro middle connects rest
    rcases ends_connectSocket connects with ⟨decides, ⟨_, fd, rfl⟩ | ⟨none, _⟩⟩
    · exact (decides_secured rest).of_same rfl
    · exact absurd decides.of_true none
  rcases all with ⟨⟨reaches, secure, answered⟩, returned⟩ | ⟨fails, warns⟩
  · exact .inl ⟨⟨reaches, secure, answered⟩, returned⟩
  · exact .inr ⟨fun succeeds => fails ⟨succeeds.reaches, succeeds.ssl, succeeds.answered⟩, warns⟩

end

/-! ## After a failure -/

/-- `Connect` leaves nothing behind when it does not succeed, if and only if RTK
is not required, or nothing fails, or no address is reached and no descriptor or
TLS object is left from before. -/
theorem clean_unless_connected_iff (fdGuard : ℕ → Option ℕ) (base64Encode : Text → Text)
    (client : Client) (unconnected : client.connected = false) (script : ConnectScript)
    (outcome : Except NtripError Bool) (final : Client)
    (ends : Ends (connect fdGuard base64Encode script) client outcome final) :
    (outcome ≠ .ok true → Clean final) ↔
      client.config.enableRtk = false ∨ script.Succeeds base64Encode client ∨
      ¬Reaches script.resolution ∧ client.ssl = false ∧ client.sslCtx = false ∧
        leftFd fdGuard client.socketFd script.resolution = none := by
  cases connect_ends unconnected ends with
  | succeeds succeeds result =>
      constructor
      · intro _
        exact .inr (.inl succeeds)
      · intro _ unsuccessful
        exact absurd result unsuccessful
  | fails rtk middle same =>
      constructor
      · intro _
        exact .inl rtk
      · intro _ _
        rw [same]
        exact ⟨rfl, rfl, rfl, rfl⟩
  | unreached rtk none fault result left =>
      have thrown : outcome ≠ .ok true := by
        rw [result]
        intro impossible
        cases impossible
      constructor
      · intro clean
        have cleaned := clean thrown
        rw [left] at cleaned
        exact .inr (.inr ⟨none, cleaned.ssl, cleaned.sslCtx, cleaned.socketFd⟩)
      · rintro (other | succeeds | ⟨_, ssl, sslCtx, socketFd⟩) _
        · rw [rtk] at other
          cases other
        · exact absurd succeeds.reaches none
        · rw [left]
          exact ⟨unconnected, socketFd, ssl, sslCtx⟩
  | reached rtk reaches unsuccessful fault result fd left =>
      have thrown : outcome ≠ .ok true := by
        rw [result]
        intro impossible
        cases impossible
      constructor
      · intro clean
        have cleaned := (clean thrown).socketFd
        rw [left] at cleaned
        cases cleaned
      · rintro (other | succeeds | ⟨none, _⟩) _
        · rw [rtk] at other
          cases other
        · exact absurd succeeds unsuccessful
        · exact absurd reaches none

/-- The caster is reached, but the request cannot be written. -/
def brokenPipe : ConnectScript where
  resolution := .ok [⟨some 7, true, .done⟩]
  ssl := ⟨true, true, true, true, true, [], true, true, true, true, true, [], [], []⟩
  sends := [⟨-1, false, "Broken pipe".toList⟩]
  select := 1
  reads := []

/-- The credentials of the sample options. -/
def encodedCredentials (_ : Text) : Text := "dXNlcjpzZWNyZXQ=".toList

theorem brokenPipe_clean_unless_connected_iff : ∃ outcome final,
    Ends (connect (fun _ => none) encodedCredentials brokenPipe) { config := casterOptions }
      outcome final ∧
    ((outcome ≠ .ok true → Clean final) ↔
      casterOptions.enableRtk = false ∨
      brokenPipe.Succeeds encodedCredentials { config := casterOptions } ∨
      ¬Reaches brokenPipe.resolution ∧ false = false ∧ false = false ∧
        leftFd (fun _ => none) none brokenPipe.resolution = none) := by
  have runs : ((connect (fun _ => none) encodedCredentials brokenPipe).run
      { config := casterOptions }).isSome = true := by
    decide +kernel
  rcases Option.isSome_iff_exists.mp runs with ⟨⟨outcome, final⟩, ends⟩
  exact ⟨outcome, final, ends, clean_unless_connected_iff (fun _ => none) encodedCredentials
    { config := casterOptions } rfl brokenPipe outcome final ends⟩

/-- With RTK the exception passes by `CloseConnection`. -/
theorem brokenPipe_keeps_socket : ∃ fault final,
    Ends (connect (fun _ => none) encodedCredentials brokenPipe)
      { config := { casterOptions with enableRtk := true } } (.error fault) final ∧
    final.socketFd = some 7 ∧ ¬Clean final := by
  have runs : ((connect (fun _ => none) encodedCredentials brokenPipe).run
      { config := { casterOptions with enableRtk := true } }).map
        (fun result => (result.1.toOption, result.2.socketFd)) = some (none, some 7) := by
    decide +kernel
  rcases Option.map_eq_some_iff.mp runs with ⟨⟨fault | value, final⟩, ends, same⟩
  · simp only [Prod.mk.injEq] at same
    refine ⟨fault, final, ends, same.2, ?_⟩
    intro clean
    rw [clean.socketFd] at same
    cases same.2
  · simp [Except.toOption] at same

/-! ## What `Connect` changes -/

/-- Only the connection itself and the pending data have changed. -/
structure Untouched (reads : List ReadOutcome) (client middle : Client) : Prop where
  config : middle.config = client.config
  flags : middle.flags = client.flags
  stats : middle.stats = client.stats
  pending : MayBePending client reads middle.pendingData

/-- How `Connect` ends, with what it changes. -/
def Concludes (reads : List ReadOutcome) (client : Client) (outcome : Except NtripError Bool)
    (final : Client) : Prop :=
  (∃ fault, outcome = .error fault) ∧ Untouched reads client final ∨
  outcome = .ok false ∧ (∃ middle, Untouched reads client middle ∧ final = closed middle) ∨
  outcome = .ok true ∧ ∃ middle, Untouched reads client middle ∧
    final = { middle with
      connected := true
      disconnected := false
      stats := resetStatistics middle.stats }

section

variable {reads : List ReadOutcome} {client middle final : Client}
  {outcome : Except NtripError Bool} {fdGuard : ℕ → Option ℕ} {base64Encode : Text → Text}
  {script : ConnectScript}

theorem Untouched.refl (client : Client) : Untouched reads client client :=
  ⟨rfl, rfl, rfl, .inl rfl⟩

theorem Untouched.trans (first : Untouched reads client middle)
    (second : Untouched reads middle final) : Untouched reads client final where
  config := second.config.trans first.config
  flags := second.flags.trans first.flags
  stats := second.stats.trans first.stats
  pending := by
    rcases second.pending with same | new
    · rw [same]
      exact first.pending
    · exact .inr new

theorem Untouched.connected (untouched : Untouched reads client middle)
    (unconnected : client.connected = false) : middle.connected = false :=
  (congrArg Prod.fst untouched.flags).trans unconnected

theorem Concludes.of_untouched (untouched : Untouched reads client middle)
    (concludes : Concludes reads middle outcome final) : Concludes reads client outcome final := by
  rcases concludes with ⟨thrown, rest⟩ | ⟨failed, last, rest, same⟩ | ⟨succeeded, last, rest, same⟩
  · exact .inl ⟨thrown, untouched.trans rest⟩
  · exact .inr (.inl ⟨failed, last, untouched.trans rest, same⟩)
  · exact .inr (.inr ⟨succeeded, last, untouched.trans rest, same⟩)

theorem Concludes.config (concludes : Concludes reads client outcome final) :
    final.config = client.config := by
  rcases concludes with ⟨_, untouched⟩ | ⟨_, middle, untouched, same⟩ | ⟨_, middle, untouched, same⟩
  · exact untouched.config
  · rw [same]
    exact untouched.config
  · rw [same]
    exact untouched.config

theorem concludes_stage {stage rest : Attempted Bool}
    (staged : ∀ {outcome middle}, Ends stage client outcome middle →
      Untouched reads client middle)
    (goesOn : ∀ {middle}, Untouched reads client middle → Ends rest middle outcome final →
      Concludes reads middle outcome final)
    (ends : Ends (do if ¬(← stage) then closeAndFail else rest) client outcome final) :
    Concludes reads client outcome final := by
  rcases ends_stage ends with ⟨fault, thrown, rfl⟩ | ⟨middle, failed, rfl, rfl⟩ |
    ⟨middle, succeeded, rest⟩
  · exact .inl ⟨⟨fault, rfl⟩, staged thrown⟩
  · exact .inr (.inl ⟨rfl, middle, staged failed, rfl⟩)
  · have untouched := staged succeeded
    exact (goesOn untouched rest).of_untouched untouched

theorem untouched_connectSocket {resolution : Except Text (List AddressOutcome)}
    (ends : Ends (connectSocket fdGuard resolution) client outcome final) :
    Untouched reads client final := by
  rcases ends_connectSocket ends with ⟨_, ⟨_, fd, rfl⟩ | ⟨_, rfl⟩⟩
  · exact ⟨rfl, rfl, rfl, .inl rfl⟩
  · exact ⟨rfl, rfl, rfl, .inl rfl⟩

theorem untouched_initSslIfNeeded {ssl : SslOutcome}
    (ends : Ends (initSslIfNeeded ssl) client outcome final) : Untouched reads client final := by
  rcases ends_initSslIfNeeded ends with ⟨_, held, context, rfl⟩
  exact ⟨rfl, rfl, rfl, .inl rfl⟩

theorem untouched_sendRequest {sends : List SendOutcome}
    (ends : Ends (sendRequest base64Encode sends) client outcome final) :
    Untouched reads client final := by
  rw [(ends_sendRequest ends).2]
  exact .refl client

theorem untouched_receiveResponse {select : ℤ} (unconnected : client.connected = false)
    (ends : Ends (receiveResponse select reads) client outcome final) :
    Untouched reads client final := by
  rcases (ends_receiveResponse_cases ends).2 with ⟨pending, may, rfl⟩ | ⟨_, rfl⟩
  · exact ⟨rfl, rfl, rfl, may⟩
  · refine ⟨rfl, ?_, rfl, .inl rfl⟩
    simp only [Client.flags, closed, unconnected]

theorem concludes_requestStream (unconnected : client.connected = false)
    (ends : Ends (requestStream base64Encode script) client outcome final) :
    Concludes script.reads client outcome final := by
  unfold requestStream at ends
  refine concludes_stage untouched_sendRequest ?_ ends
  intro middle untouched ends
  refine concludes_stage (untouched_receiveResponse (untouched.connected unconnected)) ?_ ends
  intro middle _ ends
  rw [ends_modify_bind_iff] at ends
  rcases ends_pure_iff.mp ends with ⟨returned, same⟩
  exact .inr (.inr ⟨returned, middle, .refl middle, same⟩)

/-- A call of `Connect` that finds no connection. -/
theorem concludes_connect (unconnected : client.connected = false)
    (ends : Ends (connect fdGuard base64Encode script) client outcome final) :
    Concludes script.reads client outcome final := by
  unfold connect at ends
  rw [ends_get_bind_iff] at ends
  simp only [unconnected, Bool.false_eq_true, if_false] at ends
  refine concludes_stage untouched_connectSocket ?_ ends
  intro middle untouched ends
  have stillUnconnected := untouched.connected unconnected
  refine concludes_stage untouched_initSslIfNeeded ?_ ends
  intro middle untouched ends
  exact concludes_requestStream (untouched.connected stillUnconnected) ends

end

end AsterxDriver.Ntrip
