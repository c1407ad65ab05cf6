import AsterxDriver.Foundation.Checked
import AsterxDriver.Ntrip.ConnectCleanup

/-! # The source table

`GetSourceTable` of `ins401_ntrip_client.cpp` asks the caster for its mount points. The
functions `SplitString` and `std::stod` are parameters: the first is not in this
repository, and what the second makes of a text is not used here. -/

namespace AsterxDriver.Ntrip

open Foundation Attempt

/-! ## The table -/

/-- The fields that are read from the table. -/
structure MountPoint (D : Type) where
  mountPoint : Text
  city : Text
  dataFormat : Text
  formatDetails : Text
  carrier : ℤ
  navSystem : Text
  network : Text
  country : Text
  latitude : D
  longitude : D
  deriving DecidableEq, Repr

/-- `std::stoi`. Its two exceptions have the same text. -/
def stoi (text : Text) : Except NtripError ℤ :=
  match extractInt (text.dropWhile isSpace) with
  | some value => .ok value
  | none => .error ⟨"stoi".toList⟩

def textOf (bytes : List Byte) : Text := bytes.map fun byte => Char.ofNat byte.toNat

/-- The lines of an answer that describe a stream. -/
def streamLines (response : List Byte) : List Text :=
  (getlines '\n' (textOf response)).filter fun line => "STR;".toList.isPrefixOf line

/-- The outcomes of all calls that one `GetSourceTable` makes. -/
structure TableScript where
  resolution : Except Text (List AddressOutcome)
  ssl : SslOutcome
  send : Text → SendOutcome
  /-- The results of `select`, each with that of the read behind it. Then `select` times
  out. -/
  rounds : List (ℤ × ReadOutcome)

section

variable {D : Type} [Zero D] (stod : Text → Except NtripError D)

/-- A number is zero when its field is absent. -/
def parseField {N : Type} [Zero N] (read : Text → Except NtripError N) (field : Option Text) :
    Except NtripError N :=
  match field with
  | none => .ok 0
  | some text => read text

def parseMountPoint (fields : List Text) : Except NtripError (MountPoint D) := do
  let carrier ← parseField stoi fields[5]?
  let latitude ← parseField stod fields[9]?
  let longitude ← parseField stod fields[10]?
  return {
    mountPoint := fields.getD 1 []
    city := fields.getD 2 []
    dataFormat := fields.getD 3 []
    formatDetails := fields.getD 4 []
    carrier := carrier
    navSystem := fields.getD 6 []
    network := fields.getD 7 []
    country := fields.getD 8 []
    latitude := latitude
    longitude := longitude }

variable (splitString : Text → Char → List Text)

def parseLine (line : Text) : Except NtripError (MountPoint D) :=
  parseMountPoint stod (splitString line ';')

/-- The loop that reads until the connection is closed or nothing comes any more. -/
def readAnswer : List (ℤ × ReadOutcome) → List Byte → Attempted (List Byte)
  | [], response => return response
  | (select, outcome) :: later, response => do
      if select ≤ 0 then return response
      else
        match ← receiveData outcome with
        | .data first bytes => readAnswer later (response ++ first :: bytes)
        | _ => return response

variable (fdGuard : ℕ → Option ℕ) (base64Encode : Text → Text)

/-- The part behind the connection of the socket. -/
def requestTable (script : TableScript) : Attempted (List (MountPoint D)) := do
  if ¬(← initSslIfNeeded script.ssl) then
    closeConnection
    return []
  else
    let client ← get
    let request := buildHttpRequest base64Encode client.config client.nmeaGga "/".toList
    if (← sendData (script.send request)) ≤ 0 then
      closeConnection
      return []
    else
      let response ← readAnswer script.rounds []
      match (streamLines response).mapM (parseLine stod splitString) with
      | .error fault => throw fault
      | .ok table =>
          closeConnection
          return table

def getSourceTable (script : TableScript) : Attempted (List (MountPoint D)) := do
  if ¬(← connectSocket fdGuard script.resolution) then return []
  else requestTable stod splitString base64Encode script

end

/-! ## What is read -/

/-- The bytes that arrive before the reading stops. -/
def answerOf : List (ℤ × ReadOutcome) → List Byte
  | (select, .data first bytes) :: later =>
      if select ≤ 0 then [] else first :: bytes ++ answerOf later
  | _ => []

section

variable {client final : Client}

/-- The answer does not depend on how it is cut into reads. -/
theorem ends_readAnswer {rounds : List (ℤ × ReadOutcome)} {response : List Byte}
    {outcome : Except NtripError (List Byte)}
    (ends : Ends (readAnswer rounds response) client outcome final) :
    final = client ∧ (outcome = .ok (response ++ answerOf rounds) ∨
      client.config.enableRtk = true ∧ ∃ fault, outcome = .error fault) := by
  induction rounds generalizing response with
  | nil =>
      rcases ends_pure_iff.mp ends with ⟨returned, same⟩
      refine ⟨same, .inl ?_⟩
      simpa [answerOf] using returned
  | cons round later induction =>
      rcases round with ⟨select, read⟩
      rcases ends_ite ends with ⟨stops, ends⟩ | ⟨goesOn, ends⟩
      · rcases ends_pure_iff.mp ends with ⟨returned, same⟩
        refine ⟨same, .inl ?_⟩
        rw [returned]
        cases read <;> simp [answerOf, stops]
      · rcases ends_bind_iff.mp ends with ⟨fault, received, rfl⟩ | ⟨result, middle, received, rest⟩
        · rcases ends_receiveData_cases received with ⟨same, impossible | ⟨_, rtk, _⟩⟩
          · cases impossible
          · exact ⟨same, .inr ⟨rtk, fault, rfl⟩⟩
        · rcases ends_receiveData_cases received with ⟨rfl, returned | ⟨_, _, _, impossible⟩⟩
          · cases returned
            cases read with
            | data first bytes =>
                rcases induction rest with ⟨same, whole | threw⟩
                · refine ⟨same, .inl ?_⟩
                  rw [whole, answerOf, if_neg goesOn]
                  simp
                · exact ⟨same, .inr threw⟩
            | zero _ _ | negative _ _ =>
                rcases ends_pure_iff.mp rest with ⟨returned, same⟩
                refine ⟨same, .inl ?_⟩
                rw [returned, answerOf, List.append_nil]
                simp
          · cases impossible

end

/-! ## How the call ends -/

/-- The caster gets the request, or a part of it. -/
structure TableScript.Asks (base64Encode : Text → Text) (client : Client)
    (script : TableScript) : Prop where
  secured : client.config.isSsl = true → script.ssl.Succeeds client.config
  sent : 0 < (script.send
    (buildHttpRequest base64Encode client.config client.nmeaGga "/".toList)).result

section

variable {D : Type} [Zero D] (stod : Text → Except NtripError D)
variable (splitString : Text → Char → List Text) (fdGuard : ℕ → Option ℕ)
variable (base64Encode : Text → Text) (script : TableScript) (client : Client)

/-- How the call ends. -/
inductive TableEnds : Except NtripError (List (MountPoint D)) → Client → Prop
  | unreached (unreached : ¬Reaches script.resolution) :
      TableEnds (.ok []) { client with
        socketFd := leftFd fdGuard client.socketFd script.resolution }
  | unreachedThrows {fault : NtripError} {final : Client}
      (unreached : ¬Reaches script.resolution) (rtk : client.config.enableRtk = true) :
      TableEnds (.error fault) final
  | unasked (reaches : Reaches script.resolution)
      (unasked : ¬script.Asks base64Encode client) : TableEnds (.ok []) (closed client)
  | throws {fault : NtripError} {final : Client} {fd : ℕ} (rtk : client.config.enableRtk = true)
      (kept : final.socketFd = some fd) : TableEnds (.error fault) final
  | unparsed {fault : NtripError} {final : Client} {fd : ℕ}
      (reaches : Reaches script.resolution) (asks : script.Asks base64Encode client)
      (kept : final.socketFd = some fd)
      (unparsed : (streamLines (answerOf script.rounds)).mapM (parseLine stod splitString) =
        .error fault) : TableEnds (.error fault) final
  | listed {table : List (MountPoint D)} (reaches : Reaches script.resolution)
      (asks : script.Asks base64Encode client)
      (parsed : (streamLines (answerOf script.rounds)).mapM (parseLine stod splitString) =
        .ok table) : TableEnds (.ok table) (closed client)

end

section

variable {client final : Client}

theorem ends_closeConnection {value : α} {outcome : Except NtripError α}
    (ends : Ends (do closeConnection; return value) client outcome final) :
    outcome = .ok value ∧ final = closed client := by
  rw [closeConnection, ends_modify_bind_iff] at ends
  exact ends_pure_iff.mp ends

variable {D : Type} [Zero D] {stod : Text → Except NtripError D}
variable {splitString : Text → Char → List Text} {base64Encode : Text → Text}
variable {fdGuard : ℕ → Option ℕ} {script : TableScript}
variable {outcome : Except NtripError (List (MountPoint D))}

/-- The request throws and keeps the descriptor, or returns and closes it. -/
theorem ends_requestTable
    (ends : Ends (requestTable stod splitString base64Encode script) client outcome final) :
    (∃ fault, outcome = .error fault ∧ final.socketFd = client.socketFd ∧
      (client.config.enableRtk = true ∨ script.Asks base64Encode client ∧
        (streamLines (answerOf script.rounds)).mapM (parseLine stod splitString) =
          .error fault)) ∨
    final = closed client ∧
      (outcome = .ok [] ∧ ¬script.Asks base64Encode client ∨
        ∃ table, outcome = .ok table ∧ script.Asks base64Encode client ∧
          (streamLines (answerOf script.rounds)).mapM (parseLine stod splitString) =
            .ok table) := by
  unfold requestTable at ends
  rcases ends_bind_iff.mp ends with ⟨fault, staged, rfl⟩ | ⟨secured, middle, staged, ends⟩
  · rcases ends_initSslIfNeeded staged with ⟨decides, held, context, rfl⟩
    exact .inl ⟨fault, rfl, rfl, .inl decides.of_error.2⟩
  rcases ends_initSslIfNeeded staged with ⟨decides, held, context, rfl⟩
  cases secured with
  | false =>
      rcases ends_closeConnection ends with ⟨rfl, rfl⟩
      refine .inr ⟨rfl, .inl ⟨rfl, ?_⟩⟩
      intro asks
      rcases decides with ⟨_, impossible⟩ | ⟨fails, _⟩
      · cases impossible
      · exact fails asks.secured
  | true =>
      have secured := decides.of_true
      simp only [not_true_eq_false, if_false] at ends
      rw [ends_get_bind_iff] at ends
      rcases ends_bind_iff.mp ends with ⟨fault, sent, rfl⟩ | ⟨result, after, sent, ends⟩
      · rcases ends_sendData sent with ⟨rfl, impossible | ⟨_, rtk, _⟩⟩
        · cases impossible
        · exact .inl ⟨fault, rfl, rfl, .inl rtk⟩
      rcases ends_sendData sent with ⟨rfl, returned | ⟨_, _, _, impossible⟩⟩
      · cases returned
        rcases ends_ite ends with ⟨failed, ends⟩ | ⟨sent, ends⟩
        · rcases ends_closeConnection ends with ⟨rfl, rfl⟩
          exact .inr ⟨rfl, .inl ⟨rfl, fun asks => absurd asks.sent (not_lt.mpr failed)⟩⟩
        · have asks : script.Asks base64Encode client := ⟨secured, not_le.mp sent⟩
          rcases ends_bind_iff.mp ends with ⟨fault, reads, rfl⟩ | ⟨response, last, reads, ends⟩
          · rcases ends_readAnswer reads with ⟨rfl, impossible | ⟨rtk, _⟩⟩
            · cases impossible
            · exact .inl ⟨fault, rfl, rfl, .inl rtk⟩
          · rcases ends_readAnswer reads with ⟨rfl, whole | ⟨_, _, impossible⟩⟩
            · cases whole
              rw [List.nil_append] at ends
              cases parsed : (streamLines (answerOf script.rounds)).mapM
                  (parseLine stod splitString) with
              | error fault =>
                  rw [parsed] at ends
                  rcases ends_throw_iff.mp ends with ⟨rfl, rfl⟩
                  exact .inl ⟨fault, rfl, rfl, .inr ⟨asks, rfl⟩⟩
              | ok table =>
                  rw [parsed] at ends
                  rcases ends_closeConnection ends with ⟨rfl, rfl⟩
                  exact .inr ⟨rfl, .inr ⟨table, rfl, asks, rfl⟩⟩
            · cases impossible
      · cases impossible

theorem ends_getSourceTable
    (ends : Ends (getSourceTable stod splitString fdGuard base64Encode script) client outcome
      final) :
    TableEnds stod splitString fdGuard base64Encode script client outcome final := by
  unfold getSourceTable at ends
  rcases ends_bind_iff.mp ends with ⟨fault, staged, rfl⟩ | ⟨reached, middle, staged, ends⟩
  · rcases (ends_connectSocket staged).1.of_error with ⟨unreached, rtk⟩
    exact .unreachedThrows unreached rtk
  rcases ends_connectSocket staged with ⟨decides, ⟨reaches, fd, rfl⟩ | ⟨unreached, rfl⟩⟩
  · cases reached with
    | false =>
        rcases decides with ⟨_, impossible⟩ | ⟨unreached, _⟩
        · cases impossible
        · exact absurd reaches unreached
    | true =>
        -- The request depends on the options only, which the new socket leaves as they are.
        rcases ends_requestTable ends with ⟨fault, rfl, kept, rtk | ⟨asks, unparsed⟩⟩ |
          ⟨rfl, ⟨rfl, unasked⟩ | ⟨table, rfl, asks, parsed⟩⟩
        · exact .throws rtk kept
        · exact .unparsed reaches ⟨asks.secured, asks.sent⟩ kept unparsed
        · exact .unasked reaches fun asks => unasked ⟨asks.secured, asks.sent⟩
        · exact .listed reaches ⟨asks.secured, asks.sent⟩ parsed
  · cases reached with
    | true => exact absurd decides.of_true unreached
    | false =>
        rcases ends_pure_iff.mp ends with ⟨rfl, rfl⟩
        exact .unreached unreached

end

/-! ## The call ends -/

/-- The computation ends from every state. -/
def AlwaysEnds (program : Attempted α) : Prop := EndsWithin (fun _ => True) program

theorem alwaysEnds_logErrorOrWarn (message : Text) : AlwaysEnds (logErrorOrWarn message) :=
  endsWithin_get_bind fun _ _ => .ite (endsWithin_throw _) (endsWithin_pure _)

theorem alwaysEnds_failWith (message : Text) : AlwaysEnds (failWith message) :=
  (alwaysEnds_logErrorOrWarn message).bind fun _ => endsWithin_pure _

theorem alwaysEnds_modify (change : Client → Client) :
    AlwaysEnds (modify change : Attempted PUnit) :=
  endsWithin_modify fun _ _ => trivial

theorem alwaysEnds_createSocket (fdGuard : ℕ → Option ℕ) (address : AddressOutcome) :
    AlwaysEnds (createSocket fdGuard address) := by
  refine (alwaysEnds_modify _).bind fun _ => ?_
  cases address.socket with
  | none => exact endsWithin_pure _
  | some fd =>
      exact .ite (endsWithin_pure _) ((alwaysEnds_modify _).bind fun _ => endsWithin_pure _)

theorem alwaysEnds_tryAddresses (fdGuard : ℕ → Option ℕ) (addresses : List AddressOutcome) :
    AlwaysEnds (tryAddresses fdGuard addresses) := by
  induction addresses with
  | nil => exact endsWithin_pure _
  | cons address later induction =>
      refine (alwaysEnds_createSocket fdGuard address).bind fun _ => .ite ?_ induction
      exact .ite (endsWithin_pure _) ((alwaysEnds_modify _).bind fun _ => induction)

theorem alwaysEnds_connectSocket (fdGuard : ℕ → Option ℕ)
    (resolution : Except Text (List AddressOutcome)) :
    AlwaysEnds (connectSocket fdGuard resolution) := by
  refine endsWithin_get_bind fun _ _ => ?_
  cases resolution with
  | error reason => exact alwaysEnds_failWith _
  | ok addresses =>
      exact (alwaysEnds_tryAddresses fdGuard addresses).bind fun _ =>
        .ite (endsWithin_pure _) (alwaysEnds_failWith _)

theorem alwaysEnds_initSsl (ssl : SslOutcome) : AlwaysEnds (initSsl ssl) := by
  refine endsWithin_get_bind fun config _ => ?_
  refine .ite (alwaysEnds_failWith _) (.ite (alwaysEnds_failWith _) ?_)
  refine (alwaysEnds_modify _).bind fun _ => ?_
  refine .ite (alwaysEnds_failWith _) (.ite (alwaysEnds_failWith _) ?_)
  refine (alwaysEnds_modify _).bind fun _ => ?_
  refine .ite (alwaysEnds_failWith _) (.ite (alwaysEnds_failWith _) ?_)
  refine .ite (alwaysEnds_failWith _) (.ite (alwaysEnds_failWith _) ?_)
  exact .ite (alwaysEnds_failWith _) (endsWithin_pure _)

/-- A message that is logged in some cases, before a value is returned. -/
theorem alwaysEnds_logged {condition : Prop} [Decidable condition] (message : Text) (value : α) :
    AlwaysEnds (do
      if condition then logErrorOrWarn message
      return value) :=
  .ite ((alwaysEnds_logErrorOrWarn message).bind fun _ => endsWithin_pure _) (endsWithin_pure _)

theorem alwaysEnds_sendData (send : SendOutcome) : AlwaysEnds (sendData send) :=
  endsWithin_get_bind fun _ _ => .ite (alwaysEnds_logged _ _) (alwaysEnds_logged _ _)

theorem alwaysEnds_receiveData (read : ReadOutcome) : AlwaysEnds (receiveData read) := by
  refine endsWithin_get_bind fun _ _ => ?_
  cases read with
  | data first bytes => exact endsWithin_pure _
  | zero temporary code => exact alwaysEnds_logged _ _
  | negative temporary code => exact alwaysEnds_logged _ _

theorem alwaysEnds_readAnswer (rounds : List (ℤ × ReadOutcome)) (response : List Byte) :
    AlwaysEnds (readAnswer rounds response) := by
  induction rounds generalizing response with
  | nil => exact endsWithin_pure _
  | cons round later induction =>
      rcases round with ⟨select, read⟩
      refine .ite (endsWithin_pure _) ((alwaysEnds_receiveData read).bind fun result => ?_)
      cases result with
      | data first bytes => exact induction _
      | zero _ _ | negative _ _ => exact endsWithin_pure _

section

variable {D : Type} [Zero D]

theorem alwaysEnds_requestTable (stod : Text → Except NtripError D)
    (splitString : Text → Char → List Text) (base64Encode : Text → Text)
    (script : TableScript) :
    AlwaysEnds (requestTable stod splitString base64Encode script) := by
  have closes : ∀ table : List (MountPoint D),
      AlwaysEnds (do closeConnection; return table) :=
    fun _ => (alwaysEnds_modify _).bind fun _ => endsWithin_pure _
  have secures : AlwaysEnds (initSslIfNeeded script.ssl) :=
    endsWithin_get_bind fun _ _ => .ite (alwaysEnds_initSsl _) (endsWithin_pure _)
  refine secures.bind fun _ => .ite (closes []) (endsWithin_get_bind fun _ _ => ?_)
  refine (alwaysEnds_sendData _).bind fun _ => .ite (closes []) ?_
  refine (alwaysEnds_readAnswer _ _).bind fun response => ?_
  cases (streamLines response).mapM (parseLine stod splitString) with
  | error fault => exact endsWithin_throw fault
  | ok table => exact closes table

end

def readOf (text : String) : ReadOutcome :=
  match bytesOf text with
  | [] => .zero true []
  | first :: later => .data first later

/-- Two streams, in an answer that is cut within a line. -/
def casterTable : TableScript where
  resolution := .ok [⟨some 7, true, .done⟩]
  ssl := ⟨true, true, true, true, true, [], true, true, true, true, true, [], [], []⟩
  send := fun request => ⟨request.length, true, []⟩
  rounds := [(1, readOf "SOURCETABLE 200 OK\r\n\r\nSTR;NORD;Kiel;RTCM 3;;2;GPS;V"),
    (1, readOf "RS;DEU;54;10\r\nSTR;SUED;Ulm\r\nENDSOURCETABLE\r\n"), (1, .zero true [])]

end AsterxDriver.Ntrip
