import AsterxDriver.Foundation.Attempt
import AsterxDriver.Foundation.ByteString
import AsterxDriver.Foundation.DecimalText
import AsterxDriver.Foundation.Search

/-! # NTRIP client

The connection part of `ins401_ntrip_client.cpp`. What each system call and each
call of the TLS library does comes from outside. Log messages are left out;
`log_and_throw` throws its message. -/

namespace AsterxDriver.Ntrip

open Foundation

/-- `LoadConfig` sets the fields without a default. -/
structure Options where
  enableRtk : Bool
  host : Text
  port : ℤ
  mountPoint : Text
  username : Text
  password : Text
  isSsl : Bool := false
  verifySsl : Bool := false
  userAgent : Text := "NTRIP/2.0".toList
  autoReconnect : Bool := true
  /-- In seconds. -/
  reconnectInterval : ℤ := 5
  maxBufferSize : ℕ := 8 * 1024 * 1024
  maxQueueSize : ℕ := 1024
  maxReconnectAttempts : ℤ := 10
  exponentialBackoff : Bool := true

structure Statistics where
  bytesReceived : ℕ := 0
  messagesReceived : ℕ := 0
  messagesDropped : ℕ := 0
  reconnectCount : ℕ := 0
  crcErrors : ℕ := 0
  deriving DecidableEq, Repr

/-- A descriptor that is `-1` is `none`; of `ssl_` and `ssl_ctx_` only whether
they are empty is used. -/
structure Client where
  config : Options
  socketFd : Option ℕ := none
  sslCtx : Bool := false
  ssl : Bool := false
  connected : Bool := false
  disconnected : Bool := false
  receiving : Bool := false
  dataQueue : List (List Byte) := []
  pendingData : List Byte := []
  nmeaGga : Text := []
  stats : Statistics := {}
  rtcmBuffer : List Byte := []
  rtcmSyncLostCount : ℕ := 0

/-- The flags that the threads share. -/
def Client.flags (client : Client) : Bool × Bool × Bool :=
  (client.connected, client.disconnected, client.receiving)

structure NtripError where
  what : Text
  deriving DecidableEq, Repr

abbrev Attempted := Attempt Client NtripError

def logErrorOrWarn (message : Text) : Attempted Unit := do
  if (← get).config.enableRtk then throw ⟨message⟩

/-- The end of a function that fails. -/
def failWith (message : Text) : Attempted Bool := do
  logErrorOrWarn message
  return false

def closed (client : Client) : Client :=
  { client with connected := false, ssl := false, sslCtx := false, socketFd := none }

def closeConnection : Attempted Unit := modify closed

def closeAndFail : Attempted Bool := do
  closeConnection
  return false

/-! ## Sockets -/

/-- `connect` on a socket that does not block. -/
inductive ConnectResult
  | done
  | inProgress (select : ℤ) (isSet : Bool) (soError : ℤ)
  | failed
  deriving DecidableEq, Repr

def ConnectResult.connects : ConnectResult → Bool
  | .done => true
  | .inProgress select isSet soError => 0 < select && isSet && soError == 0
  | .failed => false

/-- What happens with one address: the new socket if there is one, whether all
its options can be set, and the result of `connect`. -/
structure AddressOutcome where
  socket : Option ℕ
  optionsSet : Bool
  connect : ConnectResult

/-- An address to which a connection is made. -/
def AddressOutcome.Reached (address : AddressOutcome) : Prop :=
  address.socket.isSome ∧ address.optionsSet ∧ address.connect.connects

section

variable (fdGuard : ℕ → Option ℕ)

/-- `FdGuard` closes the socket when an option cannot be set. Its code is not in
this repository; `fdGuard` is what it leaves in the variable that it guards. -/
def createSocket (address : AddressOutcome) : Attempted Bool := do
  modify fun client => { client with socketFd := address.socket }
  match address.socket with
  | none => return false
  | some fd =>
      if address.optionsSet then return true
      else
        modify fun client => { client with socketFd := fdGuard fd }
        return false

def tryAddresses : List AddressOutcome → Attempted Bool
  | [] => return false
  | address :: later => do
      if ← createSocket fdGuard address then
        if address.connect.connects then return true
        else
          modify fun client => { client with socketFd := none }
          tryAddresses later
      else tryAddresses later

/-- The addresses that the host name resolves to, or an error text. -/
def connectSocket (resolution : Except Text (List AddressOutcome)) : Attempted Bool := do
  let config := (← get).config
  match resolution with
  | .error reason =>
      failWith ("Failed to resolve hostname '".toList ++ config.host ++ "': ".toList ++ reason)
  | .ok addresses =>
      if ← tryAddresses fdGuard addresses then return true
      else
        failWith ("Unable to connect to host '".toList ++ config.host ++ "' on port ".toList ++
          (toString config.port).toList)

end

/-! ## TLS -/

/-- Which calls succeed, in the order of `InitSSL`, and the error texts. -/
structure SslOutcome where
  getFlags : Bool
  wasNonblock : Bool
  setBlocking : Bool
  newContext : Bool
  defaultPaths : Bool
  /-- For each known location whether it can be read and loaded. -/
  candidates : List Bool
  newSsl : Bool
  setSni : Bool
  setHost : Bool
  setFd : Bool
  handshake : Bool
  errnoText : Text
  sslErrorText : Text
  handshakeText : Text

def initSsl (outcome : SslOutcome) : Attempted Bool := do
  let config := (← get).config
  if ¬outcome.getFlags then failWith ("F_GETFL failed: ".toList ++ outcome.errnoText)
  else if outcome.wasNonblock ∧ ¬outcome.setBlocking then
    failWith ("Failed to set blocking mode: ".toList ++ outcome.errnoText)
  else
    modify fun client => { client with sslCtx := outcome.newContext }
    if ¬outcome.newContext then
      failWith ("Failed to create SSL context: ".toList ++ outcome.sslErrorText)
    else if config.verifySsl ∧ ¬outcome.defaultPaths ∧ ¬outcome.candidates.any id then
      failWith "Failed to load CA trust store from any known location".toList
    else
      modify fun client => { client with ssl := outcome.newSsl }
      if ¬outcome.newSsl then
        failWith ("Failed to create SSL connection: ".toList ++ outcome.sslErrorText)
      else if config.host ≠ [] ∧ ¬outcome.setSni then
        failWith "Failed to set SNI hostname".toList
      else if config.host ≠ [] ∧ config.verifySsl ∧ ¬outcome.setHost then
        failWith "Failed to set hostname for verification".toList
      else if ¬outcome.setFd then
        failWith ("Failed to set SSL socket: ".toList ++ outcome.sslErrorText)
      else if ¬outcome.handshake then
        failWith ("SSL handshake failed: ".toList ++ outcome.handshakeText)
      else return true

/-- The TLS stage, which succeeds when TLS is not used. -/
def initSslIfNeeded (outcome : SslOutcome) : Attempted Bool := do
  if (← get).config.isSsl then initSsl outcome else return true

/-! ## Request and response -/

def buildHttpRequest (base64Encode : Text → Text) (config : Options) (nmeaGga path : Text) :
    Text :=
  "GET ".toList ++ path ++ " HTTP/1.1\r\n".toList ++
    "Host: ".toList ++ config.host ++ ":".toList ++ (toString config.port).toList ++
    "\r\n".toList ++
    "User-Agent: ".toList ++ config.userAgent ++ "\r\n".toList ++
    "Accept: */*\r\n".toList ++
    "Connection: keep-alive\r\n".toList ++
    "Ntrip-Version: Ntrip/2.0\r\n".toList ++
    (if config.username ≠ [] ∧ config.password ≠ [] then
      "Authorization: Basic ".toList ++
        base64Encode (config.username ++ ":".toList ++ config.password) ++ "\r\n".toList
    else []) ++
    (if nmeaGga ≠ [] then "Ntrip-GGA: ".toList ++ nmeaGga ++ "\r\n".toList else []) ++
    "\r\n".toList

/-- The result of a write. An error is temporary when the code that comes with
it is one of those that are not reported. -/
structure SendOutcome where
  result : ℤ
  temporary : Bool
  code : Text

def sendData (outcome : SendOutcome) : Attempted ℤ := do
  if (← get).ssl then
    if outcome.result ≤ 0 ∧ ¬outcome.temporary then
      logErrorOrWarn ("SSL write error: ".toList ++ outcome.code)
  else if outcome.result < 0 ∧ ¬outcome.temporary then
    logErrorOrWarn ("Socket send error: ".toList ++ outcome.code)
  return outcome.result

/-- `SendRequest` with the number of bytes that are left. -/
def sendRemaining : List SendOutcome → ℕ → Attempted Bool
  | _, 0 => return true
  | [], _ + 1 => Attempt.wait
  | outcome :: later, remaining + 1 => do
      let sent ← sendData outcome
      if sent ≤ 0 then failWith "Failed to send request".toList
      else sendRemaining later (remaining + 1 - sent.toNat)

def sendRequest (base64Encode : Text → Text) (outcomes : List SendOutcome) :
    Attempted Bool := do
  let client ← get
  let request := buildHttpRequest base64Encode client.config client.nmeaGga
    ("/".toList ++ client.config.mountPoint)
  sendRemaining outcomes request.length

/-- The result of a read: some bytes, zero, or negative. -/
inductive ReadOutcome
  | data (first : Byte) (later : List Byte)
  | zero (temporary : Bool) (code : Text)
  | negative (temporary : Bool) (code : Text)

def receiveData (outcome : ReadOutcome) : Attempted ReadOutcome := do
  let ssl := (← get).ssl
  match outcome with
  | .data _ _ => return outcome
  | .zero temporary code =>
      if ssl ∧ ¬temporary then logErrorOrWarn ("SSL read error: ".toList ++ code)
      return outcome
  | .negative temporary code =>
      if ¬temporary then
        logErrorOrWarn ((if ssl then "SSL read error: ".toList
          else "Socket recv error: ".toList) ++ code)
      return outcome

def bytesOf (text : String) : List Byte := text.toList.map fun char => BitVec.ofNat 8 char.toNat

/-- The characters before the first zero. -/
def cString (bytes : List Byte) : List Byte := bytes.takeWhile (· ≠ 0)

def headerTerminator : List Byte := bytesOf "\r\n\r\n"

/-- Reads until the response has a terminator. The buffer is appended as a C
string. -/
def receiveHeader (reads : List ReadOutcome) (response : List Byte) :
    Attempted (Option (List Byte)) := do
  if occurs headerTerminator response then return some response
  else
    match reads with
    | [] => Attempt.wait
    | outcome :: later =>
        match ← receiveData outcome with
        | .data first bytes => receiveHeader later (response ++ cString (first :: bytes))
        | _ =>
            logErrorOrWarn "Failed to receive response".toList
            return none

/-- What `find` returns for a response that has a terminator. -/
def headerEnd (response : List Byte) : ℕ := (search headerTerminator response).getD 0

def isOk (header : List Byte) : Bool :=
  occurs (bytesOf "200 OK") header || occurs (bytesOf "ICY 200 OK") header

def checkStatus (header : List Byte) : Attempted Bool := do
  if isOk header then return true
  else if occurs (bytesOf "401") header then failWith "Authentication failed".toList
  else if occurs (bytesOf "404") header then
    failWith ("Mount point not found: ".toList ++ (← get).config.mountPoint)
  else failWith "HTTP error response".toList

def receiveResponse (select : ℤ) (reads : List ReadOutcome) : Attempted Bool := do
  if select ≤ 0 then
    logErrorOrWarn (if select = 0 then "Timeout waiting for response".toList
      else "Select error".toList)
    closeAndFail
  else
    match ← receiveHeader reads [] with
    | none => return false
    | some response =>
        let bodyStart := headerEnd response + 4
        if response.length > bodyStart then
          modify fun client => { client with pendingData := response.drop bodyStart }
        checkStatus (response.take bodyStart)

/-! ## Connect -/

/-- The outcomes of all calls that one `Connect` makes. -/
structure ConnectScript where
  resolution : Except Text (List AddressOutcome)
  ssl : SslOutcome
  sends : List SendOutcome
  select : ℤ
  reads : List ReadOutcome

def resetStatistics (stats : Statistics) : Statistics :=
  { stats with bytesReceived := 0, messagesReceived := 0, messagesDropped := 0, crcErrors := 0 }

/-- The part of `Connect` behind the connection of the socket. -/
def requestStream (base64Encode : Text → Text) (script : ConnectScript) : Attempted Bool := do
  if ¬(← sendRequest base64Encode script.sends) then closeAndFail
  else if ¬(← receiveResponse script.select script.reads) then closeAndFail
  else
    modify fun client => { client with
      connected := true
      disconnected := false
      stats := resetStatistics client.stats }
    return true

def connect (fdGuard : ℕ → Option ℕ) (base64Encode : Text → Text) (script : ConnectScript) :
    Attempted Bool := do
  if (← get).connected then return true
  else if ¬(← connectSocket fdGuard script.resolution) then closeAndFail
  else if ¬(← initSslIfNeeded script.ssl) then closeAndFail
  else requestStream base64Encode script

/-! ## Receiving -/

/-- What `StartReceiving` does with the data when it launches the threads. The
body that came with the response header goes into the queue first. -/
def startedReceiving (client : Client) : Client :=
  { client with
    receiving := true
    dataQueue := if client.pendingData ≠ [] then [client.pendingData] else []
    pendingData := []
    rtcmBuffer := []
    rtcmSyncLostCount := 0 }

end AsterxDriver.Ntrip
