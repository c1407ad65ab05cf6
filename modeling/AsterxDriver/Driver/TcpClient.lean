import AsterxDriver.Foundation.Search

/-! # TCP client

`tcp_client.hpp` and `tcp_client.cpp`. The outcome of each system call and the
time left before a deadline come from outside. -/

namespace AsterxDriver.Driver

open Foundation

/-- `errno`; only an interruption is told apart. -/
inductive Errno
  | eintr
  | other (code : Nat)
  deriving DecidableEq, Repr

structure TcpError where
  what : String
  deriving DecidableEq, Repr

/-- What `poll` and then `recv` do in one call of `read_some`. No bytes at all
mean that the peer has closed the connection. -/
inductive ReadEvent (β : Type)
  | pollFailed (errno : Errno)
  | pollTimeout
  | recvFailed (errno : Errno)
  | received (bytes : List β)
  deriving DecidableEq, Repr

inductive SendEvent
  | failed (errno : Errno)
  | sent (count : Nat)
  deriving DecidableEq, Repr

/-- A socket whose state is a `σ`. -/
structure Network (σ β : Type) where
  /-- The milliseconds before the deadline of the call that is under way. -/
  remaining : σ → Option Nat
  /-- `send` of these bytes. -/
  send : σ → List β → SendEvent × σ
  /-- `poll` and `recv` for up to this number of bytes. -/
  read : σ → Nat → ReadEvent β × σ

structure TcpClient where
  fd : Int

namespace TcpClient

variable (client : TcpClient) (errnoString : Errno → String)

/-- An interrupted call returns as if there were no bytes. -/
def readSome (ioTimeout : Nat) (event : ReadEvent β) : Except TcpError (List β) :=
  if client.fd < 0 then .error ⟨"read_some: socket not open"⟩
  else
    match event with
    | .pollFailed .eintr => .ok []
    | .pollFailed errno => .error ⟨"poll() failed: " ++ errnoString errno⟩
    | .pollTimeout => .error ⟨"read timeout (" ++ toString ioTimeout ++ " ms)"⟩
    | .recvFailed .eintr => .ok []
    | .recvFailed errno => .error ⟨"recv() failed: " ++ errnoString errno⟩
    | .received bytes => .ok bytes

/-- The loop of `write_all` for at most `calls` calls of `send`. -/
def writeAllLoop (network : Network σ β) :
    Nat → List β → σ → Option (Except TcpError Unit × σ)
  | _, [], state => some (.ok (), state)
  | 0, _ :: _, _ => none
  | calls + 1, first :: later, state =>
      match network.send state (first :: later) with
      | (.failed .eintr, state) => writeAllLoop network calls (first :: later) state
      | (.failed errno, state) =>
          some (.error ⟨"send() failed: " ++ errnoString errno⟩, state)
      | (.sent 0, state) => some (.error ⟨"send() returned 0 (peer closed)"⟩, state)
      | (.sent (count + 1), state) =>
          writeAllLoop network calls (later.drop count) state

def writeAll (network : Network σ β) (calls : Nat) (buf : List β) (state : σ) :
    Option (Except TcpError Unit × σ) :=
  if client.fd < 0 then some (.error ⟨"write_all: socket not open"⟩, state)
  else writeAllLoop errnoString network calls buf state

/-- The bytes read by `read_exact`, of which `count` are still missing. A read
returns no more than it was asked for. -/
def readExact (network : Network σ β) (count : Nat) (state : σ) :
    Except TcpError (List β) × σ :=
  if count = 0 then (.ok [], state)
  else
    match network.remaining state with
    | none => (.error ⟨"read_exact: timeout"⟩, state)
    | some remaining =>
        match network.read state count with
        | (event, state) =>
            match client.readSome errnoString remaining event with
            | .error fault => (.error fault, state)
            | .ok [] => (.error ⟨"read_exact: peer closed"⟩, state)
            | .ok (first :: later) =>
                match readExact network (count - (later.length + 1)) state with
                | (.error fault, state) => (.error fault, state)
                | (.ok rest, state) => (.ok (first :: later ++ rest), state)
termination_by count

/-- `read_until` with what it has accumulated. -/
def readUntil (network : Network σ Char) (terminator : List Char) (maxBytes : Nat)
    (acc : List Char) (state : σ) : Except TcpError (List Char) × σ :=
  if occurs terminator acc then (.ok acc, state)
  else if acc.length ≥ maxBytes then
    (.error ⟨"read_until: max_bytes (" ++ toString maxBytes ++
      ") exceeded without seeing terminator"⟩, state)
  else
    match network.remaining state with
    | none =>
        (.error ⟨"read_until: timeout waiting for \"" ++ String.ofList terminator ++ "\""⟩, state)
    | some remaining =>
        match network.read state (min 512 (maxBytes - acc.length)) with
        | (event, state) =>
            match client.readSome errnoString remaining event with
            | .error fault => (.error fault, state)
            | .ok [] => (.error ⟨"read_until: peer closed before terminator"⟩, state)
            | .ok (first :: later) =>
                readUntil network terminator maxBytes (acc ++ first :: later) state
termination_by maxBytes - acc.length

end TcpClient

end AsterxDriver.Driver
