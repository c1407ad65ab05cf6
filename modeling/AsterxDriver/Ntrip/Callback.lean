import AsterxDriver.Foundation.ByteString
import Mathlib.Data.List.Count
import Mathlib.Data.List.Infix
import Mathlib.Tactic.Common

/-! # Packets for the INS401

`NTRIPCallback` of `ins401_ntrip_client.cpp` sends its data through a raw socket, which
it opens when it needs one and replaces when packets keep failing. `EthernetSocket` and
`BuildAceinnaPacket` are not in this repository; what they do comes from outside. The calls
do not overlap here. -/

namespace AsterxDriver.Ntrip

open Foundation

/-! ## The class -/

abbrev MacAddress := Vector Byte 6

/-- `make_shared<EthernetSocket>` throws, or makes a socket for which `IsValid` holds or
not. -/
inductive Construction
  | throws
  | makes (valid : Bool)
  deriving DecidableEq, Repr

/-- A socket is known by the number of its construction. -/
inductive SocketEvent
  | opens (socket : ℕ)
  | closes (socket : ℕ)
  | sends (socket : ℕ) (packet : List Byte) (result : ℤ)
  deriving DecidableEq, Repr

/-- How a call of `SendToINS401` ends. -/
inductive CallEnd
  | sent
  /-- There is no socket. -/
  | unavailable
  /-- `BuildAceinnaPacket` throws. -/
  | unbuilt
  | unsent
  deriving DecidableEq, Repr

structure Callback where
  targetMac : MacAddress
  localMac : MacAddress
  socketInitialized : Bool := false
  socketPtr : Option ℕ := none
  packetsSent : ℕ := 0
  packetsFailed : ℕ := 0

/-- The object with what has happened since it was made. -/
structure Sending where
  callback : Callback
  constructed : ℕ := 0
  events : List SocketEvent := []
  calls : List CallEnd := []

/-- What comes from outside in one call of `SendToINS401`. -/
structure CallScript where
  /-- `IsValid` of the socket that is held. -/
  isValid : Bool
  construction : Construction
  /-- `GetLocalMac` of the socket, if it is valid then. -/
  socketMac : Option MacAddress
  /-- The result of each `Send`. -/
  results : ℕ → ℤ
  /-- The construction in `Reset`. -/
  replacement : Construction

namespace Sending

/-- `socket_ptr_` gets another value, and the socket that it held is destroyed. -/
def assign (socket : Option ℕ) (sending : Sending) : Sending :=
  { sending with
    callback := { sending.callback with socketPtr := socket }
    events := sending.events ++ sending.callback.socketPtr.toList.map .closes }

/-- `socket_ptr_ = make_shared<EthernetSocket>(...)`. The new socket exists before the old
one is destroyed. -/
def construct (sending : Sending) : Sending :=
  assign (some sending.constructed)
    { sending with
      constructed := sending.constructed + 1
      events := sending.events ++ [.opens sending.constructed] }

def setInitialized (initialized : Bool) (sending : Sending) : Sending :=
  { sending with callback := { sending.callback with socketInitialized := initialized } }

def initializeSocket (isValid : Bool) (construction : Construction) (sending : Sending) :
    Bool × Sending :=
  if sending.callback.socketInitialized ∧ sending.callback.socketPtr.isSome ∧ isValid then
    (true, sending)
  else
    match construction with
    | .makes valid => (valid, sending.construct.setInitialized valid)
    | .throws => (false, (sending.setInitialized false).assign none)

def cleanup (sending : Sending) : Sending := (sending.assign none).setInitialized false

def reset (replacement : Construction) (sending : Sending) : Sending :=
  (sending.cleanup.initializeSocket false replacement).2

/-- The loop over the retries; `left` is the difference of `kMaxSendRetries` and
`retry`. -/
def sendPacket (packet : List Byte) (results : ℕ → ℤ) :
    (left retry : ℕ) → Sending → Bool × Sending
  | 0, _, sending => (false, sending)
  | left + 1, retry, sending =>
      match sending.callback.socketPtr with
      | none => sendPacket packet results left (retry + 1) sending
      | some socket =>
          let sending := { sending with
            events := sending.events ++ [.sends socket packet (results retry)] }
          if results retry > 0 then (true, sending)
          else sendPacket packet results left (retry + 1) sending

def succeed (sending : Sending) : Sending :=
  { sending with
    callback := { sending.callback with packetsSent := sending.callback.packetsSent + 1 }
    calls := sending.calls ++ [.sent] }

def fail (callEnd : CallEnd) (sending : Sending) : Sending :=
  { sending with
    callback := { sending.callback with packetsFailed := sending.callback.packetsFailed + 1 }
    calls := sending.calls ++ [callEnd] }

section

variable (buildAceinnaPacket : MacAddress → MacAddress → List Byte → Option (List Byte))

def sendToIns401 (payload : List Byte) (script : CallScript) (sending : Sending) :
    Bool × Sending :=
  match sending.initializeSocket script.isValid script.construction with
  | (false, sending) => (false, sending.fail .unavailable)
  | (true, sending) =>
      let localMac := script.socketMac.getD sending.callback.localMac
      match buildAceinnaPacket sending.callback.targetMac localMac payload with
      | none => (false, sending.fail .unbuilt)
      | some packet =>
          match sending.sendPacket packet script.results 3 0 with
          | (true, sending) => (true, sending.succeed)
          | (false, sending) =>
              let sending := sending.fail .unsent
              if sending.callback.packetsFailed % 10 = 0 then
                (false, sending.reset script.replacement)
              else (false, sending)

end

end Sending

/-- What is done with the object. -/
inductive CallbackEvent
  | sendToIns401 (payload : List Byte) (script : CallScript)
  | reset (replacement : Construction)

def Sending.step (buildAceinnaPacket : MacAddress → MacAddress → List Byte → Option (List Byte))
    (sending : Sending) : CallbackEvent → Sending
  | .sendToIns401 payload script => (sending.sendToIns401 buildAceinnaPacket payload script).2
  | .reset replacement => sending.reset replacement

def Sending.fresh (targetMac localMac : MacAddress) : Sending where
  callback := { targetMac := targetMac, localMac := localMac }

/-! ## Sockets -/

namespace SocketEvent

def opened : SocketEvent → List ℕ
  | .opens socket => [socket]
  | _ => []

def closed : SocketEvent → List ℕ
  | .closes socket => [socket]
  | _ => []

def IsSend : SocketEvent → Bool
  | .sends _ _ _ => true
  | _ => false

/-- The packet is given to the network. -/
def Delivers : SocketEvent → Bool
  | .sends _ _ result => result > 0
  | _ => false

end SocketEvent

def openedSockets (events : List SocketEvent) : List ℕ := events.flatMap SocketEvent.opened

def closedSockets (events : List SocketEvent) : List ℕ := events.flatMap SocketEvent.closed

/-- A socket through which a packet is sent is the only one that is open then. -/
def Alone (events : List SocketEvent) : Prop :=
  ∀ front socket packet result, front ++ [.sends socket packet result] <+: events →
    openedSockets front = closedSockets front ++ [socket]

/-- Sockets are closed in the order in which they were opened, all but the one that is
held. -/
structure Orderly (sending : Sending) : Prop where
  opened : openedSockets sending.events = List.range sending.constructed
  closed : closedSockets sending.events ++ sending.callback.socketPtr.toList =
    List.range sending.constructed
  alone : Alone sending.events

theorem alone_concat {events : List SocketEvent} {event : SocketEvent} (alone : Alone events)
    (here : ∀ socket packet result, event = .sends socket packet result →
      openedSockets events = closedSockets events ++ [socket]) :
    Alone (events ++ [event]) := by
  intro front socket packet result before
  rcases List.prefix_concat_iff.mp before with same | before
  · rcases List.append_inj' same rfl with ⟨rfl, last⟩
    cases last
    exact here socket packet result rfl
  · exact alone front socket packet result before

theorem alone_closes {events : List SocketEvent} (alone : Alone events)
    (sockets : Option ℕ) : Alone (events ++ sockets.toList.map .closes) := by
  cases sockets with
  | none => simpa using alone
  | some socket => exact alone_concat alone (by simp)

section

variable {sending : Sending}

theorem orderly_assign_none (orderly : Orderly sending) : Orderly (sending.assign none) := by
  refine ⟨?_, ?_, alone_closes orderly.alone _⟩
  · have opened := orderly.opened
    cases held : sending.callback.socketPtr <;>
      simpa [Sending.assign, held, openedSockets, SocketEvent.opened] using opened
  · have closed := orderly.closed
    cases held : sending.callback.socketPtr <;>
      simpa [Sending.assign, held, closedSockets, SocketEvent.closed] using closed

theorem orderly_construct (orderly : Orderly sending) : Orderly sending.construct := by
  have opened := orderly.opened
  have closed := orderly.closed
  refine ⟨?_, ?_, alone_closes (alone_concat orderly.alone (by simp)) _⟩
  · cases held : sending.callback.socketPtr <;>
      simpa [Sending.construct, Sending.assign, held, openedSockets, SocketEvent.opened,
        List.range_succ] using opened
  · cases held : sending.callback.socketPtr <;>
      simp [Sending.construct, Sending.assign, held, closedSockets, SocketEvent.closed, ← closed,
        List.range_succ]

theorem orderly_setInitialized (orderly : Orderly sending) (initialized : Bool) :
    Orderly (sending.setInitialized initialized) :=
  ⟨orderly.opened, orderly.closed, orderly.alone⟩

theorem orderly_initializeSocket (orderly : Orderly sending) (isValid : Bool)
    (construction : Construction) :
    Orderly (sending.initializeSocket isValid construction).2 := by
  unfold Sending.initializeSocket
  split
  · exact orderly
  · cases construction with
    | makes valid => exact orderly_setInitialized (orderly_construct orderly) valid
    | throws => exact orderly_assign_none (orderly_setInitialized orderly false)

theorem orderly_cleanup (orderly : Orderly sending) : Orderly sending.cleanup :=
  orderly_setInitialized (orderly_assign_none orderly) false

theorem orderly_sendPacket (orderly : Orderly sending) (packet : List Byte) (results : ℕ → ℤ)
    (left retry : ℕ) : Orderly (sending.sendPacket packet results left retry).2 := by
  induction left generalizing sending retry with
  | zero => exact orderly
  | succ left induction =>
      unfold Sending.sendPacket
      cases held : sending.callback.socketPtr with
      | none => exact induction orderly (retry + 1)
      | some socket =>
          have next : Orderly { sending with
              events := sending.events ++ [.sends socket packet (results retry)] } := by
            refine ⟨?_, ?_, alone_concat orderly.alone ?_⟩
            · simpa [openedSockets, SocketEvent.opened] using orderly.opened
            · simpa [closedSockets, SocketEvent.closed] using orderly.closed
            · intro other _ _ same
              cases same
              rw [orderly.opened, ← orderly.closed, held]
              rfl
          simp only
          split
          · exact next
          · exact induction next (retry + 1)

theorem orderly_reset (orderly : Orderly sending) (replacement : Construction) :
    Orderly (sending.reset replacement) :=
  orderly_initializeSocket (orderly_cleanup orderly) false replacement

end

/-! ## Calls -/

/-- What opening and closing sockets leaves as it is. -/
structure Maintains (sending final : Sending) : Prop where
  sent : final.callback.packetsSent = sending.callback.packetsSent
  failed : final.callback.packetsFailed = sending.callback.packetsFailed
  calls : final.calls = sending.calls
  events : ∃ later, final.events = sending.events ++ later ∧ ∀ event ∈ later, ¬event.IsSend

section

variable {sending final : Sending}

theorem Maintains.trans {middle : Sending} (first : Maintains sending middle)
    (second : Maintains middle final) : Maintains sending final := by
  rcases first.events with ⟨earlier, middleEvents, noSend⟩
  rcases second.events with ⟨later, finalEvents, noLaterSend⟩
  refine ⟨second.sent.trans first.sent, second.failed.trans first.failed,
    second.calls.trans first.calls, earlier ++ later, ?_, ?_⟩
  · rw [finalEvents, middleEvents, List.append_assoc]
  · intro event member
    rcases List.mem_append.mp member with before | after
    · exact noSend event before
    · exact noLaterSend event after

theorem maintains_assign (socket : Option ℕ) : Maintains sending (sending.assign socket) := by
  refine ⟨rfl, rfl, rfl, _, rfl, ?_⟩
  intro event member
  rcases List.mem_map.mp member with ⟨_, _, rfl⟩
  simp [SocketEvent.IsSend]

theorem maintains_construct : Maintains sending sending.construct := by
  have opens : Maintains sending { sending with
      constructed := sending.constructed + 1
      events := sending.events ++ [.opens sending.constructed] } :=
    ⟨rfl, rfl, rfl, [.opens sending.constructed], rfl, by simp [SocketEvent.IsSend]⟩
  exact opens.trans (maintains_assign _)

theorem maintains_setInitialized (initialized : Bool) :
    Maintains sending (sending.setInitialized initialized) :=
  ⟨rfl, rfl, rfl, [], (List.append_nil _).symm, by simp⟩

theorem maintains_initializeSocket (isValid : Bool) (construction : Construction) :
    Maintains sending (sending.initializeSocket isValid construction).2 := by
  unfold Sending.initializeSocket
  split
  · exact ⟨rfl, rfl, rfl, [], (List.append_nil _).symm, by simp⟩
  · cases construction with
    | makes valid => exact maintains_construct.trans (maintains_setInitialized valid)
    | throws => exact (maintains_setInitialized false).trans (maintains_assign none)

theorem maintains_cleanup : Maintains sending sending.cleanup :=
  (maintains_assign none).trans (maintains_setInitialized false)

theorem maintains_reset (replacement : Construction) :
    Maintains sending (sending.reset replacement) :=
  maintains_cleanup.trans (maintains_initializeSocket false replacement)

/-- There is a socket when `Initialize` succeeds. -/
theorem exists_socket_of_initializeSocket {isValid : Bool} {construction : Construction}
    (succeeds : sending.initializeSocket isValid construction = (true, final)) :
    ∃ socket, final.callback.socketPtr = some socket := by
  unfold Sending.initializeSocket at succeeds
  split at succeeds
  · rename_i ready
    cases succeeds
    exact Option.isSome_iff_exists.mp ready.2.1
  · cases construction with
    | makes valid =>
        cases succeeds
        exact ⟨_, rfl⟩
    | throws => cases succeeds

/-- The loop over the retries: the last `Send` delivers the packet, or none does. -/
structure Tries (retries : ℕ) (sending : Sending) (result : Bool) (final : Sending) :
    Prop where
  kept : final = { sending with events := final.events }
  events : ∃ later, final.events = sending.events ++ later ∧
    later.countP SocketEvent.IsSend ≤ retries ∧
    later.countP SocketEvent.Delivers = if result then 1 else 0

theorem tries_sendPacket (packet : List Byte) (results : ℕ → ℤ) (left retry : ℕ) :
    Tries left sending (sending.sendPacket packet results left retry).1
      (sending.sendPacket packet results left retry).2 := by
  induction left generalizing sending retry with
  | zero => exact ⟨rfl, [], (List.append_nil _).symm, Nat.le_refl 0, rfl⟩
  | succ left induction =>
      unfold Sending.sendPacket
      cases held : sending.callback.socketPtr with
      | none =>
          rcases @induction sending (retry + 1) with ⟨kept, later, events, sends, delivers⟩
          exact ⟨kept, later, events, Nat.le_succ_of_le sends, delivers⟩
      | some socket =>
          simp only
          split
          · rename_i delivered
            refine ⟨rfl, [.sends socket packet (results retry)], rfl, ?_, ?_⟩
            · simp [SocketEvent.IsSend]
            · simpa [SocketEvent.Delivers] using delivered
          · rename_i refused
            rcases @induction { sending with
              events := sending.events ++ [.sends socket packet (results retry)] }
              (retry + 1) with ⟨kept, later, events, sends, delivers⟩
            refine ⟨kept, .sends socket packet (results retry) :: later, ?_, ?_, ?_⟩
            · rw [events, List.append_assoc]
              rfl
            · rw [List.countP_cons_of_pos rfl]
              omega
            · rw [List.countP_cons_of_neg (by simpa [SocketEvent.Delivers] using refused)]
              exact delivers

/-- What a call of `SendToINS401` can do. -/
inductive CallSteps (sending : Sending) : CallEnd → Sending → Prop
  | unavailable {ready : Sending} (maintains : Maintains sending ready) :
      CallSteps sending .unavailable (ready.fail .unavailable)
  | unbuilt {ready : Sending} (maintains : Maintains sending ready) :
      CallSteps sending .unbuilt (ready.fail .unbuilt)
  | sent {ready tried : Sending} (maintains : Maintains sending ready)
      (tries : Tries 3 ready true tried) : CallSteps sending .sent tried.succeed
  | unsent {ready tried : Sending} (maintains : Maintains sending ready)
      (tries : Tries 3 ready false tried)
      (few : (tried.callback.packetsFailed + 1) % 10 ≠ 0) :
      CallSteps sending .unsent (tried.fail .unsent)
  | replaced {ready tried : Sending} {socket : ℕ} (replacement : Construction)
      (maintains : Maintains sending ready)
      (held : ready.callback.socketPtr = some socket) (tries : Tries 3 ready false tried)
      (many : (tried.callback.packetsFailed + 1) % 10 = 0) :
      CallSteps sending .unsent ((tried.fail .unsent).reset replacement)

variable {buildAceinnaPacket : MacAddress → MacAddress → List Byte → Option (List Byte)}

theorem callSteps_sendToIns401 (payload : List Byte) (script : CallScript) :
    ∃ callEnd, CallSteps sending callEnd
        (sending.sendToIns401 buildAceinnaPacket payload script).2 ∧
      ((sending.sendToIns401 buildAceinnaPacket payload script).1 = true ↔ callEnd = .sent) := by
  have maintains := @maintains_initializeSocket sending script.isValid script.construction
  unfold Sending.sendToIns401
  rcases initialized : sending.initializeSocket script.isValid script.construction with
    ⟨_ | _, ready⟩
  · rw [initialized] at maintains
    exact ⟨_, .unavailable maintains, by simp⟩
  · rw [initialized] at maintains
    rcases exists_socket_of_initializeSocket initialized with ⟨socket, held⟩
    simp only
    split
    · exact ⟨_, .unbuilt maintains, by simp⟩
    · rename_i packet _
      have tries := @tries_sendPacket ready packet script.results 3 0
      split
      · rename_i tried sent
        rw [sent] at tries
        exact ⟨_, .sent maintains tries, by simp⟩
      · rename_i tried unsent
        rw [unsent] at tries
        split
        · rename_i many
          exact ⟨_, .replaced script.replacement maintains held tries many, by simp⟩
        · rename_i few
          exact ⟨_, .unsent maintains tries few, by simp⟩

theorem orderly_sendToIns401 (orderly : Orderly sending) (payload : List Byte)
    (script : CallScript) :
    Orderly (sending.sendToIns401 buildAceinnaPacket payload script).2 := by
  have counted : ∀ {sending : Sending} (callEnd : CallEnd), Orderly sending →
      Orderly (sending.fail callEnd) :=
    fun _ orderly => ⟨orderly.opened, orderly.closed, orderly.alone⟩
  have initialized := orderly_initializeSocket orderly script.isValid script.construction
  unfold Sending.sendToIns401
  split
  · rename_i ready unavailable
    rw [unavailable] at initialized
    exact counted _ initialized
  · rename_i ready available
    rw [available] at initialized
    simp only
    split
    · exact counted _ initialized
    · rename_i packet _
      have tried := orderly_sendPacket initialized packet script.results 3 0
      split
      · rename_i sent
        rw [sent] at tried
        exact ⟨tried.opened, tried.closed, tried.alone⟩
      · rename_i unsent
        rw [unsent] at tried
        split
        · exact orderly_reset (counted _ tried) script.replacement
        · exact counted _ tried

/-! ## Counters -/

/-- Every call is counted, and those count as sent that gave a packet to the network. -/
structure Counted (sending : Sending) : Prop where
  all : sending.callback.packetsSent + sending.callback.packetsFailed = sending.calls.length
  sent : sending.callback.packetsSent = sending.calls.count .sent
  delivered : sending.callback.packetsSent = sending.events.countP SocketEvent.Delivers
  attempts : sending.events.countP SocketEvent.IsSend ≤ 3 * sending.calls.length

/-- Only sending gives packets to the network. -/
theorem countP_delivers_le (events : List SocketEvent) :
    events.countP SocketEvent.Delivers ≤ events.countP SocketEvent.IsSend := by
  refine List.countP_mono_left ?_
  intro event _ delivers
  cases event with
  | sends _ _ _ => rfl
  | opens _ | closes _ => cases delivers

theorem Maintains.counted (maintains : Maintains sending final) (counted : Counted sending) :
    Counted final := by
  rcases maintains.events with ⟨later, events, noSend⟩
  have sends : later.countP SocketEvent.IsSend = 0 := by
    simpa [List.countP_eq_zero] using noSend
  have delivers := countP_delivers_le later
  refine ⟨?_, ?_, ?_, ?_⟩
  · rw [maintains.sent, maintains.failed, maintains.calls]
    exact counted.all
  · rw [maintains.sent, maintains.calls]
    exact counted.sent
  · rw [maintains.sent, events, List.countP_append, counted.delivered]
    omega
  · rw [maintains.calls, events, List.countP_append, sends]
    exact counted.attempts

/-- A call that fails before it sends. -/
theorem Counted.fail (counted : Counted sending) {callEnd : CallEnd}
    (unsent : callEnd ≠ .sent) : Counted (sending.fail callEnd) := by
  have all := counted.all
  have sent := counted.sent
  have attempts := counted.attempts
  refine ⟨?_, ?_, counted.delivered, ?_⟩
  · simp only [Sending.fail, List.length_append, List.length_singleton]
    omega
  · simpa [Sending.fail, List.count_append, List.count_singleton, unsent] using sent
  · simp only [Sending.fail, List.length_append, List.length_singleton]
    omega

theorem Tries.counted_fail {tried : Sending} (counted : Counted sending)
    (tries : Tries 3 sending false tried) : Counted (tried.fail .unsent) := by
  rcases tries with ⟨kept, later, events, sends, delivers⟩
  have all := counted.all
  have attempts := counted.attempts
  rw [kept, events]
  refine ⟨?_, ?_, ?_, ?_⟩
  · simp only [Sending.fail, List.length_append, List.length_singleton]
    omega
  · simpa [Sending.fail, List.count_append] using counted.sent
  · simpa [Sending.fail, List.countP_append, delivers] using counted.delivered
  · simp only [Sending.fail, List.length_append, List.length_singleton, List.countP_append]
    omega

theorem Tries.counted_succeed {tried : Sending} (counted : Counted sending)
    (tries : Tries 3 sending true tried) : Counted tried.succeed := by
  rcases tries with ⟨kept, later, events, sends, delivers⟩
  have all := counted.all
  have attempts := counted.attempts
  rw [kept, events]
  refine ⟨?_, ?_, ?_, ?_⟩
  · simp only [Sending.succeed, List.length_append, List.length_singleton]
    omega
  · simpa [Sending.succeed, List.count_append] using counted.sent
  · simpa [Sending.succeed, List.countP_append, delivers] using counted.delivered
  · simp only [Sending.succeed, List.length_append, List.length_singleton, List.countP_append]
    omega

theorem counted_callSteps {callEnd : CallEnd} (counted : Counted sending)
    (steps : CallSteps sending callEnd final) : Counted final := by
  cases steps with
  | unavailable maintains => exact (maintains.counted counted).fail (by simp)
  | unbuilt maintains => exact (maintains.counted counted).fail (by simp)
  | sent maintains tries => exact tries.counted_succeed (maintains.counted counted)
  | unsent maintains tries few => exact tries.counted_fail (maintains.counted counted)
  | replaced replacement maintains held tries many =>
      exact (maintains_reset replacement).counted
        (tries.counted_fail (maintains.counted counted))

/-! ## Whole runs -/

theorem Tries.calls {retries : ℕ} {result : Bool} (tries : Tries retries sending result final) :
    final.calls = sending.calls := by
  rw [tries.kept]

theorem calls_callSteps {callEnd : CallEnd} (steps : CallSteps sending callEnd final) :
    final.calls = sending.calls ++ [callEnd] := by
  cases steps with
  | unavailable maintains | unbuilt maintains =>
      rw [← maintains.calls]
      rfl
  | sent maintains tries | unsent maintains tries few =>
      rw [← maintains.calls, ← tries.calls]
      rfl
  | replaced replacement maintains held tries many =>
      rw [(maintains_reset replacement).calls, ← maintains.calls, ← tries.calls]
      rfl

theorem Tries.events_prefix {ready tried : Sending} {retries : ℕ} {result : Bool}
    (tries : Tries retries ready result tried) (maintains : Maintains sending ready) :
    sending.events <+: tried.events := by
  rcases maintains.events with ⟨earlier, readyEvents, _⟩
  rcases tries.events with ⟨later, triedEvents, _⟩
  rw [triedEvents, readyEvents, List.append_assoc]
  exact List.prefix_append _ _

theorem events_callSteps {callEnd : CallEnd} (steps : CallSteps sending callEnd final) :
    sending.events <+: final.events := by
  cases steps with
  | unavailable maintains | unbuilt maintains =>
      rcases maintains.events with ⟨later, events, _⟩
      exact ⟨later, events.symm⟩
  | sent maintains tries | unsent maintains tries few =>
      have before := tries.events_prefix maintains
      exact before
  | replaced replacement maintains held tries many =>
      rcases (@maintains_reset (Sending.fail .unsent _) replacement).events with ⟨later, events, _⟩
      exact (tries.events_prefix maintains).trans ⟨later, events.symm⟩

/-- The socket that is held is closed by `Reset`. -/
theorem closes_reset {socket : ℕ} (replacement : Construction)
    (held : sending.callback.socketPtr = some socket) :
    sending.events ++ [.closes socket] <+: (sending.reset replacement).events := by
  rcases (@maintains_initializeSocket sending.cleanup false replacement).events with
    ⟨later, events, _⟩
  refine ⟨later, ?_⟩
  have closes : sending.cleanup.events = sending.events ++ [.closes socket] := by
    simp [Sending.cleanup, Sending.setInitialized, Sending.assign, held]
  rw [← closes]
  exact events.symm

/-- The failure that makes the count a multiple of ten closes the socket. -/
theorem unsent_callSteps (steps : CallSteps sending .unsent final) :
    final.callback.packetsFailed = sending.callback.packetsFailed + 1 ∧
      ((sending.callback.packetsFailed + 1) % 10 = 0 → ∃ front socket,
        sending.events <+: front ∧ front ++ [.closes socket] <+: final.events) := by
  have failed : ∀ {ready tried : Sending}, Maintains sending ready →
      Tries 3 ready false tried →
      tried.callback.packetsFailed = sending.callback.packetsFailed := by
    intro ready tried maintains tries
    rw [tries.kept]
    exact maintains.failed
  cases steps with
  | unsent maintains tries few =>
      have same := failed maintains tries
      rw [same] at few
      exact ⟨congrArg (· + 1) same, fun many => absurd many few⟩
  | @replaced ready tried socket replacement maintains held tries many =>
      have heldThen : (tried.fail .unsent).callback.socketPtr = some socket := by
        rw [tries.kept]
        exact held
      refine ⟨?_, fun _ => ⟨tried.events, socket, tries.events_prefix maintains,
        closes_reset replacement heldThen⟩⟩
      rw [(maintains_reset replacement).failed]
      exact congrArg (· + 1) (failed maintains tries)

end

def CallbackEvent.IsCall : CallbackEvent → Bool
  | .sendToIns401 _ _ => true
  | .reset _ => false

section

variable {buildAceinnaPacket : MacAddress → MacAddress → List Byte → Option (List Byte)}
variable {sending : Sending}

theorem orderly_step (orderly : Orderly sending) (event : CallbackEvent) :
    Orderly (sending.step buildAceinnaPacket event) := by
  cases event with
  | sendToIns401 payload script => exact orderly_sendToIns401 orderly payload script
  | reset replacement => exact orderly_reset orderly replacement

theorem counted_step (counted : Counted sending) (event : CallbackEvent) :
    Counted (sending.step buildAceinnaPacket event) := by
  cases event with
  | sendToIns401 payload script =>
      rcases @callSteps_sendToIns401 sending buildAceinnaPacket payload script with
        ⟨_, steps, _⟩
      exact counted_callSteps counted steps
  | reset replacement => exact (maintains_reset replacement).counted counted

theorem length_calls_step (event : CallbackEvent) :
    (sending.step buildAceinnaPacket event).calls.length =
      sending.calls.length + [event].countP CallbackEvent.IsCall := by
  cases event with
  | sendToIns401 payload script =>
      rcases @callSteps_sendToIns401 sending buildAceinnaPacket payload script with
        ⟨_, steps, _⟩
      exact (congrArg List.length (calls_callSteps steps)).trans List.length_append
  | reset replacement => exact congrArg List.length (maintains_reset replacement).calls

theorem length_calls_run (events : List CallbackEvent) :
    (events.foldl (Sending.step buildAceinnaPacket) sending).calls.length =
      sending.calls.length + events.countP CallbackEvent.IsCall := by
  induction events generalizing sending with
  | nil => rfl
  | cons event later induction =>
      rw [List.foldl_cons, induction, length_calls_step, Nat.add_assoc, ← List.countP_append]
      rfl

theorem calls_step (state : Sending) (event : CallbackEvent) :
    state.calls <+: (state.step buildAceinnaPacket event).calls := by
  cases event with
  | sendToIns401 payload script =>
      rcases @callSteps_sendToIns401 state buildAceinnaPacket payload script with
        ⟨_, steps, _⟩
      exact ⟨_, (calls_callSteps steps).symm⟩
  | reset replacement =>
      rw [Sending.step, (maintains_reset replacement).calls]

theorem events_step (state : Sending) (event : CallbackEvent) :
    state.events <+: (state.step buildAceinnaPacket event).events := by
  cases event with
  | sendToIns401 payload script =>
      rcases @callSteps_sendToIns401 state buildAceinnaPacket payload script with
        ⟨_, steps, _⟩
      exact events_callSteps steps
  | reset replacement =>
      rcases (@maintains_reset state replacement).events with ⟨later, events, _⟩
      exact ⟨later, events.symm⟩

/-- What every step only makes longer, a run does too. -/
theorem prefix_run {α : Type} {part : Sending → List α}
    (grows : ∀ state event, part state <+: part (state.step buildAceinnaPacket event))
    (events : List CallbackEvent) :
    part sending <+: part (events.foldl (Sending.step buildAceinnaPacket) sending) := by
  induction events generalizing sending with
  | nil => exact List.prefix_refl _
  | cons event later induction => exact (grows sending event).trans induction

/-- Calls that cannot send close a socket when the number of failures passes a multiple of
ten. -/
theorem closes_of_unsent {row : List CallbackEvent}
    (areCalls : ∀ event ∈ row, event.IsCall = true)
    (unsent : (row.foldl (Sending.step buildAceinnaPacket) sending).calls =
      sending.calls ++ List.replicate row.length .unsent)
    (passes : sending.callback.packetsFailed / 10 <
      (sending.callback.packetsFailed + row.length) / 10) :
    ∃ front socket, sending.events <+: front ∧
      front ++ [.closes socket] <+:
        (row.foldl (Sending.step buildAceinnaPacket) sending).events := by
  induction row generalizing sending with
  | nil => exact absurd passes (Nat.lt_irrefl _)
  | cons event later induction =>
      cases event with
      | reset replacement => cases areCalls _ (List.mem_cons_self ..)
      | sendToIns401 payload script =>
          rcases @callSteps_sendToIns401 sending buildAceinnaPacket payload script with
            ⟨callEnd, steps, _⟩
          have calls := calls_callSteps steps
          have goesOn := @prefix_run buildAceinnaPacket
            (sending.sendToIns401 buildAceinnaPacket payload script).2 _ _ calls_step later
          have after := @prefix_run buildAceinnaPacket
            (sending.sendToIns401 buildAceinnaPacket payload script).2 _ _ events_step later
          rw [List.foldl_cons, Sending.step] at unsent ⊢
          have same : callEnd = .unsent := by
            rw [unsent, calls, List.prefix_append_right_inj, List.length_cons,
              List.replicate_succ, List.cons_prefix_cons] at goesOn
            exact goesOn.1
          subst same
          have rest : (later.foldl (Sending.step buildAceinnaPacket)
              (sending.sendToIns401 buildAceinnaPacket payload script).2).calls =
              (sending.sendToIns401 buildAceinnaPacket payload script).2.calls ++
                List.replicate later.length .unsent := by
            rw [unsent, calls, List.append_assoc]
            rfl
          rcases unsent_callSteps steps with ⟨failed, closes⟩
          by_cases many : (sending.callback.packetsFailed + 1) % 10 = 0
          · rcases closes many with ⟨front, socket, earlier, closed⟩
            exact ⟨front, socket, earlier, closed.trans after⟩
          · have still : (sending.callback.packetsFailed + 1) / 10 <
                (sending.callback.packetsFailed + 1 + later.length) / 10 := by
              rw [List.length_cons] at passes
              omega
            rw [← failed] at still
            rcases induction (fun event member => areCalls event (List.mem_cons_of_mem _ member))
              rest still with ⟨front, socket, earlier, closed⟩
            exact ⟨front, socket, (events_callSteps steps).trans earlier, closed⟩

end

theorem orderly_fresh (targetMac localMac : MacAddress) :
    Orderly (.fresh targetMac localMac) := by
  refine ⟨rfl, rfl, ?_⟩
  intro front socket packet result before
  simp [Sending.fresh] at before

theorem counted_fresh (targetMac localMac : MacAddress) : Counted (.fresh targetMac localMac) :=
  ⟨rfl, rfl, rfl, Nat.le_refl 0⟩

/-- Whatever the sockets do, every call is counted once, sockets are opened and closed in
turn, and ten calls in a row that cannot send close one. -/
theorem packets_accounted
    (buildAceinnaPacket : MacAddress → MacAddress → List Byte → Option (List Byte))
    (targetMac localMac : MacAddress) (events : List CallbackEvent) :
    let sending := events.foldl (Sending.step buildAceinnaPacket) (.fresh targetMac localMac)
    Counted sending ∧ sending.calls.length = events.countP CallbackEvent.IsCall ∧
      (∀ payload script, (sending.sendToIns401 buildAceinnaPacket payload script).1 = true ↔
        (sending.sendToIns401 buildAceinnaPacket payload script).2.calls =
          sending.calls ++ [.sent]) ∧
      Orderly sending ∧
      closedSockets sending.cleanup.events = List.range sending.constructed ∧
      ∀ row : List CallbackEvent, row.length = 10 → (∀ event ∈ row, event.IsCall = true) →
        (row.foldl (Sending.step buildAceinnaPacket) sending).calls =
          sending.calls ++ List.replicate 10 .unsent →
        ∃ front socket, sending.events <+: front ∧ front ++ [.closes socket] <+:
          (row.foldl (Sending.step buildAceinnaPacket) sending).events := by
  intro sending
  have orderly : Orderly sending :=
    List.foldlRecOn events _ (orderly_fresh targetMac localMac)
      fun _ orderly event _ => orderly_step orderly event
  have counted : Counted sending :=
    List.foldlRecOn events _ (counted_fresh targetMac localMac)
      fun _ counted event _ => counted_step counted event
  refine ⟨counted, ?_, ?_, orderly, ?_, ?_⟩
  · exact (length_calls_run events).trans (Nat.zero_add _)
  · intro payload script
    rcases @callSteps_sendToIns401 sending buildAceinnaPacket payload script with
      ⟨callEnd, steps, returned⟩
    rw [returned, calls_callSteps steps]
    simp
  · have closed := (orderly_cleanup orderly).closed
    exact (List.append_nil _).symm.trans closed
  · intro row ten areCalls unsent
    refine closes_of_unsent areCalls ?_ ?_
    · rw [ten]
      exact unsent
    · rw [ten]
      omega

def testMac : MacAddress := Vector.replicate 6 0x42

def testPacket (targetMac localMac : MacAddress) (payload : List Byte) : Option (List Byte) :=
  some (targetMac.toList ++ localMac.toList ++ payload)

/-- A call through a socket that works, and one through a cable that is unplugged. -/
def testCall (result : ℤ) : CallbackEvent :=
  .sendToIns401 [0xd3, 0x00] ⟨true, .makes true, some testMac, fun _ => result, .makes true⟩

/-- The eleventh packet is sent, and those after it are not. -/
theorem unplugged_accounted :
    ∃ front socket,
      ((List.replicate 11 (testCall 16)).foldl (Sending.step testPacket)
        (.fresh testMac testMac)).events <+: front ∧
      front ++ [.closes socket] <+:
        ((List.replicate 10 (testCall (-1))).foldl (Sending.step testPacket)
          ((List.replicate 11 (testCall 16)).foldl (Sending.step testPacket)
            (.fresh testMac testMac))).events :=
  (packets_accounted testPacket testMac testMac (List.replicate 11 (testCall 16))).2.2.2.2.2
    (List.replicate 10 (testCall (-1))) (by decide) (by decide) (by decide)

end AsterxDriver.Ntrip
