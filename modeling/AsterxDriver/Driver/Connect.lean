import AsterxDriver.Driver.TcpClient
import AsterxDriver.Foundation.Attempt
import Mathlib.Data.List.Nodup

/-! # Connecting

`TcpClient::connect` and `TcpClient::close`, with the descriptors and the address lists
that they leave open. The outcome of each system call comes from outside. -/

namespace AsterxDriver.Driver

open Foundation Attempt

/-! ## System calls -/

/-- The kernel gives a descriptor that is not in use. -/
structure Kernel where
  socket : List Int → Int
  fresh : ∀ descriptors, socket descriptors ∉ descriptors
  nonneg : ∀ descriptors, 0 ≤ socket descriptors

theorem le_foldr_max {descriptors : List Int} {fd : Int} (member : fd ∈ descriptors) :
    fd ≤ descriptors.foldr max 2 := by
  induction descriptors with
  | nil => cases member
  | cons first others induction =>
      rw [List.foldr_cons]
      rcases List.mem_cons.mp member with rfl | later
      · omega
      · have := induction later
        omega

/-- Descriptors above every open one and above those of the standard streams. -/
instance : Inhabited Kernel where
  default :=
    { socket := fun descriptors => descriptors.foldr max 2 + 1
      fresh := by
        intro descriptors member
        have := le_foldr_max member
        omega
      nonneg := by
        intro descriptors
        have : 2 ≤ descriptors.foldr max 2 := by
          induction descriptors with
          | nil => exact Int.le_refl 2
          | cons first others induction =>
              rw [List.foldr_cons]
              omega
        omega }

/-- The two calls of `fcntl` in `set_nonblocking`. -/
inductive FcntlCall
  | done
  | getFailed (errno : Errno)
  | setFailed (errno : Errno)
  deriving DecidableEq, Repr

inductive ConnectCall
  | connected
  /-- `EINPROGRESS` or `EWOULDBLOCK`. -/
  | inProgress
  | failed (errno : Errno)
  deriving DecidableEq, Repr

inductive PollCall
  | ready
  | timedOut
  | failed (errno : Errno)
  deriving DecidableEq, Repr

/-- `getsockopt` of `SO_ERROR`. -/
inductive SocketErrorCall
  | failed (errno : Errno)
  | pending (errno : Errno)
  | none
  deriving DecidableEq, Repr

/-- What the system does for one address of the list. -/
structure Address where
  /-- The reason when there is no socket. -/
  socket : Option Errno
  setNonblocking : FcntlCall
  connect : ConnectCall
  poll : PollCall
  socketError : SocketErrorCall
  clearNonblocking : FcntlCall

def etimedout : Errno := .other 110

/-- The descriptors that are open, each with its `O_NONBLOCK`, and the number of
address lists that were not freed. -/
structure Resources where
  client : TcpClient
  descriptors : List (Int × Bool)
  addressLists : ℕ

namespace Resources

def start : Resources := ⟨⟨-1⟩, [], 0⟩

def opened (fd : Int) (resources : Resources) : Resources :=
  { resources with descriptors := resources.descriptors ++ [(fd, false)] }

def withFlag (fd : Int) (nonblocking : Bool) (resources : Resources) : Resources :=
  { resources with
    descriptors := resources.descriptors.map fun descriptor =>
      if descriptor.1 = fd then (fd, nonblocking) else descriptor }

def closed (fd : Int) (resources : Resources) : Resources :=
  { resources with descriptors := resources.descriptors.filter (·.1 ≠ fd) }

def kept (fd : Int) (resources : Resources) : Resources := { resources with client := ⟨fd⟩ }

end Resources

/-! ## The client -/

/-- The client with the resources of its process. -/
abbrev Connecting := Attempt Resources TcpError

namespace Connecting

variable (kernel : Kernel) (errnoString : Errno → String)

def setNonblocking (fd : Int) (on : Bool) : FcntlCall → Connecting PUnit
  | .getFailed errno => throw ⟨"fcntl(F_GETFL) failed: " ++ errnoString errno⟩
  | .setFailed errno => throw ⟨"fcntl(F_SETFL) failed: " ++ errnoString errno⟩
  | .done => modify (Resources.withFlag fd on)

/-- The socket is given up for this reason. -/
def giveUp (fd : Int) (errno : Errno) : Connecting (Option Errno) := do
  modify (Resources.closed fd)
  return some errno

/-- The socket becomes that of the client. -/
def keep (fd : Int) (address : Address) : Connecting (Option Errno) := do
  setNonblocking errnoString fd false address.clearNonblocking
  modify (Resources.kept fd)
  return none

/-- A new socket and its way to a connection. -/
def tryConnect (fd : Int) (address : Address) : Connecting (Option Errno) := do
  modify (Resources.opened fd)
  setNonblocking errnoString fd true address.setNonblocking
  match address.connect with
  | .connected => keep errnoString fd address
  | .failed errno => giveUp fd errno
  | .inProgress =>
      match address.poll with
      | .failed errno => giveUp fd errno
      | .timedOut => giveUp fd etimedout
      | .ready =>
          match address.socketError with
          | .failed errno => giveUp fd errno
          | .pending errno => giveUp fd errno
          | .none => keep errnoString fd address

/-- One round of the loop; `last_err` when the next address is to be tried. -/
def tryAddress (address : Address) : Connecting (Option Errno) := do
  match address.socket with
  | some errno => return some errno
  | none =>
      let resources ← get
      tryConnect errnoString (kernel.socket (resources.descriptors.map Prod.fst)) address

def tryAddresses : List Address → Errno → Connecting (Option Errno)
  | [], lastErr => return some lastErr
  | address :: later, _ => do
      match ← tryAddress kernel errnoString address with
      | none => return none
      | some errno => tryAddresses later errno

/-- `getaddrinfo` gives the addresses, or the text of its error. -/
def connect (host : String) (port : BitVec 16) (addresses : Except String (List Address)) :
    Connecting PUnit := do
  let resources ← get
  if resources.client.fd ≥ 0 then throw ⟨"TcpClient::connect: already open"⟩
  else
    match addresses with
    | .error reason =>
        throw ⟨"getaddrinfo(" ++ host ++ ":" ++ toString port.toNat ++ ") failed: " ++ reason⟩
    | .ok addresses => do
        modify fun resources => { resources with addressLists := resources.addressLists + 1 }
        let tried ← tryAddresses kernel errnoString addresses (.other 0)
        modify fun resources => { resources with addressLists := resources.addressLists - 1 }
        match tried with
        | none => return
        | some errno =>
            throw ⟨"connect(" ++ host ++ ":" ++ toString port.toNat ++ ") failed: " ++
              errnoString errno⟩

/-- Also what the destructor does. -/
def close : Connecting PUnit :=
  modify fun resources =>
    if resources.client.fd ≥ 0 then
      { resources.closed resources.client.fd with client := ⟨-1⟩ }
    else resources

/-- A call of the client's owner. -/
inductive Operation
  | connect (host : String) (port : BitVec 16) (addresses : Except String (List Address))
  | close

def perform : Operation → Connecting PUnit
  | .connect host port addresses => connect kernel errnoString host port addresses
  | .close => close

/-- One call after another; an exception ends its own call only. -/
def performAll : List Operation → Resources →
    Option (List (Except TcpError PUnit) × Resources)
  | [], resources => some ([], resources)
  | operation :: later, resources => do
      let (outcome, resources) ← (perform kernel errnoString operation).run resources
      let (outcomes, resources) ← performAll later resources
      return (outcome :: outcomes, resources)

end Connecting

/-! ## One socket -/

/-- An exception of `set_nonblocking`. -/
def FcntlFault (fault : TcpError) : Prop := "fcntl(".toList <+: fault.what.toList

instance (fault : TcpError) : Decidable (FcntlFault fault) :=
  inferInstanceAs (Decidable ("fcntl(".toList <+: fault.what.toList))

/-- The resources with one more descriptor. -/
def Resources.holding (fd : Int) (nonblocking : Bool) (resources : Resources) : Resources :=
  { resources with descriptors := resources.descriptors ++ [(fd, nonblocking)] }

section

variable {resources final : Resources} {fd : Int} {errnoString : Errno → String}
  (unused : fd ∉ resources.descriptors.map Prod.fst)

include unused

theorem withFlag_holding (before after : Bool) :
    (resources.holding fd before).withFlag fd after = resources.holding fd after := by
  have others : resources.descriptors.map (fun descriptor =>
      if descriptor.1 = fd then (fd, after) else descriptor) = resources.descriptors := by
    rw [List.map_congr_left, List.map_id]
    intro descriptor member
    rw [if_neg]
    · rfl
    · rintro rfl
      exact unused (List.mem_map_of_mem member)
  simp only [Resources.withFlag, Resources.holding, List.map_append, others, List.map_cons,
    List.map_nil, if_true]

theorem closed_holding (flag : Bool) : (resources.holding fd flag).closed fd = resources := by
  have others : resources.descriptors.filter (·.1 ≠ fd) = resources.descriptors := by
    rw [List.filter_eq_self]
    intro descriptor member
    simp only [ne_eq, decide_not, Bool.not_eq_true', decide_eq_false_iff_not]
    rintro rfl
    exact unused (List.mem_map_of_mem member)
  cases resources
  simp only [Resources.closed, Resources.holding, List.filter_append] at others ⊢
  rw [others]
  simp

theorem ends_setNonblocking {before on : Bool} {call : FcntlCall}
    {outcome : Except TcpError PUnit}
    (ends : (Connecting.setNonblocking errnoString fd on call).Ends (resources.holding fd before)
      outcome final) :
    outcome = .ok ⟨⟩ ∧ final = resources.holding fd on ∨
      ∃ fault, outcome = .error fault ∧ FcntlFault fault ∧
        final = resources.holding fd before := by
  cases call with
  | done =>
      cases ends
      exact .inl ⟨rfl, withFlag_holding unused before on⟩
  | getFailed errno =>
      cases ends
      refine .inr ⟨_, rfl, ?_, rfl⟩
      rw [FcntlFault, String.toList_append]
      exact List.prefix_append_of_prefix (by decide)
  | setFailed errno =>
      cases ends
      refine .inr ⟨_, rfl, ?_, rfl⟩
      rw [FcntlFault, String.toList_append]
      exact List.prefix_append_of_prefix (by decide)

end

/-- What trying addresses can come to. Only a failure of `fcntl` leaves a descriptor
that nobody closes. -/
inductive Tried (resources : Resources) : Except TcpError (Option Errno) → Resources → Prop
  | connected {fd : Int} (unused : fd ∉ resources.descriptors.map Prod.fst) (nonneg : 0 ≤ fd) :
      Tried resources (.ok none) ((resources.holding fd false).kept fd)
  | next (errno : Errno) : Tried resources (.ok (some errno)) resources
  | leaked {fd : Int} (flag : Bool) {fault : TcpError}
      (unused : fd ∉ resources.descriptors.map Prod.fst) (nonneg : 0 ≤ fd)
      (fcntl : FcntlFault fault) : Tried resources (.error fault) (resources.holding fd flag)

section

variable {resources final : Resources} {fd : Int} {errnoString : Errno → String}
  {address : Address} {outcome : Except TcpError (Option Errno)}
  (unused : fd ∉ resources.descriptors.map Prod.fst) (nonneg : 0 ≤ fd)

include unused nonneg

theorem tried_keep {before : Bool}
    (ends : (Connecting.keep errnoString fd address).Ends (resources.holding fd before) outcome
      final) : Tried resources outcome final := by
  rcases ends_bind_iff.mp ends with ⟨fault, failed, rfl⟩ | ⟨_, middle, cleared, kept⟩
  · rcases ends_setNonblocking unused failed with ⟨impossible, _⟩ | ⟨_, same, fcntl, rfl⟩
    · cases impossible
    · cases same
      exact .leaked before unused nonneg fcntl
  · rcases ends_setNonblocking unused cleared with ⟨_, rfl⟩ | ⟨_, impossible, _⟩
    · cases kept
      exact .connected unused nonneg
    · cases impossible

omit nonneg in
theorem tried_giveUp {before : Bool} {errno : Errno}
    (ends : (Connecting.giveUp fd errno).Ends (resources.holding fd before) outcome final) :
    Tried resources outcome final := by
  cases ends
  rw [closed_holding unused]
  exact .next errno

theorem tried_tryConnect
    (ends : (Connecting.tryConnect errnoString fd address).Ends resources outcome final) :
    Tried resources outcome final := by
  unfold Connecting.tryConnect at ends
  rw [ends_modify_bind_iff] at ends
  rcases ends_bind_iff.mp ends with ⟨fault, failed, rfl⟩ | ⟨_, middle, set, rest⟩
  · rcases ends_setNonblocking unused failed with ⟨impossible, _⟩ | ⟨_, same, fcntl, rfl⟩
    · cases impossible
    · cases same
      exact .leaked false unused nonneg fcntl
  · rcases ends_setNonblocking unused set with ⟨_, rfl⟩ | ⟨_, impossible, _⟩
    · split at rest
      · exact tried_keep unused nonneg rest
      · exact tried_giveUp unused rest
      · split at rest
        · exact tried_giveUp unused rest
        · exact tried_giveUp unused rest
        · split at rest
          · exact tried_giveUp unused rest
          · exact tried_giveUp unused rest
          · exact tried_keep unused nonneg rest
    · cases impossible

end

section

variable {kernel : Kernel} {errnoString : Errno → String} {resources final : Resources}
  {outcome : Except TcpError (Option Errno)}

theorem tried_tryAddress {address : Address}
    (ends : (Connecting.tryAddress kernel errnoString address).Ends resources outcome final) :
    Tried resources outcome final := by
  unfold Connecting.tryAddress at ends
  split at ends
  · rcases ends_pure_iff.mp ends with ⟨rfl, rfl⟩
    exact .next _
  · rw [ends_get_bind_iff] at ends
    exact tried_tryConnect (kernel.fresh _) (kernel.nonneg _) ends

theorem tried_tryAddresses {addresses : List Address} {lastErr : Errno}
    (ends : (Connecting.tryAddresses kernel errnoString addresses lastErr).Ends resources outcome
      final) : Tried resources outcome final := by
  induction addresses generalizing lastErr with
  | nil =>
      rcases ends_pure_iff.mp ends with ⟨rfl, rfl⟩
      exact .next _
  | cons address later induction =>
      rcases ends_bind_iff.mp ends with ⟨fault, failed, rfl⟩ | ⟨value, middle, first, rest⟩
      · cases tried_tryAddress failed with
        | leaked flag unused nonneg fcntl => exact .leaked flag unused nonneg fcntl
      · cases tried_tryAddress first with
        | connected unused nonneg =>
            rcases ends_pure_iff.mp rest with ⟨rfl, rfl⟩
            exact .connected unused nonneg
        | next errno => exact induction rest

end

/-! ## Whole runs -/

/-- What a call of `connect` can come to. -/
inductive Connects (resources : Resources) : Except TcpError PUnit → Resources → Prop
  | refused {fault : TcpError} (other : ¬FcntlFault fault) :
      Connects resources (.error fault) resources
  | connected {fd : Int} (closed : resources.client.fd < 0)
      (unused : fd ∉ resources.descriptors.map Prod.fst) (nonneg : 0 ≤ fd) :
      Connects resources (.ok ⟨⟩) ((resources.holding fd false).kept fd)
  | leaked {fd : Int} (flag : Bool) {fault : TcpError}
      (closed : resources.client.fd < 0)
      (unused : fd ∉ resources.descriptors.map Prod.fst) (fcntl : FcntlFault fault) :
      Connects resources (.error fault)
        { resources.holding fd flag with addressLists := resources.addressLists + 1 }

/-- A text that starts with another letter. -/
theorem not_fcntlFault {letter : Char} {rest : List Char} {what : String}
    (starts : letter :: rest <+: what.toList) (other : letter ≠ 'f') : ¬FcntlFault ⟨what⟩ := by
  intro fcntl
  rcases starts with ⟨after, starts⟩
  rw [FcntlFault, ← starts] at fcntl
  exact other (List.cons_prefix_cons.mp fcntl).1.symm

section

variable {kernel : Kernel} {errnoString : Errno → String} {resources final : Resources}
  {outcome : Except TcpError PUnit}

theorem connects_of_ends {host : String} {port : BitVec 16}
    {addresses : Except String (List Address)}
    (ends : (Connecting.connect kernel errnoString host port addresses).Ends resources outcome
      final) : Connects resources outcome final := by
  unfold Connecting.connect at ends
  rw [ends_get_bind_iff] at ends
  rcases ends_ite ends with ⟨_, thrown⟩ | ⟨closed, rest⟩
  · rcases ends_throw_iff.mp thrown with ⟨rfl, rfl⟩
    exact .refused (not_fcntlFault (List.prefix_refl _) (by decide))
  · have closed : resources.client.fd < 0 := by omega
    cases addresses with
    | error reason =>
        rcases ends_throw_iff.mp rest with ⟨rfl, rfl⟩
        apply Connects.refused
        have starts : "getaddrinfo(".toList <+: ("getaddrinfo(" ++ host ++ ":" ++
            toString port.toNat ++ ") failed: " ++ reason).toList := by
          simp only [String.toList_append, List.append_assoc, List.prefix_append]
        exact not_fcntlFault starts (by decide)
    | ok addresses =>
        rw [ends_modify_bind_iff] at rest
        rcases ends_bind_iff.mp rest with ⟨fault, failed, rfl⟩ | ⟨tried, middle, first, later⟩
        · cases tried_tryAddresses failed with
          | leaked flag unused nonneg fcntl => exact .leaked flag closed unused fcntl
        · rw [ends_modify_bind_iff] at later
          cases tried_tryAddresses first with
          | connected unused nonneg =>
              rcases ends_pure_iff.mp later with ⟨rfl, rfl⟩
              exact .connected closed unused nonneg
          | next errno =>
              rcases ends_throw_iff.mp later with ⟨rfl, rfl⟩
              have starts : "connect(".toList <+: ("connect(" ++ host ++ ":" ++
                  toString port.toNat ++ ") failed: " ++ errnoString errno).toList := by
                simp only [String.toList_append, List.append_assoc, List.prefix_append]
              exact .refused (not_fcntlFault starts (by decide))

/-! Every call ends. -/

theorem endsWithin_setNonblocking (fd : Int) (on : Bool) (call : FcntlCall) :
    EndsWithin (fun _ => True) (Connecting.setNonblocking errnoString fd on call) := by
  cases call with
  | done => exact endsWithin_modify fun _ _ => trivial
  | getFailed errno => exact endsWithin_throw _
  | setFailed errno => exact endsWithin_throw _

theorem endsWithin_keep (fd : Int) (address : Address) :
    EndsWithin (fun _ => True) (Connecting.keep errnoString fd address) := by
  apply (endsWithin_setNonblocking fd false address.clearNonblocking).bind
  intro _
  exact (endsWithin_modify fun _ _ => trivial).bind fun _ => endsWithin_pure _

theorem endsWithin_giveUp (fd : Int) (errno : Errno) :
    EndsWithin (fun _ => True) (Connecting.giveUp fd errno) :=
  (endsWithin_modify fun _ _ => trivial).bind fun _ => endsWithin_pure _

theorem endsWithin_tryConnect (fd : Int) (address : Address) :
    EndsWithin (fun _ => True) (Connecting.tryConnect errnoString fd address) := by
  apply (endsWithin_modify fun _ _ => trivial).bind
  intro _
  apply (endsWithin_setNonblocking fd true address.setNonblocking).bind
  intro _
  split
  · exact endsWithin_keep fd address
  · exact endsWithin_giveUp fd _
  · split
    · exact endsWithin_giveUp fd _
    · exact endsWithin_giveUp fd _
    · split
      · exact endsWithin_giveUp fd _
      · exact endsWithin_giveUp fd _
      · exact endsWithin_keep fd address

theorem endsWithin_tryAddresses (addresses : List Address) (lastErr : Errno) :
    EndsWithin (fun _ => True)
      (Connecting.tryAddresses kernel errnoString addresses lastErr) := by
  induction addresses generalizing lastErr with
  | nil => exact endsWithin_pure _
  | cons address later induction =>
      have first : EndsWithin (fun _ => True)
          (Connecting.tryAddress kernel errnoString address) := by
        unfold Connecting.tryAddress
        split
        · exact endsWithin_pure _
        · exact endsWithin_get_bind fun _ _ => endsWithin_tryConnect _ address
      apply first.bind
      intro tried
      cases tried with
      | none => exact endsWithin_pure _
      | some errno => exact induction errno

theorem endsWithin_perform (operation : Connecting.Operation) :
    EndsWithin (fun _ => True) (Connecting.perform kernel errnoString operation) := by
  cases operation with
  | close => exact endsWithin_modify fun _ _ => trivial
  | connect host port addresses =>
      apply endsWithin_get_bind
      intro resources _
      apply EndsWithin.ite
      · exact endsWithin_throw _
      · cases addresses with
        | error reason => exact endsWithin_throw _
        | ok addresses =>
            apply (endsWithin_modify fun _ _ => trivial).bind
            intro _
            apply (endsWithin_tryAddresses addresses (.other 0)).bind
            intro tried
            apply (endsWithin_modify fun _ _ => trivial).bind
            intro _
            cases tried with
            | none => exact endsWithin_pure _
            | some errno => exact endsWithin_throw _

end

/-- A call that ended with an exception of `set_nonblocking`. -/
def Leaks : Except TcpError PUnit → Bool
  | .ok _ => false
  | .error fault => decide (FcntlFault fault)

/-- The descriptors that the client has. -/
def Resources.owned (resources : Resources) : ℕ := if 0 ≤ resources.client.fd then 1 else 0

theorem owned_of_open {resources : Resources} (nonneg : 0 ≤ resources.client.fd) :
    resources.owned = 1 :=
  if_pos nonneg

theorem owned_of_closed {resources : Resources} (closed : resources.client.fd < 0) :
    resources.owned = 0 :=
  if_neg (by omega)

/-- What is open after so many calls that leaked: the descriptor of the client and, of each
call that leaked, one descriptor and one address list. -/
structure Balanced (leaks : ℕ) (resources : Resources) : Prop where
  distinct : (resources.descriptors.map Prod.fst).Nodup
  addressLists : resources.addressLists = leaks
  length : resources.descriptors.length = leaks + resources.owned
  own : 0 ≤ resources.client.fd → (resources.client.fd, false) ∈ resources.descriptors

theorem balanced_start : Balanced 0 .start where
  distinct := .nil
  addressLists := rfl
  length := rfl
  own := fun nonneg => absurd nonneg (by decide)

theorem distinct_holding {resources : Resources} {fd : Int} (flag : Bool)
    (distinct : (resources.descriptors.map Prod.fst).Nodup)
    (unused : fd ∉ resources.descriptors.map Prod.fst) :
    ((resources.holding fd flag).descriptors.map Prod.fst).Nodup := by
  simp only [Resources.holding, List.map_append, List.map_cons, List.map_nil]
  rw [← List.concat_eq_append, List.nodup_concat]
  exact ⟨unused, distinct⟩

theorem Balanced.connects {leaks : ℕ} {resources final : Resources}
    {outcome : Except TcpError PUnit} (balanced : Balanced leaks resources)
    (connects : Connects resources outcome final) :
    Balanced (leaks + (Leaks outcome).toNat) final := by
  have length := balanced.length
  cases connects with
  | refused other =>
      simpa only [Leaks, other, decide_false, Bool.toNat_false, Nat.add_zero] using balanced
  | @connected fd closed unused nonneg =>
      rw [owned_of_closed closed] at length
      refine ⟨distinct_holding false balanced.distinct unused, balanced.addressLists, ?_, ?_⟩
      · rw [owned_of_open nonneg]
        simp only [Resources.kept, Resources.holding, List.length_append, List.length_singleton,
          Leaks, Bool.toNat_false]
        omega
      · intro _
        simp only [Resources.kept, Resources.holding, List.mem_append, List.mem_singleton,
          or_true]
  | leaked flag closed unused fcntl =>
      rw [owned_of_closed closed] at length
      simp only [Leaks, fcntl, decide_true, Bool.toNat_true]
      refine ⟨distinct_holding flag balanced.distinct unused, ?_, ?_, ?_⟩
      · exact congrArg (· + 1) balanced.addressLists
      · change (resources.descriptors ++ [_]).length = leaks + 1 + resources.owned
        rw [owned_of_closed closed, List.length_append, List.length_singleton]
        omega
      · intro (nonneg : 0 ≤ resources.client.fd)
        omega

/-- One descriptor of a number is closed with that number. -/
theorem length_closed {descriptors : List (Int × Bool)} {fd : Int} {flag : Bool}
    (distinct : (descriptors.map Prod.fst).Nodup) (member : (fd, flag) ∈ descriptors) :
    (descriptors.filter (·.1 ≠ fd)).length + 1 = descriptors.length := by
  have named : fd ∈ descriptors.map Prod.fst := List.mem_map_of_mem member
  have once : descriptors.countP (fun descriptor => descriptor.1 = fd) = 1 := by
    have counted := distinct.count (a := fd)
    rw [if_pos named] at counted
    rw [List.count, List.countP_map] at counted
    rw [← counted]
    apply List.countP_congr
    intro descriptor _
    simp
  have parts := List.length_eq_countP_add_countP
    (fun descriptor : Int × Bool => decide (descriptor.1 = fd)) (l := descriptors)
  rw [← List.countP_eq_length_filter]
  simp only [decide_eq_true_eq, ne_eq, decide_not] at parts ⊢
  omega

theorem Balanced.close {leaks : ℕ} {resources final : Resources}
    {outcome : Except TcpError PUnit} (balanced : Balanced leaks resources)
    (ends : Connecting.close.Ends resources outcome final) :
    Balanced (leaks + (Leaks outcome).toNat) final := by
  cases ends
  by_cases nonneg : resources.client.fd ≥ 0
  · have shorter := length_closed balanced.distinct (balanced.own nonneg)
    have length := balanced.length
    rw [owned_of_open nonneg] at length
    simp only [if_pos nonneg]
    refine ⟨?_, balanced.addressLists, ?_, ?_⟩
    · exact balanced.distinct.sublist (List.filter_sublist.map _)
    · change (resources.descriptors.filter _).length = leaks + 0
      omega
    · intro (impossible : (0 : Int) ≤ -1)
      omega
  · simp only [if_neg nonneg]
    exact balanced

section

variable (kernel : Kernel) (errnoString : Errno → String)

theorem Balanced.performAll {leaks : ℕ} {resources : Resources}
    (balanced : Balanced leaks resources) (operations : List Connecting.Operation) :
    ∃ outcomes final,
      Connecting.performAll kernel errnoString operations resources = some (outcomes, final) ∧
      outcomes.length = operations.length ∧
      Balanced (leaks + outcomes.countP Leaks) final := by
  induction operations generalizing leaks resources with
  | nil => exact ⟨[], resources, rfl, rfl, balanced⟩
  | cons operation later induction =>
      have performs : EndsWithin (fun _ => True)
          (Connecting.perform kernel errnoString operation) := endsWithin_perform operation
      rcases performs resources trivial with ⟨outcome, middle, ends, _⟩
      have step : Balanced (leaks + (Leaks outcome).toNat) middle := by
        cases operation with
        | connect host port addresses => exact balanced.connects (connects_of_ends ends)
        | close => exact balanced.close ends
      rcases induction step with ⟨outcomes, final, performed, length, kept⟩
      refine ⟨outcome :: outcomes, final, ?_, congrArg (· + 1) length, ?_⟩
      · have first : (Connecting.perform kernel errnoString operation).run resources =
            some (outcome, middle) := ends
        rw [Connecting.performAll, first]
        simp only [Option.bind_eq_bind, Option.bind_some, performed, Option.pure_def]
      · rw [List.countP_cons]
        cases leaked : Leaks outcome with
        | false => simpa [leaked] using kept
        | true => simpa [leaked, Nat.add_right_comm, Nat.add_assoc] using kept

/-- Whatever the system does, each call ends, and after any calls nothing is open but the
descriptor of the client and what the exceptions of `set_nonblocking` left. -/
theorem connections_balanced (operations : List Connecting.Operation) :
    ∃ outcomes final,
      Connecting.performAll kernel errnoString operations .start = some (outcomes, final) ∧
      outcomes.length = operations.length ∧ Balanced (outcomes.countP Leaks) final := by
  simpa only [Nat.zero_add] using balanced_start.performAll kernel errnoString operations

end

-- The last `fcntl` fails, and neither the socket nor the list is released by `close`.
example :
    let address : Address := ⟨none, .done, .connected, .ready, .none, .setFailed (.other 9)⟩
    let operations := [.connect "192.168.3.1" 28784#16 (.ok [address]), .close]
    (Connecting.performAll default (fun _ => "") operations .start).map
      (fun run => (run.2.client.fd, run.2.descriptors, run.2.addressLists)) =
        some (-1, [(3, true)], 1) := by
  rfl

end AsterxDriver.Driver
