import AsterxDriver.Driver.TcpClient
import AsterxDriver.Recorder.Recording

/-! # The recording loop

The loop of `main` that reads from the data channel and feeds the recorder. -/

namespace AsterxDriver.Driver

open Foundation Recorder

/-- What `main` has set up before the loop. -/
structure Setup where
  data : TcpClient
  isOpen : 0 ≤ data.fd
  errnoString : Errno → String
  environment : Environment
  config : Config
  disk : Dict String (List Byte)

/-- One turn of the loop: `g_stop` when it is tested, and what the read does. -/
structure Turn where
  stop : Bool
  event : ReadEvent Byte

inductive LoopExit
  | stopRequested
  | closedByPeer
  | readError (fault : TcpError)
  /-- The loop catches no other exception than that of the client. -/
  | fatal (fault : RecorderError)
  deriving DecidableEq, Repr

/-- The state of the loop, with the reads made and the chunks fed so far. -/
structure RecordingLoop where
  recorder : SbfRecorder
  exit : Option LoopExit
  reads : List (ReadEvent Byte)
  fed : List (List Byte)

namespace Setup

variable (setup : Setup)

def start : RecordingLoop := ⟨.fresh setup.config setup.disk, none, [], []⟩

def readSome (event : ReadEvent Byte) : Except TcpError (List Byte) :=
  setup.data.readSome setup.errnoString 10000 event

def turn (loop : RecordingLoop) (turn : Turn) : RecordingLoop :=
  if loop.exit.isSome then loop
  else if turn.stop then { loop with exit := some .stopRequested }
  else
    let loop := { loop with reads := loop.reads ++ [turn.event] }
    match setup.readSome turn.event with
    | .error fault => { loop with exit := some (.readError fault) }
    | .ok [] => { loop with exit := some .closedByPeer }
    | .ok bytes =>
        let loop := { loop with fed := loop.fed ++ [bytes] }
        match loop.recorder.feed setup.environment bytes with
        | .error fault => { loop with exit := some (.fatal fault) }
        | .ok recorder => { loop with recorder := recorder }

/-- The loop after the first `n` turns of a finite or infinite sequence. -/
def after (turns : ℕ → Option Turn) : ℕ → RecordingLoop
  | 0 => setup.start
  | n + 1 =>
      match turns n with
      | none => after turns n
      | some turn => setup.turn (after turns n) turn

end Setup

/-! ## Interruptions -/

namespace ReadEvent

/-- What `recv` returned. -/
def bytes : ReadEvent β → List β
  | .received bytes => bytes
  | _ => []

def Interrupted : ReadEvent β → Prop
  | .pollFailed errno => errno = .eintr
  | .recvFailed errno => errno = .eintr
  | _ => False

end ReadEvent

section

variable {setup : Setup}

theorem readSome_eq_nil_iff {event : ReadEvent Byte} :
    setup.readSome event = .ok [] ↔ event.Interrupted ∨ event = .received [] := by
  unfold Setup.readSome TcpClient.readSome
  rw [if_neg (not_lt.mpr setup.isOpen)]
  cases event with
  | pollFailed errno => cases errno <;> simp [ReadEvent.Interrupted]
  | pollTimeout => simp [ReadEvent.Interrupted]
  | recvFailed errno => cases errno <;> simp [ReadEvent.Interrupted]
  | received bytes => simp [ReadEvent.Interrupted]

theorem readSome_eq_cons_iff {event : ReadEvent Byte} {first : Byte} {later : List Byte} :
    setup.readSome event = .ok (first :: later) ↔ event = .received (first :: later) := by
  unfold Setup.readSome TcpClient.readSome
  rw [if_neg (not_lt.mpr setup.isOpen)]
  cases event with
  | pollFailed errno => cases errno <;> simp
  | pollTimeout => simp
  | recvFailed errno => cases errno <;> simp
  | received bytes => simp

theorem bytes_of_readSome_error {event : ReadEvent Byte} {fault : TcpError}
    (failed : setup.readSome event = .error fault) : event.bytes = [] := by
  unfold Setup.readSome TcpClient.readSome at failed
  rw [if_neg (not_lt.mpr setup.isOpen)] at failed
  cases event with
  | received bytes => cases failed
  | _ => rfl

theorem turn_stop {loop : RecordingLoop} (running : loop.exit = none) {turn : Turn}
    (stop : turn.stop = true) :
    setup.turn loop turn = { loop with exit := some .stopRequested } := by
  simp [Setup.turn, running, stop]

theorem turn_error {loop : RecordingLoop} (running : loop.exit = none) {turn : Turn}
    (continues : turn.stop = false) {fault : TcpError}
    (failed : setup.readSome turn.event = .error fault) :
    setup.turn loop turn =
      { loop with reads := loop.reads ++ [turn.event], exit := some (.readError fault) } := by
  simp [Setup.turn, running, continues, failed]

theorem turn_empty {loop : RecordingLoop} (running : loop.exit = none) {turn : Turn}
    (continues : turn.stop = false) (empty : setup.readSome turn.event = .ok []) :
    setup.turn loop turn =
      { loop with reads := loop.reads ++ [turn.event], exit := some .closedByPeer } := by
  simp [Setup.turn, running, continues, empty]

theorem turn_delivers {loop : RecordingLoop} (running : loop.exit = none) {turn : Turn}
    (continues : turn.stop = false) {first : Byte} {later : List Byte}
    (received : turn.event = .received (first :: later)) :
    setup.turn loop turn =
      match loop.recorder.feed setup.environment (first :: later) with
      | .error fault =>
          { loop with
            reads := loop.reads ++ [.received (first :: later)]
            fed := loop.fed ++ [first :: later]
            exit := some (.fatal fault) }
      | .ok recorder =>
          { loop with
            reads := loop.reads ++ [.received (first :: later)]
            fed := loop.fed ++ [first :: later]
            recorder := recorder } := by
  have read : setup.readSome (.received (first :: later)) = .ok (first :: later) :=
    readSome_eq_cons_iff.mpr rfl
  simp [Setup.turn, running, continues, received, read]

theorem turn_left {loop : RecordingLoop} (left : loop.exit.isSome) (turn : Turn) :
    setup.turn loop turn = loop := by
  rw [Setup.turn, if_pos left]

end

/-! ## As long as data comes -/

def Turn.Delivers (turn : Turn) : Prop :=
  turn.stop = false ∧ ∃ first later, turn.event = .received (first :: later)

def DeliverBefore (turns : ℕ → Option Turn) (n : ℕ) : Prop :=
  ∀ k < n, ∀ turn, turns k = some turn → turn.Delivers

/-- The chunks that the first `n` turns receive. -/
def chunksBefore (turns : ℕ → Option Turn) (n : ℕ) : List (List Byte) :=
  (List.range n).filterMap fun k => (turns k).map (·.event.bytes)

/-- The recorder takes the chunks one after another. -/
def Setup.Takes (setup : Setup) (chunks : List (List Byte)) (recorder : SbfRecorder) : Prop :=
  (SbfRecorder.fresh setup.config setup.disk).run setup.environment (chunks.map .feed) =
    .ok recorder

structure Running (setup : Setup) (turns : ℕ → Option Turn) (n : ℕ) : Prop where
  delivered : DeliverBefore turns n
  exit : (setup.after turns n).exit = none
  reads : (setup.after turns n).reads = (chunksBefore turns n).map .received
  fed : (setup.after turns n).fed = chunksBefore turns n
  taken : setup.Takes (chunksBefore turns n) (setup.after turns n).recorder

section

variable {setup : Setup} {turns : ℕ → Option Turn} {n : ℕ}

theorem DeliverBefore.succ (before : DeliverBefore turns n)
    (now : ∀ turn, turns n = some turn → turn.Delivers) : DeliverBefore turns (n + 1) := by
  intro k less turn here
  rcases Nat.lt_succ_iff_lt_or_eq.mp less with earlier | rfl
  · exact before k earlier turn here
  · exact now turn here

theorem chunksBefore_of_none (none : turns n = none) :
    chunksBefore turns (n + 1) = chunksBefore turns n := by
  simp [chunksBefore, List.range_succ, none]

theorem chunksBefore_of_some {turn : Turn} (some : turns n = some turn) :
    chunksBefore turns (n + 1) = chunksBefore turns n ++ [turn.event.bytes] := by
  simp [chunksBefore, List.range_succ, some]

theorem Setup.Takes.append {chunks : List (List Byte)} {recorder : SbfRecorder}
    (taken : setup.Takes chunks recorder) (chunk : List Byte) (next : SbfRecorder) :
    setup.Takes (chunks ++ [chunk]) next ↔
      recorder.feed setup.environment chunk = .ok next := by
  unfold Setup.Takes SbfRecorder.run at *
  rw [List.map_append, List.foldlM_append, taken, Checked.ok_bind]
  rw [List.map_singleton, List.foldlM_cons, SbfRecorder.apply]
  cases recorder.feed setup.environment chunk with
  | error fault => exact Iff.rfl
  | ok fed => exact Iff.rfl

theorem Running.start : Running setup turns 0 where
  delivered := fun _ impossible => absurd impossible (Nat.not_lt_zero _)
  exit := rfl
  reads := rfl
  fed := rfl
  taken := rfl

theorem after_of_none (none : turns n = none) :
    setup.after turns (n + 1) = setup.after turns n := by
  rw [Setup.after, none]

theorem after_of_some {turn : Turn} (some : turns n = some turn) :
    setup.after turns (n + 1) = setup.turn (setup.after turns n) turn := by
  rw [Setup.after, some]

theorem Running.of_none (running : Running setup turns n) (none : turns n = none) :
    Running setup turns (n + 1) where
  delivered := running.delivered.succ fun turn some => by rw [none] at some; cases some
  exit := by rw [after_of_none none, running.exit]
  reads := by rw [after_of_none none, chunksBefore_of_none none, running.reads]
  fed := by rw [after_of_none none, chunksBefore_of_none none, running.fed]
  taken := by rw [after_of_none none, chunksBefore_of_none none]; exact running.taken

theorem Running.delivered_succ (running : Running setup turns n) {turn : Turn}
    (some : turns n = some turn) (delivers : turn.Delivers) : DeliverBefore turns (n + 1) := by
  apply running.delivered.succ
  intro other same
  rw [some] at same
  cases same
  exact delivers

theorem Running.takes_iff (running : Running setup turns n) {turn : Turn} {chunk : List Byte}
    (some : turns n = some turn) (received : turn.event = .received chunk)
    (recorder : SbfRecorder) :
    setup.Takes (chunksBefore turns (n + 1)) recorder ↔
      (setup.after turns n).recorder.feed setup.environment chunk = .ok recorder := by
  rw [chunksBefore_of_some some, received, ReadEvent.bytes, running.taken.append]

theorem Running.of_some (running : Running setup turns n) {turn : Turn}
    (some : turns n = some turn) (delivers : turn.Delivers) {recorder : SbfRecorder}
    (taken : setup.Takes (chunksBefore turns (n + 1)) recorder) :
    Running setup turns (n + 1) := by
  have delivered := running.delivered_succ some delivers
  rcases delivers with ⟨continues, first, later, received⟩
  have fed := (running.takes_iff some received recorder).mp taken
  have chunks := chunksBefore_of_some some
  rw [received, ReadEvent.bytes] at chunks
  have state : setup.after turns (n + 1) = setup.turn (setup.after turns n) turn :=
    after_of_some some
  rw [turn_delivers running.exit continues received, fed] at state
  refine ⟨delivered, ?_, ?_, ?_, ?_⟩
  · rw [state]
    exact running.exit
  · rw [state, chunks, List.map_append, running.reads]
    rfl
  · rw [state, chunks, running.fed]
  · rw [state]
    exact taken

/-- A turn that brings nothing for the recorder leaves the loop. -/
theorem Running.exit_of_stuck (running : Running setup turns n) {turn : Turn}
    (some : turns n = some turn)
    (stuck : ¬∃ recorder, turn.Delivers ∧ setup.Takes (chunksBefore turns (n + 1)) recorder) :
    (setup.after turns (n + 1)).exit.isSome := by
  rw [after_of_some some]
  cases stop : turn.stop with
  | true =>
      rw [turn_stop running.exit stop]
      rfl
  | false =>
      cases read : setup.readSome turn.event with
      | error fault =>
          rw [turn_error running.exit stop read]
          rfl
      | ok bytes =>
          cases bytes with
          | nil =>
              rw [turn_empty running.exit stop read]
              rfl
          | cons first later =>
              have received := readSome_eq_cons_iff.mp read
              rw [turn_delivers running.exit stop received]
              cases fed : (setup.after turns n).recorder.feed setup.environment
                  (first :: later) with
              | error fault => rfl
              | ok recorder =>
                  refine absurd ⟨recorder, ⟨stop, first, later, received⟩, ?_⟩ stuck
                  exact (running.takes_iff some received recorder).mpr fed

/-- The loop is running, or it was left in one of the turns so far. -/
theorem running_or_left (setup : Setup) (turns : ℕ → Option Turn) (n : ℕ) :
    Running setup turns n ∨
      ∃ k < n, ∃ turn, Running setup turns k ∧ turns k = some turn ∧
        setup.after turns n = setup.turn (setup.after turns k) turn ∧
        (setup.after turns n).exit.isSome ∧
        ¬∃ recorder, turn.Delivers ∧ setup.Takes (chunksBefore turns (k + 1)) recorder := by
  induction n with
  | zero => exact .inl .start
  | succ n induction =>
      cases here : turns n with
      | none =>
          rcases induction with running | ⟨k, less, turn, facts⟩
          · exact .inl (running.of_none here)
          · rw [after_of_none here]
            exact .inr ⟨k, by omega, turn, facts⟩
      | some turn =>
          rcases induction with running | ⟨k, less, last, running, some, state, left, stuck⟩
          · by_cases goes :
              ∃ recorder, turn.Delivers ∧ setup.Takes (chunksBefore turns (n + 1)) recorder
            · rcases goes with ⟨recorder, delivers, taken⟩
              exact .inl (running.of_some here delivers taken)
            · exact .inr ⟨n, by omega, turn, running, here, after_of_some here,
                running.exit_of_stuck here goes, goes⟩
          · refine .inr ⟨k, by omega, last, running, some, ?_, ?_, stuck⟩
            · rw [after_of_some here, turn_left left, state]
            · rw [after_of_some here, turn_left left]
              exact left

end

/-! ## Reasons to leave the loop -/

/-- Nothing that was received is lost, and the loop is left only because of
`g_stop`, a closed connection or an error; a read of no bytes is a closed
connection. -/
structure EndsForReason (setup : Setup) (turns : ℕ → Option Turn) : Prop where
  nothingLost : ∀ n, (setup.after turns n).fed.flatten =
    (setup.after turns n).reads.flatMap ReadEvent.bytes
  reason : ∀ n, (setup.after turns n).exit.isSome →
    (∃ k < n, ∃ turn, turns k = some turn ∧ turn.stop = true ∧
      (setup.after turns n).exit = some .stopRequested) ∨
    (setup.after turns n).reads.getLast? = some (.received []) ∨
    ∃ event fault, (setup.after turns n).reads.getLast? = some event ∧
      setup.readSome event = .error fault
  closed : ∀ n, ∀ event ∈ (setup.after turns n).reads,
    setup.readSome event = .ok [] → event = .received []

section

variable {setup : Setup} {turns : ℕ → Option Turn} {n : ℕ}

theorem Running.nothingLost (running : Running setup turns n) :
    (setup.after turns n).fed.flatten =
      (setup.after turns n).reads.flatMap ReadEvent.bytes := by
  rw [running.fed, running.reads, List.flatMap_map]
  simp [ReadEvent.bytes, List.flatMap_id']

theorem Running.nonempty (running : Running setup turns n) :
    ∀ event ∈ (setup.after turns n).reads, setup.readSome event ≠ .ok [] := by
  rw [running.reads]
  intro event member empty
  rcases List.mem_map.mp member with ⟨chunk, inside, rfl⟩
  rcases List.mem_filterMap.mp inside with ⟨k, less, found⟩
  rcases Option.map_eq_some_iff.mp found with ⟨turn, here, bytes⟩
  rcases running.delivered k (List.mem_range.mp less) turn here with ⟨_, first, later, received⟩
  rw [received, ReadEvent.bytes] at bytes
  subst bytes
  have read : setup.readSome (.received (first :: later)) = .ok (first :: later) :=
    readSome_eq_cons_iff.mpr rfl
  rw [read] at empty
  cases empty

/-- No call that the loop makes is interrupted. -/
def Uninterrupted (turns : ℕ → Option Turn) : Prop :=
  ∀ n turn, DeliverBefore turns n → turns n = some turn → turn.stop = false →
    ¬turn.event.Interrupted

/-- The loop was left in turn `n` for a reason. -/
theorem left_for_reason {turn : Turn} (running : Running setup turns n)
    (stuck : ¬turn.Delivers)
    (uninterrupted : turn.stop = false → ¬turn.event.Interrupted) :
    let loop := setup.turn (setup.after turns n) turn
    loop.fed.flatten = loop.reads.flatMap ReadEvent.bytes ∧
    (turn.stop = true ∧ loop.exit = some .stopRequested ∨
      loop.reads.getLast? = some (.received []) ∨
      ∃ event fault, loop.reads.getLast? = some event ∧ setup.readSome event = .error fault) ∧
    ∀ event ∈ loop.reads, setup.readSome event = .ok [] → event = .received [] := by
  cases stop : turn.stop with
  | true =>
      rw [turn_stop running.exit stop]
      refine ⟨running.nothingLost, .inl ⟨rfl, rfl⟩, ?_⟩
      intro event member empty
      exact absurd empty (running.nonempty event member)
  | false =>
      cases read : setup.readSome turn.event with
      | error fault =>
          rw [turn_error running.exit stop read]
          refine ⟨?_, .inr (.inr ⟨turn.event, fault, by simp, read⟩), ?_⟩
          · simp [running.nothingLost, bytes_of_readSome_error read]
          · intro event member empty
            rcases List.mem_append.mp member with earlier | now
            · exact absurd empty (running.nonempty event earlier)
            · rw [List.mem_singleton.mp now, read] at empty
              cases empty
      | ok bytes =>
          cases bytes with
          | nil =>
              have closed : turn.event = .received [] :=
                (readSome_eq_nil_iff.mp read).resolve_left (uninterrupted stop)
              rw [turn_empty running.exit stop read]
              refine ⟨?_, .inr (.inl (by simp [closed])), ?_⟩
              · simp [running.nothingLost, closed, ReadEvent.bytes]
              · intro event member empty
                rcases List.mem_append.mp member with earlier | now
                · exact absurd empty (running.nonempty event earlier)
                · rw [List.mem_singleton.mp now, closed]
          | cons first later =>
              exact absurd ⟨stop, first, later, readSome_eq_cons_iff.mp read⟩ stuck

/-- A loop that ends for a reason only is not left while data comes: the recorder
has taken all of it. -/
theorem EndsForReason.running (ends : EndsForReason setup turns)
    (delivered : DeliverBefore turns n) : Running setup turns n := by
  rcases running_or_left setup turns n with running | ⟨k, less, turn, running, some, state,
    left, stuck⟩
  · exact running
  · exfalso
    rcases delivered k less turn some with ⟨continues, first, later, received⟩
    rw [turn_delivers running.exit continues received] at state
    cases fed : (setup.after turns k).recorder.feed setup.environment (first :: later) with
    | ok recorder =>
        exact stuck ⟨recorder, ⟨continues, first, later, received⟩,
          (running.takes_iff some received recorder).mpr fed⟩
    | error fault =>
        rw [fed] at state
        have read : setup.readSome (.received (first :: later)) = .ok (first :: later) :=
          readSome_eq_cons_iff.mpr rfl
        rcases ends.reason n left with ⟨_, _, _, _, _, stopped⟩ | closed | ⟨event, fault, last,
          failed⟩
        · rw [state] at stopped
          cases stopped
        · rw [state] at closed
          simp at closed
        · rw [state] at last
          simp only [List.getLast?_append, List.getLast?_singleton, Option.some_or,
            Option.some.injEq] at last
          rw [← last, read] at failed
          cases failed

theorem EndsForReason.uninterrupted (ends : EndsForReason setup turns) :
    Uninterrupted turns := by
  intro n turn delivered some continues interrupted
  have running := ends.running delivered
  have empty : setup.readSome turn.event = .ok [] :=
    readSome_eq_nil_iff.mpr (.inl interrupted)
  have closed : turn.event = .received [] := by
    apply ends.closed (n + 1) turn.event
    · rw [after_of_some some, turn_empty running.exit continues empty]
      simp
    · exact empty
  rw [closed] at interrupted
  exact interrupted

/-- When the recorder takes all that it is fed, only a turn without data leaves
the loop. -/
theorem running_or_stuck (taken : ∀ n, DeliverBefore turns n →
    ∃ recorder, setup.Takes (chunksBefore turns n) recorder) (n : ℕ) :
    Running setup turns n ∨ ∃ k < n, ∃ turn, Running setup turns k ∧ turns k = some turn ∧
      setup.after turns n = setup.turn (setup.after turns k) turn ∧ ¬turn.Delivers := by
  rcases running_or_left setup turns n with running | ⟨k, less, turn, running, some, state,
    left, stuck⟩
  · exact .inl running
  · refine .inr ⟨k, less, turn, running, some, state, ?_⟩
    intro delivers
    rcases taken (k + 1) (running.delivered_succ some delivers) with ⟨recorder, now⟩
    exact stuck ⟨recorder, delivers, now⟩

end

/-- What was received is recorded and the loop ends for a reason, if and only if
no call is interrupted and the recorder takes all that it is fed. -/
theorem endsForReason_iff (setup : Setup) (turns : ℕ → Option Turn) :
    EndsForReason setup turns ↔
      Uninterrupted turns ∧
      ∀ n, DeliverBefore turns n → ∃ recorder, setup.Takes (chunksBefore turns n) recorder := by
  constructor
  · intro ends
    refine ⟨ends.uninterrupted, ?_⟩
    intro n delivered
    exact ⟨_, (ends.running delivered).taken⟩
  · rintro ⟨uninterrupted, taken⟩
    refine ⟨?_, ?_, ?_⟩
    · intro n
      rcases running_or_stuck taken n with running | ⟨k, less, turn, running, some, state, stuck⟩
      · exact running.nothingLost
      · rw [state]
        exact (left_for_reason running stuck
          (uninterrupted k turn running.delivered some)).1
    · intro n left
      rcases running_or_stuck taken n with running | ⟨k, less, turn, running, some, state, stuck⟩
      · rw [running.exit] at left
        cases left
      · rw [state]
        rcases (left_for_reason running stuck
          (uninterrupted k turn running.delivered some)).2.1 with ⟨stop, exit⟩ | real
        · exact .inl ⟨k, less, turn, some, stop, exit⟩
        · exact .inr real
    · intro n event member empty
      rcases running_or_stuck taken n with running | ⟨k, less, turn, running, some, state, stuck⟩
      · exact absurd empty (running.nonempty event member)
      · rw [state] at member
        exact (left_for_reason running stuck
          (uninterrupted k turn running.delivered some)).2.2 event member empty

/-- A recording on which every file operation succeeds. -/
def quietSetup : Setup where
  data := ⟨5⟩
  isOpen := by decide
  errnoString := fun _ => ""
  environment := ⟨fun _ => "", fun _ => 0, fun _ _ => none, fun _ count => count⟩
  config := ⟨"out", "asterx", 1000, 3600⟩
  disk := ∅

/-- `poll` is interrupted by a signal in the first turn. -/
def interruptedPoll : ℕ → Option Turn
  | 0 => some ⟨false, .pollFailed .eintr⟩
  | _ => none

theorem interruptedPoll_ends :
    (quietSetup.after interruptedPoll 1).exit = some .closedByPeer ∧
    ¬EndsForReason quietSetup interruptedPoll := by
  refine ⟨rfl, ?_⟩
  intro ends
  have closed := ends.closed 1 (.pollFailed .eintr) (by decide) rfl
  cases closed

end AsterxDriver.Driver
