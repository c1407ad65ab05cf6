import AsterxDriver.Foundation.Transitions
import AsterxDriver.Recorder.Fidelity

/-! # Rotation

The recorder one operation at a time, with a log of the files it opened and of
those it left by rotation. The loop of `feed` writes a frame and then looks
whether the file is full, so a file is never more than one frame above its
limit. -/

namespace AsterxDriver.Recorder

open Foundation ByteString Sbf

/-! ## Operations -/

/-- Where `feed` stands, with the frames it has not written yet. -/
inductive Phase
  | idle
  | writing (later : List Frame)
  | rotating (later : List Frame)
  deriving DecidableEq

def Phase.later : Phase → List Frame
  | .idle => []
  | .writing later => later
  | .rotating later => later

structure Machine where
  recorder : SbfRecorder
  phase : Phase
  /-- The files that were opened, in this order. -/
  opened : List String
  /-- The files that were open when another one was opened. -/
  abandoned : List String

inductive Operation
  | feed (bytes : List Byte)
  | writeFrame
  | rotateIfNeeded
  | done
  | close

namespace Machine

def fresh (config : Config) (disk : Dict String (List Byte)) : Machine :=
  ⟨.fresh config disk, .idle, [], []⟩

/-- The machine after an operation of the recorder; only opening a file changes
`seq_`. -/
def moved (machine : Machine) (recorder : SbfRecorder) (phase : Phase) : Machine where
  recorder := recorder
  phase := phase
  opened :=
    if recorder.seq = machine.recorder.seq then machine.opened
    else machine.opened ++ [recorder.currentPath]
  abandoned :=
    if recorder.seq = machine.recorder.seq ∨ machine.recorder.isOpen = false then
      machine.abandoned
    else machine.abandoned ++ [machine.recorder.currentPath]

variable (environment : Environment)

/-- The front of `feed`, up to its loop. -/
def receive (recorder : SbfRecorder) (bytes : List Byte) :
    Except RecorderError (SbfRecorder × List Frame) := do
  let ready ← recorder.ensureOpen environment
  let (sync, out) ← (ready.sync.feed bytes).mapError .undefinedBehaviour
  return (ready.addDrops sync, out)

/-- One operation, if it is the next one and does not fail. -/
def step (machine : Machine) (operation : Operation) : Option Machine :=
  match machine.phase, operation with
  | .idle, .feed bytes =>
      (receive environment machine.recorder bytes).toOption.map fun received =>
        machine.moved received.1 (.writing received.2)
  | .writing (frame :: later), .writeFrame =>
      (machine.recorder.writeFrame environment frame).toOption.map fun next =>
        machine.moved next (.rotating later)
  | .rotating later, .rotateIfNeeded =>
      (machine.recorder.rotateIfNeeded environment).toOption.map fun next =>
        machine.moved next (.writing later)
  | .writing [], .done => some (machine.moved machine.recorder .idle)
  | .idle, .close => some (machine.moved machine.recorder.close .idle)
  | _, _ => none

/-- The states of a recorder that starts on `disk`. -/
abbrev Reaches (config : Config) (disk : Dict String (List Byte)) : Machine → Prop :=
  Reached (step environment) (fun _ _ => True) (fresh config disk)

end Machine

/-! ## The calls as operations -/

section

variable {environment : Environment} {config : Config} {disk : Dict String (List Byte)}

theorem Machine.Reaches.step {machine next : Machine}
    (reached : machine.Reaches environment config disk) (operation : Operation)
    (steps : machine.step environment operation = some next) :
    next.Reaches environment config disk :=
  Reached.next operation reached trivial steps

/-- The loop of `feed`. -/
theorem reaches_loop {frames : List Frame} {machine : Machine} {final : SbfRecorder}
    (reached : machine.Reaches environment config disk) (phase : machine.phase = .writing frames)
    (ran : frames.foldlM (SbfRecorder.writeAndRotate environment) machine.recorder = .ok final) :
    ∃ after : Machine, after.Reaches environment config disk ∧ after.phase = .idle ∧
      after.recorder = final := by
  induction frames generalizing machine with
  | nil =>
      cases ran
      refine ⟨machine.moved machine.recorder .idle, reached.step .done ?_, rfl, rfl⟩
      simp only [Machine.step, phase]
  | cons frame later induction =>
      rw [List.foldlM_cons] at ran
      rcases Checked.bind_eq_ok.mp ran with ⟨rotated, once, rest⟩
      rcases Checked.bind_eq_ok.mp once with ⟨wrote, write, rotate⟩
      have afterWrite : (machine.moved wrote (.rotating later)).Reaches environment config disk :=
        reached.step .writeFrame (by
          simp only [Machine.step, phase, write]
          rfl)
      have afterRotate : ((machine.moved wrote (.rotating later)).moved rotated
          (.writing later)).Reaches environment config disk :=
        afterWrite.step .rotateIfNeeded (by
          simp only [Machine.step, Machine.moved, rotate]
          rfl)
      exact induction afterRotate rfl rest

theorem reaches_apply {machine : Machine} {call : Call} {final : SbfRecorder}
    (reached : machine.Reaches environment config disk) (idle : machine.phase = .idle)
    (ran : machine.recorder.apply environment call = .ok final) :
    ∃ after : Machine, after.Reaches environment config disk ∧ after.phase = .idle ∧
      after.recorder = final := by
  cases call with
  | close =>
      cases ran
      refine ⟨machine.moved machine.recorder.close .idle,
        reached.step .close ?_, rfl, rfl⟩
      simp only [Machine.step, idle]
  | feed bytes =>
      rcases Checked.bind_eq_ok.mp ran with ⟨ready, opened, rest⟩
      rcases Checked.bind_eq_ok.mp rest with ⟨⟨sync, out⟩, fed, loop⟩
      have received : Machine.receive environment machine.recorder bytes =
          .ok (ready.addDrops sync, out) := by
        rw [Machine.receive, opened, Checked.ok_bind, fed]
        rfl
      have inside : (machine.moved (ready.addDrops sync) (.writing out)).Reaches environment
          config disk :=
        reached.step (.feed bytes) (by
          simp only [Machine.step, idle, received]
          rfl)
      exact reaches_loop inside rfl loop

/-- Every sequence of calls is a sequence of operations. -/
theorem reaches_run {calls : List Call} {machine : Machine} {final : SbfRecorder}
    (reached : machine.Reaches environment config disk) (idle : machine.phase = .idle)
    (ran : machine.recorder.run environment calls = .ok final) :
    ∃ after : Machine, after.Reaches environment config disk ∧ after.phase = .idle ∧
      after.recorder = final := by
  induction calls generalizing machine with
  | nil =>
      cases ran
      exact ⟨machine, reached, idle, rfl⟩
  | cons call later induction =>
      rw [SbfRecorder.run, List.foldlM_cons] at ran
      rcases Checked.bind_eq_ok.mp ran with ⟨next, first, rest⟩
      rcases reaches_apply reached idle first with ⟨after, reachedAfter, idleAfter, rfl⟩
      exact induction reachedAfter idleAfter rest

end

/-! ## The invariant -/

/-- The files that the recorder has made, with their sizes. -/
structure Fills (config : Config) (disk : Dict String (List Byte)) (files : List File)
    (machine : Machine) : Prop where
  holds : Holds config disk files machine.recorder
  consistent : machine.recorder.sync.Consistent
  opened : machine.opened = files.map Prod.fst
  abandoned : ∀ path ∈ machine.abandoned, ∃ frames, frames ≠ [] ∧ (path, frames) ∈ files
  sizes : ∀ file ∈ files, wireLength file.2 ≤ config.rotateBytes - 1 + 8188
  intact : ∀ frame ∈ written files ++ machine.phase.later, Intact frame
  emitted : machine.recorder.stats.framesWritten + machine.phase.later.length =
    machine.recorder.sync.stats.framesEmitted
  busy : machine.phase ≠ .idle → machine.recorder.isOpen = true
  /-- The open file is below its limit unless a frame was just written to it. -/
  room : (∀ later, machine.phase ≠ .rotating later) → machine.recorder.isOpen = true →
    machine.recorder.currentSize < config.rotateBytes
  filled : ∀ later, machine.phase = .rotating later → ∃ front frames,
    files = front ++ [(machine.recorder.currentPath, frames)] ∧ frames ≠ []

def Recorded (config : Config) (disk : Dict String (List Byte)) (machine : Machine) : Prop :=
  ∃ files, Fills config disk files machine

section

variable {environment : Environment} {config : Config} {disk : Dict String (List Byte)}

theorem Fills.fresh (config : Config) (disk : Dict String (List Byte)) :
    Fills config disk [] (.fresh config disk) where
  holds := .fresh config disk
  consistent := Tracks.fresh.consistent
  opened := rfl
  abandoned := fun _ member => absurd member List.not_mem_nil
  sizes := fun _ member => absurd member List.not_mem_nil
  intact := fun _ member => absurd member List.not_mem_nil
  emitted := rfl
  busy := fun busy => absurd rfl busy
  room := fun _ isOpen => absurd isOpen Bool.false_ne_true
  filled := fun _ impossible => by cases impossible

/-! ## One operation -/

variable {files : List File} {machine : Machine} (fills : Fills config disk files machine)

include fills

theorem Fills.moved_same {next : SbfRecorder} (holds : Holds config disk files next)
    (phase : Phase) :
    (machine.moved next phase).opened = machine.opened ∧
      (machine.moved next phase).abandoned = machine.abandoned := by
  have same : next.seq = machine.recorder.seq := by rw [holds.seq, fills.holds.seq]
  exact ⟨if_pos same, if_pos (.inl same)⟩

/-- The log after an operation that may have opened a file. -/
theorem Fills.logged {next : SbfRecorder} {more : List File}
    (holds : Holds config disk (files ++ more) next)
    (added : more = [] ∨ more = [(next.currentPath, [])])
    (left : more ≠ [] → machine.recorder.isOpen = true →
      ∃ frames, frames ≠ [] ∧ (machine.recorder.currentPath, frames) ∈ files) (phase : Phase) :
    (machine.moved next phase).opened = (files ++ more).map Prod.fst ∧
      (∀ path ∈ (machine.moved next phase).abandoned,
        ∃ frames, frames ≠ [] ∧ (path, frames) ∈ files ++ more) ∧
      ∀ file ∈ files ++ more, wireLength file.2 ≤ config.rotateBytes - 1 + 8188 := by
  rcases added with rfl | rfl
  · rw [List.append_nil] at holds ⊢
    rcases fills.moved_same holds phase with ⟨opened, abandoned⟩
    rw [opened, abandoned]
    exact ⟨fills.opened, fills.abandoned, fills.sizes⟩
  · have different : next.seq ≠ machine.recorder.seq := by
      rw [holds.seq, fills.holds.seq, List.length_append, List.length_singleton]
      omega
    refine ⟨?_, ?_, ?_⟩
    · rw [Machine.moved]
      simp only [different, if_false]
      rw [fills.opened, List.map_append]
      rfl
    · have kept : ∀ path ∈ machine.abandoned, ∃ frames, frames ≠ [] ∧
          (path, frames) ∈ files ++ [(next.currentPath, [])] := by
        intro path member
        rcases fills.abandoned path member with ⟨frames, nonempty, found⟩
        exact ⟨frames, nonempty, List.mem_append_left _ found⟩
      rw [Machine.moved]
      simp only [different, false_or]
      split
      · exact kept
      · rename_i wasOpen
        rcases left (by simp) (by simpa using wasOpen) with ⟨frames, nonempty, found⟩
        intro path member
        rcases List.mem_append.mp member with earlier | last
        · exact kept path earlier
        · rw [List.mem_singleton.mp last]
          exact ⟨frames, nonempty, List.mem_append_left _ found⟩
    · intro file member
      rcases List.mem_append.mp member with earlier | new
      · exact fills.sizes file earlier
      · rw [List.mem_singleton.mp new]
        exact Nat.zero_le _

theorem Fills.close (idle : machine.phase = .idle) :
    Fills config disk files (machine.moved machine.recorder.close .idle) := by
  rcases fills.moved_same (close_holds fills.holds) .idle with ⟨opened, abandoned⟩
  have same : machine.recorder.close.sync = machine.recorder.sync ∧
      machine.recorder.close.stats = machine.recorder.stats := by
    unfold SbfRecorder.close
    split <;> exact ⟨rfl, rfl⟩
  have closed : machine.recorder.close.isOpen = false := by
    unfold SbfRecorder.close
    split
    · rfl
    · rename_i notOpen
      exact Bool.not_eq_true _ ▸ notOpen
  exact
    { holds := close_holds fills.holds
      consistent := by rw [Machine.moved, same.1]; exact fills.consistent
      opened := opened.trans fills.opened
      abandoned := by rw [abandoned]; exact fills.abandoned
      sizes := fills.sizes
      intact := by
        have intact := fills.intact
        rw [idle] at intact
        exact intact
      emitted := by
        have emitted := fills.emitted
        rw [idle] at emitted
        rw [Machine.moved, same.1, same.2]
        exact emitted
      busy := fun busy => absurd rfl busy
      room := fun _ isOpen => absurd (closed.symm.trans isOpen) Bool.false_ne_true
      filled := fun _ impossible => by cases impossible }

theorem Fills.done (phase : machine.phase = .writing []) :
    Fills config disk files (machine.moved machine.recorder .idle) := by
  rcases fills.moved_same fills.holds .idle with ⟨opened, abandoned⟩
  exact
    { holds := fills.holds
      consistent := fills.consistent
      opened := opened.trans fills.opened
      abandoned := by rw [abandoned]; exact fills.abandoned
      sizes := fills.sizes
      intact := by
        have intact := fills.intact
        rw [phase] at intact
        exact intact
      emitted := by
        have emitted := fills.emitted
        rw [phase] at emitted
        exact emitted
      busy := fun busy => absurd rfl busy
      room := fun _ isOpen => fills.room (fun later rotating => by
        rw [phase] at rotating
        cases rotating) isOpen
      filled := fun _ impossible => by cases impossible }

/-- An abandoned file stays among the files when the last one gets a frame. -/
theorem Fills.abandoned_extended {front : List File} {path : String} {frames : List Frame}
    (same : files = front ++ [(path, frames)]) (frame : Frame) :
    ∀ other ∈ machine.abandoned, ∃ kept, kept ≠ [] ∧
      (other, kept) ∈ front ++ [(path, frames ++ [frame])] := by
  intro other member
  rcases fills.abandoned other member with ⟨kept, nonempty, found⟩
  rw [same] at found
  rcases List.mem_append.mp found with earlier | last
  · exact ⟨kept, nonempty, List.mem_append_left _ earlier⟩
  · cases List.mem_singleton.mp last
    exact ⟨frames ++ [frame], by simp, by simp⟩

/-- The open file was below its limit, so one more frame stays within the bound. -/
theorem Fills.writeFrame (reliable : environment.Reliable) {frame : Frame} {later : List Frame}
    (phase : machine.phase = .writing (frame :: later)) {next : SbfRecorder}
    (wrote : machine.recorder.writeFrame environment frame = .ok next) :
    Recorded config disk (machine.moved next (.rotating later)) := by
  have isOpen : machine.recorder.isOpen = true := fills.busy (by rw [phase]; simp)
  have below : machine.recorder.currentSize < config.rotateBytes := fills.room (fun _ rotating => by
    rw [phase] at rotating
    cases rotating) isOpen
  have intact := fills.intact
  have emitted := fills.emitted
  simp only [phase, Phase.later] at intact emitted
  have small : frame.length.toNat ≤ 8188 := (intact frame (by simp)).valid.most
  rcases writeFrame_holds reliable fills.holds isOpen frame with
    ⟨front, frames, _, rfl, wrote', holds, openNext, samePath, size, sameDrops⟩
  rw [wrote] at wrote'
  cases wrote'
  have sameSync : next.sync = machine.recorder.sync := congrArg Prod.fst sameDrops
  have sameSeq : next.seq = machine.recorder.seq := by
    rw [holds.seq, fills.holds.seq, List.length_append, List.length_append]
    rfl
  have all := written_append_frame front machine.recorder.currentPath frames frame
  have length := (holds.currentSize_eq openNext).2
  refine ⟨_,
    { holds := holds
      consistent := by rw [Machine.moved, sameSync]; exact fills.consistent
      opened := ?_
      abandoned := ?_
      sizes := ?_
      intact := ?_
      emitted := ?_
      busy := fun _ => openNext
      room := fun notRotating _ => absurd rfl (notRotating later)
      filled := fun _ _ => ⟨front, frames ++ [frame], by rw [Machine.moved, samePath], by simp⟩ }⟩
  · rw [Machine.moved]
    simp only [sameSeq, if_true]
    rw [fills.opened]
    simp
  · rw [Machine.moved]
    simp only [sameSeq, true_or, if_true]
    exact fills.abandoned_extended rfl frame
  · intro file member
    rcases List.mem_append.mp member with earlier | last
    · exact fills.sizes file (List.mem_append_left _ earlier)
    · cases List.mem_singleton.mp last
      rw [← length, size]
      omega
  · rw [all, List.append_assoc]
    exact intact
  · rw [Machine.moved, sameSync, ← emitted]
    have counted := holds.framesWritten
    have before := fills.holds.framesWritten
    rw [all, List.length_append, ← before] at counted
    simp only [Phase.later, counted, List.length_cons, List.length_nil]
    omega

/-- The file that is left holds the frame that was just written. -/
theorem Fills.rotateIfNeeded (reliable : environment.Reliable) (positive : 1 ≤ config.rotateBytes)
    {later : List Frame} (phase : machine.phase = .rotating later) {next : SbfRecorder}
    (rotated : machine.recorder.rotateIfNeeded environment = .ok next) :
    Recorded config disk (machine.moved next (.writing later)) := by
  have isOpen : machine.recorder.isOpen = true := fills.busy (by rw [phase]; simp)
  have intact := fills.intact
  have emitted := fills.emitted
  simp only [phase, Phase.later] at intact emitted
  rcases rotateIfNeeded_holds reliable fills.holds isOpen with
    ⟨more, _, rotated', holds, openNext, sameDrops, cases⟩
  rw [rotated] at rotated'
  cases rotated'
  have sameSync : next.sync = machine.recorder.sync := congrArg Prod.fst sameDrops
  have added : more = [] ∨ more = [(next.currentPath, [])] := by
    rcases cases with ⟨none, _⟩ | ⟨one, _⟩
    · exact .inl none
    · exact .inr one
  have nothing : written (files ++ more) = written files := written_append_opened added
  have sameFrames : next.stats.framesWritten = machine.recorder.stats.framesWritten := by
    rw [holds.framesWritten, fills.holds.framesWritten, nothing]
  rcases fills.logged holds added (fun _ _ => by
    rcases fills.filled later phase with ⟨front, frames, rfl, nonempty⟩
    exact ⟨frames, nonempty, by simp⟩) (.writing later) with ⟨opened, abandoned, sizes⟩
  refine ⟨files ++ more,
    { holds := holds
      consistent := by rw [Machine.moved, sameSync]; exact fills.consistent
      opened := opened
      abandoned := abandoned
      sizes := sizes
      intact := by rw [nothing]; exact intact
      emitted := by rw [Machine.moved, sameSync, sameFrames]; exact emitted
      busy := fun _ => openNext
      room := ?_
      filled := fun _ impossible => by cases impossible }⟩
  intro _ _
  change next.currentSize < config.rotateBytes
  rcases cases with ⟨_, same, below⟩ | ⟨_, empty⟩
  · rw [same]
    exact below
  · rw [empty]
    exact positive

/-- A file is opened only where none is open, and the synchronizer counts the frames
that it hands over. -/
theorem Fills.receive (reliable : environment.Reliable) (positive : 1 ≤ config.rotateBytes)
    (idle : machine.phase = .idle) {bytes : List Byte} {received : SbfRecorder × List Frame}
    (fed : Machine.receive environment machine.recorder bytes = .ok received) :
    Recorded config disk (machine.moved received.1 (.writing received.2)) := by
  have intact := fills.intact
  have emitted := fills.emitted
  simp only [idle, Phase.later, List.append_nil, List.length_nil, Nat.add_zero] at intact emitted
  rcases ensureOpen_holds reliable fills.holds with
    ⟨more, ready, opened, holdsReady, openReady, sameDrops, cases⟩
  have sameSync : ready.sync = machine.recorder.sync := congrArg Prod.fst sameDrops
  have scanned := SbfFrameSync.feed_eq fills.consistent bytes
  rw [Machine.receive, opened, Checked.ok_bind, sameSync, scanned] at fed
  cases fed
  generalize syncEq : SbfFrameSync.settle (SbfFrameSync.count machine.recorder.sync.stats bytes)
    (machine.recorder.sync.pending ++ bytes) = sync
  have holds : Holds config disk (files ++ more) (ready.addDrops sync) :=
    holdsReady.of_same rfl rfl rfl (fun _ => ⟨openReady, rfl, rfl⟩) rfl rfl
  have added : more = [] ∨ more = [((ready.addDrops sync).currentPath, [])] := by
    rcases cases with ⟨none, _⟩ | ⟨_, one, _⟩
    · exact .inl none
    · exact .inr one
  have nothing : written (files ++ more) = written files := written_append_opened added
  rcases fills.logged holds added (fun some wasOpen => by
    rcases cases with ⟨none, _⟩ | ⟨closed, _⟩
    · exact absurd none some
    · exact absurd (closed.symm.trans wasOpen) Bool.false_ne_true)
    (.writing (framesOf (scanner.tokens (machine.recorder.sync.pending ++ bytes)))) with
    ⟨opened, abandoned, sizes⟩
  refine ⟨files ++ more,
    { holds := holds
      consistent := by
        change sync.Consistent
        rw [← syncEq]
        exact SbfFrameSync.settle_consistent _ _
      opened := opened
      abandoned := abandoned
      sizes := sizes
      intact := ?_
      emitted := ?_
      busy := fun _ => openReady
      room := ?_
      filled := fun _ impossible => by cases impossible }⟩
  · rw [nothing]
    intro frame member
    rcases List.mem_append.mp member with earlier | new
    · exact intact frame earlier
    · exact intact_of_mem_framesOf new
  · change (ready.addDrops sync).stats.framesWritten + (framesOf _).length =
      sync.stats.framesEmitted
    rw [holds.framesWritten, nothing, ← fills.holds.framesWritten, emitted, ← syncEq,
      SbfFrameSync.settle_stats, tally_framesEmitted]
    rfl
  · intro _ _
    change ready.currentSize < config.rotateBytes
    rcases cases with ⟨_, same⟩ | ⟨_, _, empty⟩
    · rw [same]
      rw [same] at openReady
      exact fills.room (fun _ rotating => by rw [idle] at rotating; cases rotating) openReady
    · rw [empty]
      exact positive

/-- Whatever operation comes next. -/
theorem Fills.step (reliable : environment.Reliable) (positive : 1 ≤ config.rotateBytes)
    {operation : Operation} {next : Machine}
    (steps : machine.step environment operation = some next) :
    Recorded config disk next := by
  unfold Machine.step at steps
  split at steps
  · rename_i idle
    rcases Option.map_eq_some_iff.mp steps with ⟨received, fed, rfl⟩
    exact fills.receive reliable positive idle (Checked.toOption_eq_some.mp fed)
  · rename_i phase
    rcases Option.map_eq_some_iff.mp steps with ⟨wrote, write, rfl⟩
    exact fills.writeFrame reliable phase (Checked.toOption_eq_some.mp write)
  · rename_i phase
    rcases Option.map_eq_some_iff.mp steps with ⟨rotated, rotate, rfl⟩
    exact fills.rotateIfNeeded reliable positive phase (Checked.toOption_eq_some.mp rotate)
  · rename_i phase
    cases steps
    exact ⟨files, fills.done phase⟩
  · rename_i idle
    cases steps
    exact ⟨files, fills.close idle⟩
  · cases steps

end

/-! ## Accounting -/

/-- The number of bytes in a file. -/
def fileSize (disk : Dict String (List Byte)) (path : String) : Nat := (disk.getD path []).length

/-- The sizes and counters of a recorder against the files on its disk. -/
structure Accounted (config : Config) (machine : Machine) : Prop where
  currentSize : machine.recorder.isOpen = true →
    machine.recorder.currentSize = fileSize machine.recorder.disk machine.recorder.currentPath
  bounded : ∀ path ∈ machine.opened,
    fileSize machine.recorder.disk path ≤ config.rotateBytes - 1 + 8188
  abandoned : ∀ path ∈ machine.abandoned, ∃ frames : List Frame, frames ≠ [] ∧
    (∀ frame ∈ frames, Intact frame) ∧
    machine.recorder.disk.lookup path = some (frames.flatMap wireBytes)
  distinct : machine.opened.Nodup
  /-- `feed` has returned. -/
  totals : machine.phase = .idle →
    (machine.opened.map (fileSize machine.recorder.disk)).sum =
        machine.recorder.stats.bytesWritten ∧
      machine.recorder.stats.framesWritten = machine.recorder.sync.stats.framesEmitted

section

variable {config : Config} {disk : Dict String (List Byte)} {files : List File}
  {machine : Machine}

theorem Fills.lookup (fills : Fills config disk files machine) {file : File}
    (member : file ∈ files) :
    machine.recorder.disk.lookup file.1 = some (file.2.flatMap wireBytes) := by
  rw [fills.holds.stored]
  exact lookup_store_of_mem disk fills.holds.distinct member

theorem Fills.fileSize_eq (fills : Fills config disk files machine) {file : File}
    (member : file ∈ files) :
    fileSize machine.recorder.disk file.1 = wireLength file.2 := by
  have intact : ∀ frame ∈ file.2, Intact frame := fun frame inside =>
    fills.intact frame (List.mem_append_left _ (List.mem_flatMap.mpr ⟨file, member, inside⟩))
  rw [fileSize, Dict.getD, fills.lookup member]
  exact length_flatMap_wireBytes intact

theorem wireLength_written (files : List File) :
    wireLength (written files) = (files.map fun file => wireLength file.2).sum := by
  induction files with
  | nil => rfl
  | cons file later induction =>
      rw [List.map_cons, List.sum_cons, ← induction]
      simp [wireLength, written]

theorem Fills.accounted (fills : Fills config disk files machine) : Accounted config machine where
  currentSize := fun isOpen => by
    rcases fills.holds.current isOpen with ⟨front, frames, rfl, size⟩
    have member : (machine.recorder.currentPath, frames) ∈
        front ++ [(machine.recorder.currentPath, frames)] := by simp
    rw [size, fills.fileSize_eq member]
  bounded := fun path member => by
    rw [fills.opened] at member
    rcases List.mem_map.mp member with ⟨file, found, rfl⟩
    rw [fills.fileSize_eq found]
    exact fills.sizes file found
  abandoned := fun path member => by
    rcases fills.abandoned path member with ⟨frames, nonempty, found⟩
    refine ⟨frames, nonempty, fun frame inside => ?_, fills.lookup found⟩
    exact fills.intact frame
      (List.mem_append_left _ (List.mem_flatMap.mpr ⟨(path, frames), found, inside⟩))
  distinct := by
    rw [fills.opened]
    exact fills.holds.distinct
  totals := fun idle => by
    have emitted := fills.emitted
    simp only [idle, Phase.later, List.length_nil, Nat.add_zero] at emitted
    refine ⟨?_, emitted⟩
    rw [fills.opened, List.map_map, fills.holds.bytesWritten, wireLength_written]
    congr 1
    exact List.map_congr_left fun file member => fills.fileSize_eq member

end

/-- However the calls and the clock readings are ordered, and whichever operation
comes next, the sizes are right. -/
theorem rotation_accounting (environment : Environment) (reliable : environment.Reliable)
    (config : Config) (positive : 1 ≤ config.rotateBytes) (disk : Dict String (List Byte)) :
    (∀ machine : Machine, machine.Reaches environment config disk →
      Accounted config machine) ∧
    ∀ calls : List Call, ∃ machine : Machine, machine.Reaches environment config disk ∧
      machine.phase = .idle ∧
      (SbfRecorder.fresh config disk).run environment calls = .ok machine.recorder := by
  constructor
  · intro machine reached
    have recorded : Recorded config disk machine :=
      reached.invariant ⟨[], Fills.fresh config disk⟩ fun ⟨_, fills⟩ _ steps =>
        fills.step reliable positive steps
    rcases recorded with ⟨files, fills⟩
    exact fills.accounted
  · intro calls
    rcases run_fresh reliable config disk calls with ⟨_, recorder, _, ran, _⟩
    have initially : (Machine.fresh config disk).Reaches environment config disk := .start
    rcases reaches_run initially rfl ran with ⟨machine, reached, idle, rfl⟩
    exact ⟨machine, reached, idle, ran⟩

theorem rotation_accounting_rotating :
    quietEnvironment.Reliable ∧ ∃ recorder,
      (SbfRecorder.fresh ⟨"./recordings", "asterx", 8, 3600⟩ ∅).run quietEnvironment
        [.feed [0x24, 0x40, 0xA9], .feed [0x89, 0x00, 0x00, 0x08, 0x00], .close, .feed []] =
          .ok recorder ∧
      recorder.stats.framesWritten = recorder.sync.stats.framesEmitted := by
  have reliable : quietEnvironment.Reliable := ⟨fun _ _ => rfl, fun _ _ => rfl⟩
  rcases rotation_accounting quietEnvironment reliable ⟨"./recordings", "asterx", 8, 3600⟩
    (by decide) ∅ with ⟨accounted, runs⟩
  rcases runs [.feed [0x24, 0x40, 0xA9], .feed [0x89, 0x00, 0x00, 0x08, 0x00], .close,
    .feed []] with ⟨machine, reached, idle, ran⟩
  exact ⟨reliable, machine.recorder, ran, ((accounted machine reached).totals idle).2⟩

end AsterxDriver.Recorder
