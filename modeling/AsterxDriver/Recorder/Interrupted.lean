import AsterxDriver.Foundation.Attempt
import AsterxDriver.Recorder.Fidelity

/-! # A recording that is interrupted

The operations of `sbf_recorder.cpp` together with the members that they leave
behind when they throw, on a system where files cannot be opened and writes stop
short at any time. -/

namespace AsterxDriver.Recorder

open Foundation ByteString Sbf Attempt

/-! ## Operations that keep the members -/

/-- An operation of the recorder. An exception leaves the members as they are. -/
abbrev Act := Attempt SbfRecorder RecorderError

namespace Act

/-- The front of `open_new_file_`: the file that is open is closed and counted. -/
def leave (recorder : SbfRecorder) : SbfRecorder :=
  { recorder with
    isOpen := false
    stats := if recorder.isOpen then
        { recorder.stats with filesRotated := recorder.stats.filesRotated + 1 }
      else recorder.stats
    seq := recorder.seq + 1 }

/-- The end of `open_new_file_`. -/
def start (path : String) (now : Int) (recorder : SbfRecorder) : SbfRecorder :=
  { recorder with
    isOpen := true
    currentSize := 0
    fileStart := now
    disk := recorder.disk.insert path [] }

variable (environment : Environment)

def openNewFile : Act PUnit := do
  modify leave
  let recorder ← get
  let path := recorder.config.filePath
    (environment.utcTimestampNow recorder.questions) recorder.seq
  modify fun recorder =>
    { recorder with currentPath := path, questions := recorder.questions + 1 }
  match environment.fopen recorder.questions path with
  | some reason =>
      throw (.runtimeError ("cannot open output file '" ++ path ++ "': " ++ reason))
  | none => modify (start path (environment.steadyNow recorder.questions))

def rotateIfNeeded : Act PUnit := do
  let recorder ← get
  if ¬ recorder.isOpen then pure ⟨⟩
  else
    let now := environment.steadyNow recorder.questions
    let bySize := recorder.currentSize ≥ recorder.config.rotateBytes
    let byTime := now - recorder.fileStart ≥ recorder.config.rotateInterval * 10 ^ 9
    modify fun recorder => { recorder with questions := recorder.questions + 1 }
    if bySize ∨ byTime then openNewFile environment else pure ⟨⟩

def fwrite (bytes : List Byte) : Act Nat := do
  let recorder ← get
  let (written, next) := recorder.fwrite environment bytes
  set next
  return written

def writeBody (frame : Frame) : Act PUnit :=
  if frame.body = [] then pure ⟨⟩
  else do
    let written ← fwrite environment frame.body
    if written ≠ frame.body.length then throw (.runtimeError "fwrite(body) failed")
    else pure ⟨⟩

def countFrame (frame : Frame) : Act PUnit :=
  modify fun recorder =>
    { recorder with
      currentSize := recorder.currentSize + frame.length.toNat
      stats := { recorder.stats with
        bytesWritten := recorder.stats.bytesWritten + frame.length.toNat
        framesWritten := recorder.stats.framesWritten + 1 } }

def writeFrame (frame : Frame) : Act PUnit := do
  let written ← fwrite environment (headerBytes frame)
  if written ≠ 8 then throw (.runtimeError "fwrite(header) failed")
  else do
    writeBody environment frame
    countFrame frame

def writeAndRotate (frame : Frame) : Act PUnit := do
  writeFrame environment frame
  rotateIfNeeded environment

def ensureOpen : Act PUnit := do
  let recorder ← get
  if recorder.isOpen then pure ⟨⟩ else openNewFile environment

/-- The synchronizer takes the bytes, and its drop counters are added. -/
def synchronize (bytes : List Byte) : Act (List Frame) := do
  let recorder ← get
  match recorder.sync.feed bytes with
  | .error fault => throw (.undefinedBehaviour fault)
  | .ok (sync, out) =>
      modify fun recorder => recorder.addDrops sync
      return out

def feed (bytes : List Byte) : Act PUnit := do
  ensureOpen environment
  let out ← synchronize bytes
  out.forM (writeAndRotate environment)

def call : Call → Act PUnit
  | .feed bytes => feed environment bytes
  | .close => modify SbfRecorder.close

/-- The calls up to the first one that throws. -/
def calls (calls : List Call) : Act PUnit := calls.forM (call environment)

end Act

/-! ## What an operation leaves behind -/

section

variable {environment : Environment}

/-- The number of bytes that were written is at most the number asked for. -/
def Environment.Bounded (environment : Environment) : Prop :=
  ∀ question count, environment.fwrite question count ≤ count

/-- Nothing was written and nothing counted. -/
structure Untouched (recorder final : SbfRecorder) : Prop where
  disk : final.disk = recorder.disk
  framesWritten : final.stats.framesWritten = recorder.stats.framesWritten
  bytesWritten : final.stats.bytesWritten = recorder.stats.bytesWritten

/-- A piece of the frame was written, but not all of it, and nothing counted. -/
structure Torn (frame : Frame) (torn : List Byte) (recorder final : SbfRecorder) : Prop where
  piece : torn <+: wireBytes frame
  missing : torn.length < (wireBytes frame).length
  disk : final.disk = recorder.disk.modify recorder.currentPath [] (· ++ torn)
  framesWritten : final.stats.framesWritten = recorder.stats.framesWritten
  bytesWritten : final.stats.bytesWritten = recorder.stats.bytesWritten

/-- What `open_new_file_` leaves behind when the file cannot be opened. -/
theorem ends_openNewFile {recorder final : SbfRecorder} {outcome : Except RecorderError PUnit}
    (ends : (Act.openNewFile environment).Ends recorder outcome final) :
    outcome = .ok ⟨⟩ ∧ recorder.openNewFile environment = .ok final ∨
      ∃ message, outcome = .error (.runtimeError message) ∧
        recorder.openNewFile environment = .error (.runtimeError message) ∧
        Untouched recorder final := by
  unfold Act.openNewFile at ends
  rw [ends_modify_bind_iff, ends_get_bind_iff, ends_modify_bind_iff] at ends
  unfold SbfRecorder.openNewFile
  dsimp only [Act.leave] at ends ⊢
  cases opened : environment.fopen recorder.questions (recorder.config.filePath
      (environment.utcTimestampNow recorder.questions) (recorder.seq + 1)) with
  | some reason =>
      simp only [opened] at ends
      rcases ends_throw_iff.mp ends with ⟨rfl, rfl⟩
      refine .inr ⟨_, rfl, rfl, rfl, ?_, ?_⟩
      · dsimp only
        split <;> rfl
      · dsimp only
        split <;> rfl
  | none =>
      simp only [opened] at ends
      cases ends
      exact .inl ⟨rfl, rfl⟩

theorem length_take_lt {bytes : List Byte} {written : Nat} (bound : written ≤ bytes.length)
    (short : written ≠ bytes.length) : (bytes.take written).length < bytes.length := by
  rw [List.length_take]
  omega

theorem disk_fwrite (recorder : SbfRecorder) (bytes : List Byte) :
    (recorder.fwrite environment bytes).2.disk = recorder.disk.modify recorder.currentPath []
      (· ++ bytes.take (recorder.fwrite environment bytes).1) := rfl

theorem currentPath_fwrite (recorder : SbfRecorder) (bytes : List Byte) :
    (recorder.fwrite environment bytes).2.currentPath = recorder.currentPath := rfl

theorem ends_fwrite_bind_iff {bytes : List Byte} {next : Nat → Act PUnit}
    {recorder final : SbfRecorder} {outcome : Except RecorderError PUnit} :
    Ends (Act.fwrite environment bytes >>= next) recorder outcome final ↔
      Ends (next (recorder.fwrite environment bytes).1)
        (recorder.fwrite environment bytes).2 outcome final :=
  Iff.rfl

theorem ends_writeBody {frame : Frame} {recorder final : SbfRecorder}
    {outcome : Except RecorderError PUnit}
    (ends : (Act.writeBody environment frame).Ends recorder outcome final) :
    outcome = .ok ⟨⟩ ∧ frame.body = [] ∧ final = recorder ∨
      frame.body ≠ [] ∧ final = (recorder.fwrite environment frame.body).2 ∧
        (outcome = .ok ⟨⟩ ∧
            (recorder.fwrite environment frame.body).1 = frame.body.length ∨
          outcome = .error (.runtimeError "fwrite(body) failed") ∧
            (recorder.fwrite environment frame.body).1 ≠ frame.body.length) := by
  rcases ends_ite ends with ⟨empty, done⟩ | ⟨nonempty, writes⟩
  · rcases ends_pure_iff.mp done with ⟨rfl, rfl⟩
    exact .inl ⟨rfl, empty, rfl⟩
  · rw [ends_fwrite_bind_iff] at writes
    rcases ends_ite writes with ⟨short, thrown⟩ | ⟨all, done⟩
    · rcases ends_throw_iff.mp thrown with ⟨rfl, rfl⟩
      exact .inr ⟨nonempty, rfl, .inr ⟨rfl, short⟩⟩
    · rcases ends_pure_iff.mp done with ⟨rfl, rfl⟩
      exact .inr ⟨nonempty, rfl, .inl ⟨rfl, not_not.mp all⟩⟩

theorem ends_writeFrame (bounded : environment.Bounded) {frame : Frame}
    {recorder final : SbfRecorder} {outcome : Except RecorderError PUnit}
    (ends : (Act.writeFrame environment frame).Ends recorder outcome final) :
    outcome = .ok ⟨⟩ ∧ recorder.writeFrame environment frame = .ok final ∨
      ∃ message torn, outcome = .error (.runtimeError message) ∧
        recorder.writeFrame environment frame = .error (.runtimeError message) ∧
        Torn frame torn recorder final := by
  have wire := headerBytes_append_body frame
  unfold Act.writeFrame at ends
  rw [ends_fwrite_bind_iff] at ends
  unfold SbfRecorder.writeFrame
  rcases ends_ite ends with ⟨short, thrown⟩ | ⟨all, rest⟩
  · rcases ends_throw_iff.mp thrown with ⟨rfl, rfl⟩
    refine .inr ⟨_, _, rfl, if_pos short, ?_, ?_, rfl, rfl, rfl⟩
    · rw [← wire]
      exact (List.take_prefix _ _).trans (List.prefix_append _ _)
    · rw [← wire, List.length_append]
      exact Nat.lt_add_right _ (length_take_lt (bounded _ _) short)
  · have whole : (recorder.fwrite environment (headerBytes frame)).2.disk =
        recorder.disk.modify recorder.currentPath [] (· ++ headerBytes frame) := by
      rw [disk_fwrite, not_not.mp all]
      rfl
    dsimp only
    rw [if_neg all]
    rcases ends_bind_iff.mp rest with ⟨fault, failed, rfl⟩ | ⟨_, middle, wrote, counted⟩
    · rcases ends_writeBody failed with
        ⟨impossible, _⟩ | ⟨nonempty, rfl, ⟨impossible, _⟩ | ⟨same, short⟩⟩
      · cases impossible
      · cases impossible
      · cases same
        refine .inr ⟨_, headerBytes frame ++ frame.body.take
          ((recorder.fwrite environment (headerBytes frame)).2.fwrite environment frame.body).1,
          rfl, ?_, ?_, ?_, ?_, rfl, rfl⟩
        · rw [if_neg nonempty, if_pos short]
          rfl
        · rw [← wire]
          exact (List.prefix_append_right_inj _).mpr (List.take_prefix _ _)
        · rw [← wire, List.length_append, List.length_append]
          exact Nat.add_lt_add_left (length_take_lt (bounded _ _) short) _
        · rw [disk_fwrite, whole, currentPath_fwrite, Dict.modify_modify]
          simp only [Function.comp_def, List.append_assoc]
    · cases counted
      rcases ends_writeBody wrote with
        ⟨_, empty, rfl⟩ | ⟨nonempty, rfl, ⟨_, complete⟩ | ⟨impossible, _⟩⟩
      · rw [if_pos empty]
        exact .inl ⟨rfl, rfl⟩
      · rw [if_neg nonempty, if_neg (not_not.mpr complete)]
        exact .inl ⟨rfl, rfl⟩
      · cases impossible

theorem ends_ensureOpen {recorder final : SbfRecorder}
    {outcome : Except RecorderError PUnit}
    (ends : (Act.ensureOpen environment).Ends recorder outcome final) :
    outcome = .ok ⟨⟩ ∧ recorder.ensureOpen environment = .ok final ∨
      ∃ message, outcome = .error (.runtimeError message) ∧
        recorder.ensureOpen environment = .error (.runtimeError message) ∧
        Untouched recorder final := by
  unfold Act.ensureOpen at ends
  rw [ends_get_bind_iff] at ends
  unfold SbfRecorder.ensureOpen
  rcases ends_ite ends with ⟨isOpen, done⟩ | ⟨closed, opens⟩
  · rcases ends_pure_iff.mp done with ⟨rfl, rfl⟩
    exact .inl ⟨rfl, if_pos isOpen⟩
  · rw [if_neg closed]
    exact ends_openNewFile opens

theorem ends_rotateIfNeeded {recorder final : SbfRecorder}
    {outcome : Except RecorderError PUnit}
    (ends : (Act.rotateIfNeeded environment).Ends recorder outcome final) :
    outcome = .ok ⟨⟩ ∧ recorder.rotateIfNeeded environment = .ok final ∨
      ∃ message, outcome = .error (.runtimeError message) ∧
        recorder.rotateIfNeeded environment = .error (.runtimeError message) ∧
        Untouched recorder final := by
  unfold Act.rotateIfNeeded at ends
  rw [ends_get_bind_iff] at ends
  unfold SbfRecorder.rotateIfNeeded
  rcases ends_ite ends with ⟨closed, done⟩ | ⟨isOpen, goesOn⟩
  · rcases ends_pure_iff.mp done with ⟨rfl, rfl⟩
    exact .inl ⟨rfl, if_pos closed⟩
  · rw [if_neg isOpen]
    rw [ends_modify_bind_iff] at goesOn
    rcases ends_ite goesOn with ⟨full, opens⟩ | ⟨room, done⟩
    · simp only [if_pos full]
      rcases ends_openNewFile opens with opened | ⟨message, failed, same, untouched⟩
      · exact .inl opened
      · exact .inr ⟨message, failed, same, ⟨untouched.disk, untouched.framesWritten,
          untouched.bytesWritten⟩⟩
    · rcases ends_pure_iff.mp done with ⟨rfl, rfl⟩
      exact .inl ⟨rfl, if_neg room⟩

theorem ends_writeAndRotate (bounded : environment.Bounded) {frame : Frame}
    {recorder final : SbfRecorder} {outcome : Except RecorderError PUnit}
    (ends : (Act.writeAndRotate environment frame).Ends recorder outcome final) :
    outcome = .ok ⟨⟩ ∧ recorder.writeAndRotate environment frame = .ok final ∨
      ∃ message, outcome = .error (.runtimeError message) ∧
        recorder.writeAndRotate environment frame = .error (.runtimeError message) ∧
        ((∃ torn, Torn frame torn recorder final) ∨
          ∃ wrote, recorder.writeFrame environment frame = .ok wrote ∧
            Untouched wrote final) := by
  unfold SbfRecorder.writeAndRotate
  rcases ends_bind_iff.mp ends with ⟨fault, failed, rfl⟩ | ⟨_, middle, writes, rotates⟩
  · rcases ends_writeFrame bounded failed with ⟨impossible, _⟩ | ⟨message, torn, same, plain, left⟩
    · cases impossible
    · cases same
      rw [plain]
      exact .inr ⟨message, rfl, rfl, .inl ⟨torn, left⟩⟩
  · rcases ends_writeFrame bounded writes with ⟨_, wrote⟩ | ⟨_, _, impossible, _⟩
    · rw [wrote, Checked.ok_bind]
      rcases ends_rotateIfNeeded rotates with rotated | ⟨message, failed, plain, untouched⟩
      · exact .inl rotated
      · exact .inr ⟨message, failed, plain, .inr ⟨middle, rfl, untouched⟩⟩
    · cases impossible

/-! ## Operations that succeed -/

/-- The same system, on which every file operation succeeds. -/
def Environment.forced (environment : Environment) : Environment :=
  { environment with
    fopen := fun _ _ => none
    fwrite := fun _ count => count }

theorem forced_reliable (environment : Environment) : environment.forced.Reliable :=
  ⟨fun _ _ => rfl, fun _ _ => rfl⟩

theorem openNewFile_forced {recorder next : SbfRecorder}
    (opened : recorder.openNewFile environment = .ok next) :
    recorder.openNewFile environment.forced = .ok next := by
  unfold SbfRecorder.openNewFile at opened
  dsimp only at opened
  split at opened
  · cases opened
  · exact opened

theorem rotateIfNeeded_forced {recorder next : SbfRecorder}
    (rotated : recorder.rotateIfNeeded environment = .ok next) :
    recorder.rotateIfNeeded environment.forced = .ok next := by
  unfold SbfRecorder.rotateIfNeeded at rotated ⊢
  split at rotated
  · rename_i closed
    rw [if_pos closed]
    exact rotated
  · rename_i isOpen
    rw [if_neg isOpen]
    dsimp only at rotated ⊢
    split at rotated
    · rename_i full
      exact (if_pos full).trans (openNewFile_forced rotated)
    · rename_i room
      exact (if_neg room).trans rotated

theorem fwrite_forced {recorder : SbfRecorder} {bytes : List Byte}
    (whole : (recorder.fwrite environment bytes).1 = bytes.length) :
    recorder.fwrite environment.forced bytes = recorder.fwrite environment bytes := by
  unfold SbfRecorder.fwrite at whole ⊢
  dsimp only at whole ⊢
  rw [whole]
  rfl

theorem writeFrame_forced {recorder next : SbfRecorder} {frame : Frame}
    (wrote : recorder.writeFrame environment frame = .ok next) :
    recorder.writeFrame environment.forced frame = .ok next := by
  unfold SbfRecorder.writeFrame at wrote ⊢
  dsimp only at wrote ⊢
  split at wrote
  · cases wrote
  · rename_i all
    rw [fwrite_forced (not_not.mp all), if_neg all]
    split at wrote
    · rename_i empty
      rw [if_pos empty]
      exact wrote
    · rename_i nonempty
      rw [if_neg nonempty]
      split at wrote
      · cases wrote
      · rename_i complete
        rw [fwrite_forced (not_not.mp complete), if_neg complete]
        exact wrote

theorem writeAndRotate_forced {recorder next : SbfRecorder} {frame : Frame}
    (done : recorder.writeAndRotate environment frame = .ok next) :
    recorder.writeAndRotate environment.forced frame = .ok next := by
  rcases Checked.bind_eq_ok.mp done with ⟨middle, wrote, rotated⟩
  exact Checked.bind_eq_ok.mpr ⟨middle, writeFrame_forced wrote, rotateIfNeeded_forced rotated⟩

theorem ensureOpen_forced {recorder next : SbfRecorder}
    (opened : recorder.ensureOpen environment = .ok next) :
    recorder.ensureOpen environment.forced = .ok next := by
  unfold SbfRecorder.ensureOpen at opened ⊢
  split at opened
  · rename_i isOpen
    rw [if_pos isOpen]
    exact opened
  · rename_i closed
    rw [if_neg closed]
    exact openNewFile_forced opened

theorem feed_forced {recorder next : SbfRecorder} {bytes : List Byte}
    (fed : recorder.feed environment bytes = .ok next) :
    recorder.feed environment.forced bytes = .ok next := by
  rcases Checked.bind_eq_ok.mp fed with ⟨ready, opened, rest⟩
  rcases Checked.bind_eq_ok.mp rest with ⟨⟨sync, out⟩, emitted, written⟩
  apply Checked.bind_eq_ok.mpr
  refine ⟨ready, ensureOpen_forced opened, Checked.bind_eq_ok.mpr ⟨(sync, out), emitted, ?_⟩⟩
  exact Checked.foldlM_mono (fun _ _ _ => writeAndRotate_forced) written

/-- Calls that succeed are calls on a reliable system. -/
theorem run_forced {recorder next : SbfRecorder} {calls : List Call}
    (ran : recorder.run environment calls = .ok next) :
    recorder.run environment.forced calls = .ok next := by
  apply Checked.foldlM_mono _ ran
  intro state call final applied
  cases call with
  | feed bytes => exact feed_forced applied
  | close => exact applied

/-! ## The loop of `feed` -/

/-- Every operation ends. -/
theorem openNewFile_endsWithin :
    EndsWithin (fun _ => True) (Act.openNewFile environment) := by
  apply EndsWithin.bind (endsWithin_modify fun _ _ => trivial)
  intro _
  apply endsWithin_get_bind
  intro recorder _
  apply EndsWithin.bind (endsWithin_modify fun _ _ => trivial)
  intro _
  split
  · exact endsWithin_throw _
  · exact endsWithin_modify fun _ _ => trivial

theorem rotateIfNeeded_endsWithin :
    EndsWithin (fun _ => True) (Act.rotateIfNeeded environment) := by
  apply endsWithin_get_bind
  intro recorder _
  apply EndsWithin.ite (endsWithin_pure _)
  apply EndsWithin.bind (endsWithin_modify fun _ _ => trivial)
  intro _
  exact openNewFile_endsWithin.ite (endsWithin_pure _)

theorem fwrite_endsWithin (bytes : List Byte) :
    EndsWithin (fun _ => True) (Act.fwrite environment bytes) :=
  fun _ _ => ⟨_, _, rfl, trivial⟩

theorem writeAndRotate_endsWithin (frame : Frame) :
    EndsWithin (fun _ => True) (Act.writeAndRotate environment frame) := by
  have body : EndsWithin (fun _ => True) (Act.writeBody environment frame) := by
    apply EndsWithin.ite (endsWithin_pure _)
    apply (fwrite_endsWithin _).bind
    intro written
    exact (endsWithin_throw _).ite (endsWithin_pure _)
  have frameWritten : EndsWithin (fun _ => True) (Act.writeFrame environment frame) := by
    apply (fwrite_endsWithin _).bind
    intro written
    apply (endsWithin_throw _).ite
    exact body.bind fun _ => endsWithin_modify fun _ _ => trivial
  exact frameWritten.bind fun _ => rotateIfNeeded_endsWithin

theorem call_endsWithin (call : Call) :
    EndsWithin (fun _ => True) (Act.call environment call) := by
  cases call with
  | close => exact endsWithin_modify fun _ _ => trivial
  | feed bytes =>
      have opens : EndsWithin (fun _ => True) (Act.ensureOpen environment) := by
        apply endsWithin_get_bind
        intro recorder _
        exact EndsWithin.ite (endsWithin_pure _) openNewFile_endsWithin
      have emits : EndsWithin (fun _ => True) (Act.synchronize bytes) := by
        apply endsWithin_get_bind
        intro recorder _
        split
        · exact endsWithin_throw _
        · exact (endsWithin_modify fun _ _ => trivial).bind fun _ => endsWithin_pure _
      apply opens.bind
      intro _
      apply emits.bind
      intro out
      exact EndsWithin.forM writeAndRotate_endsWithin out

theorem calls_endsWithin (calls : List Call) :
    EndsWithin (fun _ => True) (Act.calls environment calls) :=
  EndsWithin.forM call_endsWithin calls

theorem ok_of_ends_writeAndRotate (bounded : environment.Bounded) {frame : Frame}
    {recorder final : SbfRecorder}
    (ends : (Act.writeAndRotate environment frame).Ends recorder (.ok ⟨⟩) final) :
    recorder.writeAndRotate environment frame = .ok final := by
  rcases ends_writeAndRotate bounded ends with ⟨_, done⟩ | ⟨_, impossible, _⟩
  · exact done
  · cases impossible

theorem ends_synchronize_bind_iff {bytes : List Byte} {next : List Frame → Act PUnit}
    {recorder final : SbfRecorder} {outcome : Except RecorderError PUnit}
    {sync : SbfFrameSync} {out : List Frame} (fed : recorder.sync.feed bytes = .ok (sync, out)) :
    Ends (Act.synchronize bytes >>= next) recorder outcome final ↔
      Ends (next out) (recorder.addDrops sync) outcome final := by
  unfold Act.synchronize
  rw [bind_assoc, ends_get_bind_iff]
  simp only [fed]
  exact Iff.rfl

/-- What `feed` leaves behind when it throws: some of the frames that the
synchronizer emits are on the disk, and perhaps a piece of the next one. -/
theorem ends_feed_error (bounded : environment.Bounded) {config : Config}
    {disk : Dict String (List Byte)} {files : List File} {recorder final : SbfRecorder}
    (holds : Holds config disk files recorder) (consistent : recorder.sync.Consistent)
    {bytes : List Byte} {fault : RecorderError}
    (ends : (Act.feed environment bytes).Ends recorder (.error fault) final) :
    recorder.feed environment bytes = .error fault ∧ (∃ message, fault = .runtimeError message) ∧
      ∃ files' middle done lost, Holds config disk files' middle ∧
        framesOf (scanner.tokens (recorder.sync.pending ++ bytes)) = done ++ lost ∧
        written files' = written files ++ done ∧
        (Untouched middle final ∨ ∃ frame later torn, lost = frame :: later ∧
          middle.isOpen = true ∧ Torn frame torn middle final) := by
  have reliable := forced_reliable environment
  have fed := SbfFrameSync.feed_eq consistent bytes
  rcases ends_bind_iff.mp ends with ⟨other, failed, same⟩ | ⟨_, ready, opens, rest⟩
  · cases same
    rcases ends_ensureOpen failed with ⟨impossible, _⟩ | ⟨message, same, plain, untouched⟩
    · cases impossible
    · cases same
      refine ⟨?_, ⟨message, rfl⟩, files, recorder, [], _, holds, rfl, ?_, .inl untouched⟩
      · rw [SbfRecorder.feed, plain]
        rfl
      · rw [List.append_nil]
  · rcases ends_ensureOpen opens with ⟨_, opened⟩ | ⟨_, impossible, _⟩
    · rcases ensureOpen_holds reliable holds with
        ⟨more, ready', openedToo, holdsReady, isOpen, same, added⟩
      rw [ensureOpen_forced opened] at openedToo
      cases openedToo
      injection same with sameSync _
      rw [← sameSync] at fed
      rw [ends_synchronize_bind_iff fed] at rest
      have nothing : written more = [] := by
        rcases added with ⟨rfl, _⟩ | ⟨_, rfl, _⟩ <;> rfl
      have counted : Holds config disk (files ++ more) (ready.addDrops
          (.settle (SbfFrameSync.count ready.sync.stats bytes) (ready.sync.pending ++ bytes))) :=
        holdsReady.of_same rfl rfl rfl (fun _ => ⟨isOpen, rfl, rfl⟩) rfl rfl
      rcases ends_forM_error rest with ⟨front, frame, back, middle, split, before, failed⟩
      have ran : front.foldlM (SbfRecorder.writeAndRotate environment) _ = .ok middle :=
        foldlM_of_ends_forM (fun _ _ _ => ok_of_ends_writeAndRotate bounded) before
      rcases writeAndRotate_holds reliable front counted isOpen with
        ⟨files', middle', ranToo, holdsMiddle, all, openMiddle, _⟩
      rw [Checked.foldlM_mono (fun _ _ _ => writeAndRotate_forced) ran] at ranToo
      cases ranToo
      rcases ends_writeAndRotate bounded failed with ⟨impossible, _⟩ |
        ⟨message, same, plain, left⟩
      · cases impossible
      · cases same
        rw [written_append, nothing, List.append_nil] at all
        have failsToo : recorder.feed environment bytes = .error (.runtimeError message) := by
          simp only [SbfRecorder.feed, opened, Checked.ok_bind, fed, Except.mapError]
          rw [split, List.foldlM_append, ran, Checked.ok_bind, List.foldlM_cons, plain]
          rfl
        rw [sameSync] at split
        refine ⟨failsToo, ⟨message, rfl⟩, ?_⟩
        rcases left with ⟨torn, left⟩ | ⟨wrote, write, untouched⟩
        · exact ⟨files', middle, front, frame :: back, holdsMiddle, split, all,
            .inr ⟨frame, back, torn, rfl, openMiddle, left⟩⟩
        · rcases writeFrame_holds reliable holdsMiddle openMiddle frame with
            ⟨earlier, frames, wrote', rfl, writeToo, holdsWrote, _⟩
          rw [writeFrame_forced write] at writeToo
          cases writeToo
          refine ⟨_, wrote, front ++ [frame], back, holdsWrote, ?_, ?_, .inl untouched⟩
          · rw [split, List.append_assoc]
            rfl
          · rw [written_append_frame, all, List.append_assoc]
    · cases impossible

end

end AsterxDriver.Recorder
