import AsterxDriver.Recorder.Interrupted

/-! # What survives of an interrupted recording

The disk when the recorder stops, against the stream it was given, and the two
readers of a file that ends in a torn frame. -/

namespace AsterxDriver.Recorder

open Foundation ByteString Sbf Attempt

/-! ## Reading a torn file -/

/-- A proper piece of an intact frame decides nothing. -/
theorem verdict_torn {frame : Frame} (intact : Intact frame) {torn : List Byte}
    (piece : torn <+: wireBytes frame) (missing : torn.length < (wireBytes frame).length) :
    verdict torn = none := by
  cases decided : verdict torn with
  | none => rfl
  | some decision =>
      rcases piece with ⟨rest, whole⟩
      have later := verdict_stable rest decided
      have frameDecided := verdict_wireBytes intact []
      rw [List.append_nil, ← whole, later] at frameDecided
      have bound : decision.1 ≤ torn.length := scanner.bounded decided
      rw [← length_wireBytes intact, Option.some.injEq] at frameDecided
      rw [frameDecided] at bound
      omega

/-- Frames that the parser finds from a place on lie behind it. -/
theorem le_offset_of_mem_iterFramesFrom (data : List Byte) (i : Nat) :
    ∀ frame ∈ Parser.iterFramesFrom data i, i ≤ frame.offset := by
  fun_induction Parser.iterFramesFrom data i with
  | case1 i _ _ induction => exact fun frame member => by have := induction frame member; omega
  | case2 i _ _ _ _ induction => exact fun frame member => by have := induction frame member; omega
  | case3 i _ _ _ _ _ _ induction =>
      exact fun frame member => by have := induction frame member; omega
  | case4 i _ _ _ _ _ _ _ induction =>
      intro frame member
      rcases List.mem_cons.mp member with rfl | later
      · exact Nat.le_refl _
      · have := induction frame later
        omega
  | case5 i _ => exact fun _ member => absurd member List.not_mem_nil

section

variable {frames : List Frame} (intact : ∀ frame ∈ frames, Intact frame) {torn : List Byte}
  (undecided : verdict torn = none)

include intact undecided

theorem run_torn :
    scanner.run 0 (frames.flatMap wireBytes ++ torn) =
      ((contiguous 0 frames).map frameToken, torn) := by
  rw [scanner.run_append, run_wireBytes intact, List.nil_append,
    scanner.run_of_none _ undecided, List.append_nil]

/-- Both readers find the whole frames of the file. What the parser finds beyond
them lies behind the start of the torn frame. -/
theorem readBack_torn :
    (∃ sync, SbfFrameSync.fresh.feed (frames.flatMap wireBytes ++ torn) = .ok (sync, frames)) ∧
      ∃ inside, Parser.iterFrames (frames.flatMap wireBytes ++ torn) =
          (contiguous 0 frames).map (fun found => Parser.ofDriver found.1 found.2) ++ inside ∧
        ∀ frame ∈ inside, (frames.flatMap wireBytes).length < frame.offset := by
  have run := run_torn intact undecided
  have emitted : framesOf (scanner.tokens (frames.flatMap wireBytes ++ torn)) = frames := by
    rw [Scanner.tokens, run, ← map_snd_locatedFrames, locatedFrames_frameTokens,
      map_snd_contiguous]
  have found := Parser.iterFramesFrom_run (frames.flatMap wireBytes ++ torn) 0 _ rfl
    (Nat.zero_le _)
  rw [List.drop_zero, run, locatedFrames_frameTokens, List.length_append,
    Nat.add_sub_cancel] at found
  have skips : Parser.iterFramesFrom (frames.flatMap wireBytes ++ torn)
      (frames.flatMap wireBytes).length =
      Parser.iterFramesFrom (frames.flatMap wireBytes ++ torn)
        ((frames.flatMap wireBytes).length + 1) := by
    apply Parser.iterFramesFrom_skip
    intro size frame
    rw [List.drop_left, undecided]
    simp
  rw [skips] at found
  refine ⟨⟨_, emitted ▸ SbfFrameSync.feed_fresh _⟩, _, found, ?_⟩
  intro frame member
  exact le_offset_of_mem_iterFramesFrom _ _ frame member

end

/-! ## What is left on the disk -/

/-- The disk after a recording that may have been interrupted. `torn` is a piece of
the first frame that was lost, at the end of the last file. -/
structure Survives (config : Config) (disk : Dict String (List Byte)) (stream : List Byte)
    (recorder : SbfRecorder) (files : List LocatedFile) (lost : List (Nat × Frame))
    (torn : List Byte) : Prop where
  names : ∀ index (inside : index < files.length), ∃ timestamp,
    files[index].1 = config.filePath timestamp (index + 1)
  distinct : (files.map Prod.fst).Nodup
  whole : ∀ file ∈ files.dropLast,
    recorder.disk.lookup file.1 = some (sliceBytes stream file.2)
  last : ∀ file ∈ files.getLast?,
    recorder.disk.lookup file.1 = some (sliceBytes stream file.2 ++ torn)
  untouched : ∀ path ∉ files.map Prod.fst, recorder.disk.lookup path = disk.lookup path
  frames : ∀ found ∈ files.flatMap Prod.snd ++ lost, FrameAt stream found.1 found.2
  ordered : (files.flatMap Prod.snd ++ lost).Pairwise
    fun first second => first.1 + first.2.length.toNat ≤ second.1
  /-- Only frames at the end of the stream are missing. -/
  complete : ∃ sync, SbfFrameSync.fresh.feed stream =
    .ok (sync, (files.flatMap Prod.snd ++ lost).map Prod.snd)
  piece : torn = [] ∨ files ≠ [] ∧ ∃ found ∈ lost.head?, torn <+: wireBytes found.2 ∧
    torn.length < found.2.length.toNat
  counted : recorder.stats.framesWritten = (files.flatMap Prod.snd).length ∧
    recorder.stats.bytesWritten =
      ((files.flatMap Prod.snd).map fun found => found.2.length.toNat).sum
  readBack : ∀ file ∈ files,
    (∃ sync, SbfFrameSync.fresh.feed (recorder.disk.getD file.1 []) =
      .ok (sync, file.2.map Prod.snd)) ∧
    ∃ inside, Parser.iterFrames (recorder.disk.getD file.1 []) =
        (contiguous 0 (file.2.map Prod.snd)).map
          (fun found => Parser.ofDriver found.1 found.2) ++ inside ∧
      ∀ frame ∈ inside, (sliceBytes stream file.2).length < frame.offset

/-- What a disk holds of the files, with a piece of a frame at the end of the last one. -/
structure Keeps (disk : Dict String (List Byte)) (files : List File) (torn : List Byte)
    (recorder : SbfRecorder) : Prop where
  whole : ∀ file ∈ files.dropLast,
    recorder.disk.lookup file.1 = some (file.2.flatMap wireBytes)
  last : ∀ file ∈ files.getLast?,
    recorder.disk.lookup file.1 = some (file.2.flatMap wireBytes ++ torn)
  untouched : ∀ path ∉ files.map Prod.fst, recorder.disk.lookup path = disk.lookup path

section

variable {config : Config} {disk : Dict String (List Byte)} {files : List File}
  {recorder final : SbfRecorder}

theorem Untouched.keeps (untouched : Untouched recorder final)
    (holds : Holds config disk files recorder) : Keeps disk files [] final where
  whole := fun file member => by
    rw [untouched.disk, holds.stored]
    exact lookup_store_of_mem disk holds.distinct (List.mem_of_mem_dropLast member)
  last := fun file member => by
    rw [untouched.disk, holds.stored, List.append_nil]
    exact lookup_store_of_mem disk holds.distinct (List.mem_of_mem_getLast? member)
  untouched := fun path absent => by
    rw [untouched.disk, holds.stored]
    exact lookup_store_of_notMem disk files path absent

theorem Torn.keeps {frame : Frame} {torn : List Byte} (left : Torn frame torn recorder final)
    (holds : Holds config disk files recorder) (isOpen : recorder.isOpen = true) :
    files ≠ [] ∧ Keeps disk files torn final := by
  rcases holds.current isOpen with ⟨front, frames, rfl, _⟩
  have distinct := holds.distinct
  have stored : final.disk = (store disk front).insert recorder.currentPath
      (frames.flatMap wireBytes ++ torn) := by
    rw [left.disk, holds.stored, store_modify]
  rw [List.map_append, List.nodup_append] at distinct
  refine ⟨by simp, ?_, ?_, ?_⟩
  · intro file member
    rw [List.dropLast_concat] at member
    have different : file.1 ≠ recorder.currentPath :=
      distinct.2.2 _ (List.mem_map_of_mem member) _ (by simp)
    rw [stored, AList.lookup_insert_ne different]
    exact lookup_store_of_mem disk distinct.1 member
  · intro file member
    rw [List.getLast?_append, List.getLast?_singleton, Option.some_or] at member
    cases Option.some.inj member
    rw [stored, AList.lookup_insert]
  · intro path absent
    simp only [List.map_append, List.mem_append, not_or, List.map_cons, List.map_nil,
      List.mem_singleton] at absent
    rw [stored, AList.lookup_insert_ne absent.2]
    exact lookup_store_of_notMem disk front path absent.1

end

theorem Keeps.survives {config : Config} {disk : Dict String (List Byte)} {files : List File}
    {recorder final : SbfRecorder} {torn stream : List Byte} {lost : List Frame}
    (keeps : Keeps disk files torn final) (holds : Holds config disk files recorder)
    (framesWritten : final.stats.framesWritten = recorder.stats.framesWritten)
    (bytesWritten : final.stats.bytesWritten = recorder.stats.bytesWritten)
    (all : framesOf (scanner.tokens stream) = written files ++ lost)
    (piece : torn = [] ∨ files ≠ [] ∧ ∃ frame ∈ lost.head?, torn <+: wireBytes frame ∧
      torn.length < (wireBytes frame).length) :
    ∃ placed missing, Survives config disk stream final placed missing torn ∧
      missing.map Prod.snd = lost := by
  rw [← map_snd_locatedFrames] at all
  rcases List.map_eq_append_iff.mp all with ⟨recorded, missing, split, same, rfl⟩
  rcases exists_located files recorded same with ⟨placed, rfl, rfl⟩
  have present : ∀ found ∈ placed.flatMap Prod.snd ++ missing,
      FrameAt stream found.1 found.2 := by
    rw [← split]
    rintro ⟨offset, frame⟩ member
    exact frameAt_of_mem_locatedFrames member
  have inFile : ∀ file ∈ placed, ∀ found ∈ file.2, FrameAt stream found.1 found.2 :=
    fun file member found inside => present found
      (List.mem_append_left _ (List.mem_flatMap.mpr ⟨file, member, inside⟩))
  have bytesOf : ∀ file ∈ placed, (file.2.map Prod.snd).flatMap wireBytes =
      sliceBytes stream file.2 := fun file member =>
    (sliceBytes_eq_wireBytes (inFile file member)).symm
  have whole : ∀ file ∈ placed.dropLast,
      final.disk.lookup file.1 = some (sliceBytes stream file.2) := by
    intro file member
    rw [← bytesOf file (List.mem_of_mem_dropLast member)]
    apply keeps.whole (file.1, file.2.map Prod.snd)
    rw [← List.map_dropLast]
    exact List.mem_map_of_mem member
  have last : ∀ file ∈ placed.getLast?,
      final.disk.lookup file.1 = some (sliceBytes stream file.2 ++ torn) := by
    intro file member
    rw [← bytesOf file (List.mem_of_mem_getLast? member)]
    apply keeps.last (file.1, file.2.map Prod.snd)
    rw [List.getLast?_map, Option.mem_def.mp member]
    rfl
  have names : (placed.map fun file => (file.1, file.2.map Prod.snd)).map Prod.fst =
      placed.map Prod.fst := by
    rw [List.map_map]
    rfl
  have cut : torn = [] ∨ placed ≠ [] ∧ ∃ found ∈ missing.head?, torn <+: wireBytes found.2 ∧
      torn.length < found.2.length.toNat := by
    rcases piece with empty | ⟨nonempty, frame, first, start, short⟩
    · exact .inl empty
    · rw [List.head?_map, Option.mem_def, Option.map_eq_some_iff] at first
      rcases first with ⟨found, first, rfl⟩
      have intact := (intact_of_frameAt (present found
        (List.mem_append_right _ (List.mem_of_mem_head? first)))).1
      rw [length_wireBytes intact] at short
      refine .inr ⟨?_, found, first, start, short⟩
      rintro rfl
      exact nonempty rfl
  have undecided : verdict torn = none := by
    rcases cut with rfl | ⟨_, found, first, start, short⟩
    · rfl
    · have intact := (intact_of_frameAt (present found
        (List.mem_append_right _ (List.mem_of_mem_head? first)))).1
      rw [← length_wireBytes intact] at short
      exact verdict_torn intact start short
  have held : ∀ file ∈ placed, ∃ tail, verdict tail = none ∧
      final.disk.getD file.1 [] = (file.2.map Prod.snd).flatMap wireBytes ++ tail := by
    intro file member
    rw [bytesOf file member, Dict.getD]
    by_cases final : some file = placed.getLast?
    · refine ⟨torn, undecided, ?_⟩
      rw [last file final.symm]
      rfl
    · refine ⟨[], rfl, ?_⟩
      rw [whole file (List.mem_dropLast_of_mem_of_ne_getLast? member final), List.append_nil]
      rfl
  refine ⟨placed, missing, ?_, rfl⟩
  exact
    { names := fun index inside => by
        have named := holds.named index (by rwa [List.length_map])
        simp only [List.getElem_map] at named
        exact named
      distinct := names ▸ holds.distinct
      whole := whole
      last := last
      untouched := fun path absent => keeps.untouched path (names ▸ absent)
      frames := present
      ordered := split ▸ locatedFrames_pairwise _
      complete := ⟨_, by rw [← split, map_snd_locatedFrames, SbfFrameSync.feed_fresh]⟩
      piece := cut
      counted := by
        rw [framesWritten, bytesWritten, holds.framesWritten, holds.bytesWritten, ← same]
        simp [wireLength, Function.comp_def]
      readBack := by
        intro file member
        have intact : ∀ frame ∈ file.2.map Prod.snd, Intact frame := by
          intro frame inside
          rcases List.mem_map.mp inside with ⟨found, foundInside, rfl⟩
          exact (intact_of_frameAt (inFile file member found foundInside)).1
        rcases held file member with ⟨tail, waiting, content⟩
        rw [content, ← bytesOf file member]
        exact readBack_torn intact waiting }

/-! ## Whole recordings -/

section

variable {environment : Environment}

theorem ok_of_ends_call (bounded : environment.Bounded) {recorder final : SbfRecorder}
    {call : Call} (ends : (Act.call environment call).Ends recorder (.ok ⟨⟩) final) :
    recorder.apply environment call = .ok final := by
  cases call with
  | close =>
      cases ends
      rfl
  | feed bytes =>
      rcases ends_bind_iff.mp ends with ⟨_, _, impossible⟩ | ⟨_, ready, opens, rest⟩
      · cases impossible
      · rcases ends_ensureOpen opens with ⟨_, opened⟩ | ⟨_, impossible, _⟩
        · cases fed : ready.sync.feed bytes with
          | error fault =>
              rcases ends_bind_iff.mp rest with ⟨_, _, impossible⟩ | ⟨_, middle, emits, _⟩
              · cases impossible
              · unfold Act.synchronize at emits
                rw [ends_get_bind_iff] at emits
                simp only [fed] at emits
                cases emits
          | ok emitted =>
              rw [ends_synchronize_bind_iff fed] at rest
              have ran : emitted.2.foldlM (SbfRecorder.writeAndRotate environment) _ =
                  .ok final :=
                foldlM_of_ends_forM (fun _ _ _ => ok_of_ends_writeAndRotate bounded) rest
              simp only [SbfRecorder.apply, SbfRecorder.feed, opened, Checked.ok_bind, fed,
                Except.mapError]
              exact ran
        · cases impossible

/-- What calls that succeed have recorded. -/
theorem run_succeeds {config : Config} {disk : Dict String (List Byte)} {calls : List Call}
    {recorder : SbfRecorder}
    (ran : (SbfRecorder.fresh config disk).run environment calls = .ok recorder) :
    ∃ files, Holds config disk files recorder ∧
      Tracks (fedChunks calls).flatten recorder.sync ∧
      framesOf (scanner.tokens (fedChunks calls).flatten) = written files := by
  rcases run_fresh (forced_reliable environment) config disk calls with
    ⟨files, recorder', frames, ranToo, fed, holds, all, _⟩
  rw [run_forced ran] at ranToo
  cases ranToo
  rcases SbfFrameSync.feedAll_fresh (fedChunks calls) with ⟨sync, fedToo, tracks⟩
  rw [fed] at fedToo
  cases fedToo
  exact ⟨files, holds, tracks, all.symm⟩

/-- What is left when the calls have ended, with the calls that were made. -/
theorem survives_of_ends (bounded : environment.Bounded) {config : Config}
    {disk : Dict String (List Byte)} {calls : List Call} {recorder : SbfRecorder}
    {outcome : Except RecorderError PUnit}
    (ends : (Act.calls environment calls).Ends (.fresh config disk) outcome recorder) :
    (SbfRecorder.fresh config disk).run environment calls = outcome.map (fun _ => recorder) ∧
    ∃ made unmade files lost torn, calls = made ++ unmade ∧
      Survives config disk (fedChunks made).flatten recorder files lost torn ∧
      (outcome = .ok ⟨⟩ ∧ unmade = [] ∧ lost = [] ∧ torn = [] ∨
        ∃ message, outcome = .error (.runtimeError message) ∧
          (SbfRecorder.fresh config disk).run environment made =
            .error (.runtimeError message)) := by
  cases outcome with
  | ok _ =>
      have ran : (SbfRecorder.fresh config disk).run environment calls = .ok recorder :=
        foldlM_of_ends_forM (fun _ _ _ => ok_of_ends_call bounded) ends
      rcases run_succeeds ran with ⟨files, holds, _, all⟩
      have same : Untouched recorder recorder := ⟨rfl, rfl, rfl⟩
      rw [← List.append_nil (written files)] at all
      rcases (same.keeps holds).survives holds rfl rfl all (.inl rfl) with
        ⟨placed, missing, survives, none⟩
      rw [List.map_eq_nil_iff] at none
      exact ⟨ran, calls, [], placed, missing, [], by simp, survives,
        .inl ⟨rfl, rfl, none, rfl⟩⟩
  | error fault =>
      rcases ends_forM_error ends with ⟨front, call, back, before, rfl, made, failed⟩
      have ran : (SbfRecorder.fresh config disk).run environment front = .ok before :=
        foldlM_of_ends_forM (fun _ _ _ => ok_of_ends_call bounded) made
      rcases run_succeeds ran with ⟨files, holds, tracks, all⟩
      cases call with
      | close => cases failed
      | feed bytes =>
          rcases ends_feed_error bounded holds tracks.consistent failed with
            ⟨plain, ⟨message, rfl⟩, files', middle, done, lost, holdsMiddle, emitted, grown, left⟩
          have stream : (fedChunks (front ++ [.feed bytes])).flatten =
              (fedChunks front).flatten ++ bytes := by
            simp [fedChunks]
          have split : framesOf (scanner.tokens (fedChunks (front ++ [.feed bytes])).flatten) =
              written files' ++ lost := by
            rw [stream, tracks.frames bytes, all, emitted, grown, List.append_assoc]
          have failsAt : ∀ more, (SbfRecorder.fresh config disk).run environment
              (front ++ .feed bytes :: more) = .error (.runtimeError message) := by
            intro more
            rw [SbfRecorder.run, List.foldlM_append]
            change (SbfRecorder.run environment _ front >>= _) = _
            rw [ran, Checked.ok_bind, List.foldlM_cons, SbfRecorder.apply, plain]
            rfl
          have kept : ∃ torn, Keeps disk files' torn recorder ∧
              recorder.stats.framesWritten = middle.stats.framesWritten ∧
              recorder.stats.bytesWritten = middle.stats.bytesWritten ∧
              (torn = [] ∨ files' ≠ [] ∧ ∃ frame ∈ lost.head?, torn <+: wireBytes frame ∧
                torn.length < (wireBytes frame).length) := by
            rcases left with untouched | ⟨frame, later, torn, rfl, isOpen, left⟩
            · exact ⟨[], untouched.keeps holdsMiddle, untouched.framesWritten,
                untouched.bytesWritten, .inl rfl⟩
            · rcases left.keeps holdsMiddle isOpen with ⟨nonempty, keeps⟩
              exact ⟨torn, keeps, left.framesWritten, left.bytesWritten,
                .inr ⟨nonempty, frame, rfl, left.piece, left.missing⟩⟩
          rcases kept with ⟨torn, keeps, framesWritten, bytesWritten, piece⟩
          rcases keeps.survives holdsMiddle framesWritten bytesWritten split piece with
            ⟨placed, missing, survives, _⟩
          exact ⟨failsAt back, front ++ [.feed bytes], back, placed, missing, torn,
            by rw [List.append_assoc]; rfl, survives, .inr ⟨message, rfl, failsAt []⟩⟩

end

/-- A disk on which the second write after the opening of a file stops short. -/
def fullDisk : Environment where
  utcTimestampNow := fun _ => "20260101T000000Z"
  steadyNow := fun question => question
  fopen := fun _ _ => none
  fwrite := fun question count => if question = 2 then min count 3 else count

theorem fullDisk_bounded : fullDisk.Bounded := by
  intro question count
  dsimp only [fullDisk]
  split <;> omega

/-- A frame of twelve bytes in two chunks. -/
def twoChunks : List Call :=
  [.feed [0x24, 0x40, 0xE0, 0x06, 0x00, 0x00, 0x0C, 0x00], .feed [0x01, 0x02, 0x03, 0x04],
    .close]

end AsterxDriver.Recorder
