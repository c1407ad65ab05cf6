import AsterxDriver.Recorder.Recording

/-! # Fidelity of a recording

The files of a recording against the bytes that the recorder was given. -/

namespace AsterxDriver.Recorder

open Foundation ByteString Sbf

/-- A file of the recording with the place of each of its frames in the stream. -/
abbrev LocatedFile := String × List (Nat × Frame)

/-- The pieces of `stream` in which the frames stand, one after another. -/
def sliceBytes (stream : List Byte) (located : List (Nat × Frame)) : List Byte :=
  located.flatMap fun found => slice stream found.1 (found.1 + found.2.length.toNat)

/-- What a recording of `stream` leaves on a disk that held `disk` before. -/
structure Faithful (config : Config) (disk : Dict String (List Byte)) (stream : List Byte)
    (recorder : SbfRecorder) (files : List LocatedFile) : Prop where
  /-- The files are numbered from one. -/
  names : recorder.seq = files.length ∧
    ∀ index (inside : index < files.length), ∃ timestamp,
      files[index].1 = config.filePath timestamp (index + 1)
  distinct : (files.map Prod.fst).Nodup
  contents : ∀ file ∈ files,
    recorder.disk.lookup file.1 = some (sliceBytes stream file.2)
  untouched : ∀ path ∉ files.map Prod.fst, recorder.disk.lookup path = disk.lookup path
  /-- All files together are pieces of the stream in stream order. -/
  concatenation : files.flatMap (fun file => recorder.disk.getD file.1 []) =
    sliceBytes stream (files.flatMap Prod.snd)
  ordered : (files.flatMap Prod.snd).Pairwise
    fun first second => first.1 + first.2.length.toNat ≤ second.1
  frames : ∀ found ∈ files.flatMap Prod.snd, FrameAt stream found.1 found.2
  /-- Nothing that the synchronizer finds in the stream is missing. -/
  complete : ∃ sync, SbfFrameSync.fresh.feed stream =
    .ok (sync, (files.flatMap Prod.snd).map Prod.snd)
  readBack : ∀ file ∈ files,
    Parser.iterFrames (sliceBytes stream file.2) =
      (contiguous 0 (file.2.map Prod.snd)).map
        (fun found => Parser.ofDriver found.1 found.2) ∧
    (file.2.map fun found => found.2.length.toNat).sum =
      (sliceBytes stream file.2).length ∧
    Parser.verifySbfBytes (sliceBytes stream file.2) = (file.2.length, 0)

/-- Frames that are known by their places can be told apart by files. -/
theorem exists_located (files : List File) (located : List (Nat × Frame))
    (same : located.map Prod.snd = written files) :
    ∃ placed : List LocatedFile,
      placed.map (fun file => (file.1, file.2.map Prod.snd)) = files ∧
      placed.flatMap Prod.snd = located := by
  induction files generalizing located with
  | nil => exact ⟨[], rfl, (List.map_eq_nil_iff.mp same).symm⟩
  | cons file files induction =>
      rcases List.map_eq_append_iff.mp same with ⟨first, later, rfl, firstSame, laterSame⟩
      rcases induction later laterSame with ⟨placed, rfl, rfl⟩
      refine ⟨(file.1, first) :: placed, ?_, rfl⟩
      rw [List.map_cons, firstSame]

theorem sliceBytes_eq_wireBytes {stream : List Byte} {located : List (Nat × Frame)}
    (present : ∀ found ∈ located, FrameAt stream found.1 found.2) :
    sliceBytes stream located = (located.map Prod.snd).flatMap wireBytes := by
  rw [sliceBytes, List.flatMap_map]
  exact List.flatMap_congr fun found member =>
    (intact_of_frameAt (present found member)).2

/-- What a file of frames of the stream gives back to the parser. -/
theorem readBack_sliceBytes {stream : List Byte} {located : List (Nat × Frame)}
    (present : ∀ found ∈ located, FrameAt stream found.1 found.2) :
    Parser.iterFrames (sliceBytes stream located) =
        (contiguous 0 (located.map Prod.snd)).map
          (fun found => Parser.ofDriver found.1 found.2) ∧
      (located.map fun found => found.2.length.toNat).sum =
        (sliceBytes stream located).length ∧
      Parser.verifySbfBytes (sliceBytes stream located) = (located.length, 0) := by
  have intact : ∀ frame ∈ located.map Prod.snd, Intact frame := by
    intro frame member
    rcases List.mem_map.mp member with ⟨found, inside, rfl⟩
    exact (intact_of_frameAt (present found inside)).1
  rw [sliceBytes_eq_wireBytes present]
  refine ⟨Parser.iterFrames_wireBytes intact, ?_, ?_⟩
  · rw [length_flatMap_wireBytes intact, List.map_map]
    rfl
  · rw [Parser.verifySbfBytes_wireBytes intact, List.length_map]

/-- Every recording is made of frames of the stream, whole and in their order,
and the parser reads exactly these back from each file. -/
theorem recording_fidelity (environment : Environment) (reliable : environment.Reliable)
    (config : Config) (disk : Dict String (List Byte)) (calls : List Call) :
    ∃ recorder files,
      (SbfRecorder.fresh config disk).run environment calls = .ok recorder ∧
      Faithful config disk (fedChunks calls).flatten recorder files := by
  rcases run_fresh reliable config disk calls with
    ⟨files, recorder, frames, ran, fed, holds, all, _⟩
  rcases SbfFrameSync.feedAll_fresh (fedChunks calls) with ⟨_, emitted, _⟩
  rw [fed] at emitted
  injection emitted with emitted
  injection emitted with _ framesEqual
  rw [framesEqual, ← map_snd_locatedFrames] at all
  rcases exists_located files _ all.symm with ⟨placed, rfl, split⟩
  have present : ∀ found ∈ placed.flatMap Prod.snd,
      FrameAt (fedChunks calls).flatten found.1 found.2 := by
    rw [split]
    rintro ⟨offset, frame⟩ member
    exact frameAt_of_mem_locatedFrames member
  have inFile : ∀ file ∈ placed, ∀ found ∈ file.2,
      FrameAt (fedChunks calls).flatten found.1 found.2 := fun file member found inside =>
    present found (List.mem_flatMap.mpr ⟨file, member, inside⟩)
  have contents : ∀ file ∈ placed, recorder.disk.lookup file.1 =
      some (sliceBytes (fedChunks calls).flatten file.2) := by
    intro file member
    rw [sliceBytes_eq_wireBytes (inFile file member), holds.stored]
    exact lookup_store_of_mem disk holds.distinct
      (List.mem_map_of_mem (f := fun file => (file.1, file.2.map Prod.snd)) member)
  have names : (placed.map fun file => (file.1, file.2.map Prod.snd)).map Prod.fst =
      placed.map Prod.fst := by
    rw [List.map_map]
    rfl
  refine ⟨recorder, placed, ran, ?_⟩
  exact
    { names := ⟨by simpa using holds.seq, fun index inside => by
        have named := holds.named index (by rwa [List.length_map])
        simp only [List.getElem_map] at named
        exact named⟩
      distinct := names ▸ holds.distinct
      contents := contents
      untouched := fun path absent => by
        rw [holds.stored]
        exact lookup_store_of_notMem disk _ path (names ▸ absent)
      concatenation := by
        rw [sliceBytes, List.flatMap_assoc]
        exact List.flatMap_congr fun file member => by
          rw [Dict.getD, contents file member]
          rfl
      ordered := split ▸ locatedFrames_pairwise _
      frames := present
      complete := ⟨_, by rw [split, map_snd_locatedFrames, SbfFrameSync.feed_fresh]⟩
      readBack := fun file member => readBack_sliceBytes (inFile file member) }

/-- A system on which every operation succeeds and a nanosecond passes between
questions. -/
def quietEnvironment : Environment where
  utcTimestampNow := fun _ => "20260101T000000Z"
  steadyNow := fun question => question
  fopen := fun _ _ => none
  fwrite := fun _ count => count

theorem recording_fidelity_rotating :
    quietEnvironment.Reliable ∧ ∃ recorder files,
      (SbfRecorder.fresh ⟨"./recordings", "asterx", 8, 3600⟩ ∅).run quietEnvironment
        [.feed [0x24, 0x40, 0xA9], .feed [0x89, 0x00, 0x00, 0x08, 0x00], .close, .feed []] =
          .ok recorder ∧
      Faithful ⟨"./recordings", "asterx", 8, 3600⟩ ∅
        [0x24, 0x40, 0xA9, 0x89, 0x00, 0x00, 0x08, 0x00] recorder files :=
  have reliable : quietEnvironment.Reliable := ⟨fun _ _ => rfl, fun _ _ => rfl⟩
  ⟨reliable, recording_fidelity quietEnvironment reliable _ ∅ [.feed [0x24, 0x40, 0xA9],
    .feed [0x89, 0x00, 0x00, 0x08, 0x00], .close, .feed []]⟩

end AsterxDriver.Recorder
