import AsterxDriver.Parser.Relocation
import AsterxDriver.Recorder.Fidelity

/-! # What becomes of a stream

The recorder writes the frames of a stream into files, and the export reads such
files. The result is the one that the stream itself would give. -/

namespace AsterxDriver.Recorder

open Foundation ByteString Sbf FloatArithmetic

/-- Between two frames, or in the header of one, fewer bytes are kept than a header has. -/
theorem length_rest_of_tracks {stream : List Byte} {sync : SbfFrameSync}
    (tracks : Tracks stream sync) (finished : sync.state ≠ .readingBody) :
    (scanner.rest stream).length < 8 := by
  rcases tracks.tokens [] with ⟨_, _, _, _, _, rest⟩
  rw [List.append_nil, List.append_nil] at rest
  rw [rest]
  by_cases idle : sync.state = .idle
  · rw [(tracks.consistent.scanned idle).1]
    decide
  · rcases tracks.consistent.busy idle with ⟨noDrain, waiting, state⟩
    have kept : sync.pending = sync.buf := by
      rw [SbfFrameSync.pending, noDrain, List.drop_zero]
    rw [kept, scanner.rest_of_none waiting]
    rw [state, pendingState] at finished
    by_contra long
    rw [if_neg (by omega), if_neg (by omega), if_neg long] at finished
    exact finished rfl

/-- Driver and parser find the same frames in a stream that does not end inside of one. -/
theorem iterFrames_of_tracks {stream : List Byte} {sync : SbfFrameSync}
    (tracks : Tracks stream sync) (finished : sync.state ≠ .readingBody) :
    Parser.iterFrames stream = (locatedFrames (scanner.tokens stream)).map fun found =>
      Parser.ofDriver found.1 found.2 := by
  have short := length_rest_of_tracks tracks finished
  have inside := scanner.length_rest_le 0 stream
  have run := Parser.iterFramesFrom_run stream 0 stream rfl (Nat.zero_le _)
  have beyond : ¬stream.length - (scanner.rest stream).length + 8 ≤ stream.length := by
    change (scanner.rest stream).length ≤ stream.length at inside
    omega
  rw [Parser.iterFrames, run]
  change _ ++ Parser.iterFramesFrom stream (stream.length - (scanner.rest stream).length) = _
  rw [Parser.iterFramesFrom_of_short beyond, List.append_nil]
  rfl

/-- The files together are the frames one after another. -/
theorem Holds.concatenation {config : Config} {disk : Dict String (List Byte)} {files : List File}
    {recorder : SbfRecorder} (holds : Holds config disk files recorder) :
    (files.map Prod.fst).flatMap (fun path => recorder.disk.getD path []) =
      (written files).flatMap wireBytes := by
  rw [List.flatMap_map, written, List.flatMap_assoc]
  refine List.flatMap_congr fun file member => ?_
  rw [Dict.getD, holds.stored, lookup_store_of_mem disk holds.distinct member]
  rfl

/-- The frames that the recorder has written are those of the stream, at other places. -/
theorem sameFrames_of_holds {config : Config} {disk : Dict String (List Byte)}
    {files : List File} {recorder : SbfRecorder} {stream : List Byte}
    (holds : Holds config disk files recorder) (tracks : Tracks stream recorder.sync)
    (finished : recorder.sync.state ≠ .readingBody)
    (all : written files = framesOf (scanner.tokens stream)) :
    (Parser.iterFrames stream).map (·.movedTo 0) =
      (Parser.iterFrames ((files.map Prod.fst).flatMap fun path =>
        recorder.disk.getD path [])).map (·.movedTo 0) := by
  have intact : ∀ frame ∈ written files, Intact frame := by
    rw [all]
    exact fun frame member => intact_of_mem_framesOf member
  have forget : ∀ located : List (Nat × Frame),
      (located.map fun found => Parser.ofDriver found.1 found.2).map (·.movedTo 0) =
        (located.map Prod.snd).map (Parser.ofDriver 0) := by
    intro located
    rw [List.map_map, List.map_map]
    rfl
  rw [holds.concatenation, iterFrames_of_tracks tracks finished,
    Parser.iterFrames_wireBytes intact, forget, forget, map_snd_locatedFrames,
    map_snd_contiguous, all]

/-- Whatever stream the recorder gets, in whatever pieces, and however often it starts a new
file: unless the stream ends inside of a frame, the export of the recorded files, one behind
another, is the export of the stream, up to the places of the frames. -/
theorem recorded_export_same (environment : Environment) (reliable : environment.Reliable)
    (config : Config) (disk : Dict String (List Byte)) (calls : List Call) :
    ∃ (recorder : SbfRecorder) (paths : List String),
      (SbfRecorder.fresh config disk).run environment calls = .ok recorder ∧
      recorder.seq = paths.length ∧
      (∀ index (inside : index < paths.length), ∃ timestamp,
        paths[index] = config.filePath timestamp (index + 1)) ∧
      (recorder.sync.state ≠ .readingBody →
        ∀ (F : Type) [FloatArithmetic F] (outDir : String) (output : Dict String (List Byte)),
          let recorded := paths.flatMap fun path => recorder.disk.getD path []
          (∃ fault,
            Parser.exportRecording F (fedChunks calls).flatten outDir output = .error fault ∧
            Parser.exportRecording F recorded outDir output = .error fault) ∨
          ∃ summary another,
            Parser.exportRecording F (fedChunks calls).flatten outDir output = .ok summary ∧
            Parser.exportRecording F recorded outDir output = .ok another ∧
            Parser.SameExport summary another) := by
  rcases run_fresh reliable config disk calls with
    ⟨files, recorder, frames, ran, fed, holds, all, _⟩
  rcases SbfFrameSync.feedAll_fresh (fedChunks calls) with ⟨sync, emitted, tracks⟩
  rw [fed] at emitted
  cases emitted
  refine ⟨recorder, files.map Prod.fst, ran, ?_, ?_, ?_⟩
  · rw [List.length_map]
    exact holds.seq
  · intro index inside
    rw [List.getElem_map]
    exact holds.named index (by rwa [List.length_map] at inside)
  · intro finished F _ outDir output
    exact Parser.exportRecording_sameFrames (sameFrames_of_holds holds tracks finished all)
      outDir output

/-- A block in two pieces, behind which the recorder starts a new file for the next one. -/
def pieces : List Call :=
  [.feed [0x24, 0x40, 0xA9], .feed [0x89, 0x00, 0x00, 0x08, 0x00, 0x24, 0x40, 0xA9, 0x89],
    .feed [0x00, 0x00, 0x08, 0x00, 0x24]]

theorem pieces_export_same : quietEnvironment.Reliable ∧
    ∃ (recorder : SbfRecorder) (paths : List String),
      (SbfRecorder.fresh ⟨"./recordings", "asterx", 8, 3600⟩ ∅).run quietEnvironment pieces =
        .ok recorder ∧
      recorder.sync.state = .gotDollar ∧
      ∀ (F : Type) [FloatArithmetic F] (outDir : String) (output : Dict String (List Byte)),
        let recorded := paths.flatMap fun path => recorder.disk.getD path []
        (∃ fault,
          Parser.exportRecording F (fedChunks pieces).flatten outDir output = .error fault ∧
          Parser.exportRecording F recorded outDir output = .error fault) ∨
        ∃ summary another,
          Parser.exportRecording F (fedChunks pieces).flatten outDir output = .ok summary ∧
          Parser.exportRecording F recorded outDir output = .ok another ∧
          Parser.SameExport summary another := by
  have reliable : quietEnvironment.Reliable := ⟨fun _ _ => rfl, fun _ _ => rfl⟩
  rcases recorded_export_same quietEnvironment reliable ⟨"./recordings", "asterx", 8, 3600⟩ ∅
    pieces with ⟨recorder, paths, ran, _, _, same⟩
  rcases run_fresh reliable ⟨"./recordings", "asterx", 8, 3600⟩ ∅ pieces with
    ⟨_, _, _, alsoRan, fed, _⟩
  rw [ran] at alsoRan
  cases alsoRan
  have evaluated : (SbfFrameSync.fresh.feedAll (fedChunks pieces)).map (·.1.state) =
      .ok .gotDollar := by
    decide +kernel
  rw [fed] at evaluated
  have state : recorder.sync.state = .gotDollar := Except.ok.inj evaluated
  refine ⟨reliable, recorder, paths, ran, state, same ?_⟩
  rw [state]
  exact nofun

end AsterxDriver.Recorder
