import AsterxDriver.Foundation.NumberedName
import AsterxDriver.Parser.ReadBack
import AsterxDriver.Recorder.SbfRecorder

/-! # What the recorder leaves on the disk

The files of a recording as a list of names with the frames of each, and the
disk that such a list describes. -/

namespace AsterxDriver.Recorder

open Foundation ByteString Sbf

/-! ## File names -/

theorem exists_joinPath_eq (directory name : String) :
    ∃ front, joinPath directory name = front ++ name := by
  unfold joinPath
  split_ifs
  · exact ⟨"", by simp⟩
  · exact ⟨directory, rfl⟩
  · exact ⟨directory ++ "/", rfl⟩

/-- Two files of one recorder never share a name. -/
theorem filePath_injective (config : Config) {timestamp timestamp' : String}
    {seq seq' : Nat}
    (same : config.filePath timestamp seq = config.filePath timestamp' seq') :
    seq = seq' := by
  have shape : ∀ timestamp seq, ∃ front : List Char,
      (config.filePath timestamp seq).toList =
        front ++ '-' :: NumberedName.digits seq ++ ".sbf".toList := by
    intro timestamp seq
    rcases exists_joinPath_eq config.outputDir
      (config.filePrefix ++ "-" ++ timestamp ++ "-" ++ toString seq ++ ".sbf") with
      ⟨front, equal⟩
    refine ⟨(front ++ config.filePrefix ++ "-" ++ timestamp).toList, ?_⟩
    rw [Config.filePath, equal]
    simp [NumberedName.digits]
  rcases shape timestamp seq with ⟨front, first⟩
  rcases shape timestamp' seq' with ⟨front', second⟩
  rw [same, second] at first
  exact (NumberedName.number_after_mark (by decide)
    (List.append_cancel_right first)).symm

/-! ## Bytes of a frame -/

theorem lowByte_eq (value : BitVec 16) :
    (value &&& 0xFF).setWidth 8 = BitVec.ofNat 8 value.toNat := by
  apply BitVec.eq_of_toNat_eq
  rw [BitVec.toNat_setWidth, BitVec.toNat_and, BitVec.toNat_ofNat]
  change (value.toNat &&& 2 ^ 8 - 1) % 2 ^ 8 = _
  rw [Nat.and_two_pow_sub_one_eq_mod, Nat.mod_mod]

theorem toNat_highByte (value : BitVec 16) : (value >>> 8).toNat = value.toNat / 256 := by
  rw [BitVec.toNat_ushiftRight, Nat.shiftRight_eq_div_pow]

theorem headerBytes_append_body (frame : Frame) :
    headerBytes frame ++ frame.body = wireBytes frame := by
  simp only [headerBytes, lowByte_eq, toNat_highByte, wireBytes, packU16le,
    List.cons_append, List.nil_append]

/-! ## Files -/

/-- A file of the recording: its name and its frames. -/
abbrev File := String × List Frame

/-- The disk after the files were written one after another. -/
def store (disk : Dict String (List Byte)) (files : List File) : Dict String (List Byte) :=
  files.foldl (fun disk file => disk.insert file.1 (file.2.flatMap wireBytes)) disk

theorem store_append (disk : Dict String (List Byte)) (files : List File) (file : File) :
    store disk (files ++ [file]) =
      (store disk files).insert file.1 (file.2.flatMap wireBytes) := by
  simp [store]

/-- Writing to the file opened last. -/
theorem store_modify (disk : Dict String (List Byte)) (files : List File) (path : String)
    (frames : List Frame) (bytes : List Byte) :
    (store disk (files ++ [(path, frames)])).modify path [] (· ++ bytes) =
      (store disk files).insert path (frames.flatMap wireBytes ++ bytes) := by
  rw [store_append, Dict.modify, Dict.getD_insert_self, AList.insert_insert]

theorem lookup_store_of_notMem (disk : Dict String (List Byte)) (files : List File)
    (path : String) (absent : path ∉ files.map Prod.fst) :
    (store disk files).lookup path = disk.lookup path := by
  induction files using List.reverseRecOn with
  | nil => rfl
  | append_singleton files file induction =>
      simp only [List.map_append, List.mem_append, not_or, List.map_cons, List.map_nil,
        List.mem_singleton] at absent
      rw [store_append, AList.lookup_insert_ne absent.2, induction absent.1]

theorem lookup_store_of_mem (disk : Dict String (List Byte)) {files : List File}
    (distinct : (files.map Prod.fst).Nodup) {file : File} (member : file ∈ files) :
    (store disk files).lookup file.1 = some (file.2.flatMap wireBytes) := by
  induction files using List.reverseRecOn with
  | nil => cases member
  | append_singleton files last induction =>
      rw [List.map_append, List.nodup_append] at distinct
      rw [store_append]
      rcases List.mem_append.mp member with earlier | equal
      · have different : file.1 ≠ last.1 :=
          distinct.2.2 _ (List.mem_map_of_mem earlier) _ (by simp)
        rw [AList.lookup_insert_ne different, induction distinct.1 earlier]
      · rw [List.mem_singleton.mp equal, AList.lookup_insert]

/-! ## The recorder between operations -/

def wireLength (frames : List Frame) : Nat :=
  (frames.map fun frame => frame.length.toNat).sum

/-- All frames of the recording, in the order of the files. -/
def written (files : List File) : List Frame := files.flatMap Prod.snd

@[simp] theorem written_append (front back : List File) :
    written (front ++ back) = written front ++ written back :=
  List.flatMap_append

/-- A new file has no frames yet. -/
theorem written_append_opened {files more : List File} {path : String}
    (opened : more = [] ∨ more = [(path, [])]) : written (files ++ more) = written files := by
  rcases opened with rfl | rfl
  · rw [List.append_nil]
  · rw [written_append]
    exact List.append_nil _

theorem written_append_frame (front : List File) (path : String) (frames : List Frame)
    (frame : Frame) :
    written (front ++ [(path, frames ++ [frame])]) =
      written (front ++ [(path, frames)]) ++ [frame] := by
  simp [written]

/-- The recorder has made exactly `files`, on a disk that held `disk` before. -/
structure Holds (config : Config) (disk : Dict String (List Byte)) (files : List File)
    (recorder : SbfRecorder) : Prop where
  configured : recorder.config = config
  stored : recorder.disk = store disk files
  seq : recorder.seq = files.length
  named : ∀ index (inside : index < files.length), ∃ timestamp,
    files[index].1 = config.filePath timestamp (index + 1)
  current : recorder.isOpen = true → ∃ front frames,
    files = front ++ [(recorder.currentPath, frames)] ∧
      recorder.currentSize = wireLength frames
  framesWritten : recorder.stats.framesWritten = (written files).length
  bytesWritten : recorder.stats.bytesWritten = wireLength (written files)

theorem Holds.fresh (config : Config) (disk : Dict String (List Byte)) :
    Holds config disk [] (.fresh config disk) where
  configured := rfl
  stored := rfl
  seq := rfl
  named := fun _ inside => absurd inside (Nat.not_lt_zero _)
  current := fun isOpen => absurd isOpen Bool.false_ne_true
  framesWritten := rfl
  bytesWritten := rfl

theorem Holds.distinct {config : Config} {disk : Dict String (List Byte)}
    {files : List File} {recorder : SbfRecorder} (holds : Holds config disk files recorder) :
    (files.map Prod.fst).Nodup := by
  rw [List.nodup_iff_getElem?_ne_getElem?]
  intro first second before inside same
  rw [List.length_map] at inside
  rcases holds.named first (by omega) with ⟨timestamp, firstName⟩
  rcases holds.named second inside with ⟨timestamp', secondName⟩
  have names : files[first].1 = files[second].1 := by
    simpa [List.getElem?_eq_getElem, inside, show first < files.length by omega] using same
  rw [firstName, secondName] at names
  have := filePath_injective config names
  omega

/-- The open file is the last one, and its size is counted. -/
theorem Holds.currentSize_eq {config : Config} {disk : Dict String (List Byte)}
    {front : List File} {path : String} {frames : List Frame} {recorder : SbfRecorder}
    (holds : Holds config disk (front ++ [(path, frames)]) recorder)
    (isOpen : recorder.isOpen = true) :
    recorder.currentPath = path ∧ recorder.currentSize = wireLength frames := by
  rcases holds.current isOpen with ⟨front', frames', same, size⟩
  rcases List.append_inj' same rfl with ⟨_, last⟩
  injection last with last
  injection last with samePath sameFrames
  rw [sameFrames]
  exact ⟨samePath.symm, size⟩

/-- The part of a recorder that file operations leave alone. -/
def drops (recorder : SbfRecorder) : SbfFrameSync × (Nat × Nat × Nat) × (Nat × Nat × Nat) :=
  (recorder.sync,
    (recorder.prevCrcFailed, recorder.prevLengthInvalid, recorder.prevResyncs),
    (recorder.stats.crcFailed, recorder.stats.lengthInvalid, recorder.stats.resyncs))

/-! ## One operation -/

section

variable {environment : Environment} (reliable : environment.Reliable)
  {config : Config} {disk : Dict String (List Byte)} {files : List File}
  {recorder : SbfRecorder}

/-- Only the fields that `Holds` speaks of matter. -/
theorem Holds.of_same (holds : Holds config disk files recorder) {other : SbfRecorder}
    (sameConfig : other.config = recorder.config) (sameDisk : other.disk = recorder.disk)
    (sameSeq : other.seq = recorder.seq)
    (sameFile : other.isOpen = true → recorder.isOpen = true ∧
      other.currentPath = recorder.currentPath ∧ other.currentSize = recorder.currentSize)
    (sameFrames : other.stats.framesWritten = recorder.stats.framesWritten)
    (sameBytes : other.stats.bytesWritten = recorder.stats.bytesWritten) :
    Holds config disk files other where
  configured := sameConfig.trans holds.configured
  stored := sameDisk.trans holds.stored
  seq := sameSeq.trans holds.seq
  named := holds.named
  current := fun isOpen => by
    rcases sameFile isOpen with ⟨wasOpen, path, size⟩
    rw [path, size]
    exact holds.current wasOpen
  framesWritten := sameFrames.trans holds.framesWritten
  bytesWritten := sameBytes.trans holds.bytesWritten

theorem close_holds (holds : Holds config disk files recorder) :
    Holds config disk files recorder.close := by
  unfold SbfRecorder.close
  split
  · exact holds.of_same rfl rfl rfl (fun isOpen => absurd isOpen Bool.false_ne_true) rfl rfl
  · exact holds

include reliable

theorem openNewFile_holds (holds : Holds config disk files recorder) :
    ∃ next, recorder.openNewFile environment = .ok next ∧
      Holds config disk (files ++ [(next.currentPath, [])]) next ∧ next.isOpen = true ∧
      next.currentSize = 0 ∧ drops next = drops recorder := by
  refine ⟨_, by rw [SbfRecorder.openNewFile, reliable.fopen], ?_, rfl, rfl, ?_⟩
  · refine
      { configured := holds.configured
        stored := by rw [store_append, holds.stored]; rfl
        seq := by rw [List.length_append, ← holds.seq]; rfl
        named := ?_
        current := fun _ => ⟨files, [], rfl, rfl⟩
        framesWritten := ?_
        bytesWritten := ?_ }
    · intro index inside
      rw [List.length_append, List.length_singleton] at inside
      rcases Nat.lt_or_eq_of_le (Nat.lt_succ_iff.mp inside) with earlier | last
      · rw [List.getElem_append_left earlier]
        exact holds.named index earlier
      · refine ⟨environment.utcTimestampNow recorder.questions, ?_⟩
        rw [List.getElem_append_right (Nat.le_of_eq last.symm)]
        simp [holds.configured, holds.seq, last]
    · rw [written_append]
      dsimp only
      split <;> simpa [written] using holds.framesWritten
    · rw [written_append]
      dsimp only
      split <;> simpa [written] using holds.bytesWritten
  · simp only [drops]
    split <;> rfl

theorem writeFrame_eq (frame : Frame) :
    ∃ questions, recorder.writeFrame environment frame = .ok { recorder with
      currentSize := recorder.currentSize + frame.length.toNat
      stats := { recorder.stats with
        bytesWritten := recorder.stats.bytesWritten + frame.length.toNat
        framesWritten := recorder.stats.framesWritten + 1 }
      disk := recorder.disk.modify recorder.currentPath [] (· ++ wireBytes frame)
      questions := questions } := by
  have header : (headerBytes frame).length = 8 := rfl
  have whole : (headerBytes frame).take 8 = headerBytes frame := rfl
  simp only [SbfRecorder.writeFrame, SbfRecorder.fwrite, reliable.fwrite, List.take_length,
    header, whole, ne_eq, not_true_eq_false, if_false]
  by_cases empty : frame.body = []
  · refine ⟨recorder.questions + 1, ?_⟩
    rw [if_pos empty, ← headerBytes_append_body, empty, List.append_nil]
    rfl
  · refine ⟨recorder.questions + 1 + 1, ?_⟩
    rw [if_neg empty, Dict.modify_modify, ← headerBytes_append_body]
    simp only [Function.comp_def, List.append_assoc, Checked.ok_bind, Checked.pure_eq_ok]

/-- A frame goes to the end of the open file, which is the last one. -/
theorem writeFrame_holds (holds : Holds config disk files recorder)
    (isOpen : recorder.isOpen = true) (frame : Frame) :
    ∃ front frames next, files = front ++ [(recorder.currentPath, frames)] ∧
      recorder.writeFrame environment frame = .ok next ∧
      Holds config disk (front ++ [(recorder.currentPath, frames ++ [frame])]) next ∧
      next.isOpen = true ∧ next.currentPath = recorder.currentPath ∧
      next.currentSize = recorder.currentSize + frame.length.toNat ∧
      drops next = drops recorder := by
  have ⟨questions, result⟩ :
      ∃ questions, recorder.writeFrame environment frame = .ok _ := writeFrame_eq reliable frame
  rcases holds.current isOpen with ⟨front, frames, rfl, size⟩
  refine ⟨front, frames, _, rfl, result, ?_, isOpen, rfl, rfl, rfl⟩
  refine
    { configured := holds.configured
      stored := ?_
      seq := by simpa using holds.seq
      named := ?_
      current := fun _ => ⟨front, _, rfl, by simp [size, wireLength]⟩
      framesWritten := by simp [holds.framesWritten, written, Nat.add_assoc]
      bytesWritten := by simp [holds.bytesWritten, written, wireLength, Nat.add_assoc] }
  · rw [holds.stored, store_modify, store_append]
    simp
  · intro index inside
    have before : index < (front ++ [(recorder.currentPath, frames)]).length := by
      simpa using inside
    rcases holds.named index before with ⟨timestamp, name⟩
    refine ⟨timestamp, name ▸ ?_⟩
    simp only [List.getElem_append]
    split
    · rfl
    · simp

/-- The file stays when it is below the limit, or an empty one follows it. -/
theorem rotateIfNeeded_holds (holds : Holds config disk files recorder)
    (isOpen : recorder.isOpen = true) :
    ∃ more next, recorder.rotateIfNeeded environment = .ok next ∧
      Holds config disk (files ++ more) next ∧ next.isOpen = true ∧
      drops next = drops recorder ∧
      ((more = [] ∧ next.currentSize = recorder.currentSize ∧
          recorder.currentSize < config.rotateBytes) ∨
        (more = [(next.currentPath, [])] ∧ next.currentSize = 0)) := by
  have asked : Holds config disk files { recorder with questions := recorder.questions + 1 } :=
    holds.of_same rfl rfl rfl (fun _ => ⟨isOpen, rfl, rfl⟩) rfl rfl
  rw [SbfRecorder.rotateIfNeeded, if_neg (not_not.mpr isOpen)]
  dsimp only
  split
  · rcases openNewFile_holds reliable asked with
      ⟨next, opened, holdsNext, openNext, empty, dropsNext⟩
    exact ⟨_, next, opened, holdsNext, openNext, dropsNext, .inr ⟨rfl, empty⟩⟩
  · rename_i stays
    rw [holds.configured] at stays
    exact ⟨[], _, rfl, by rwa [List.append_nil], isOpen, rfl,
      .inl ⟨rfl, rfl, not_le.mp fun full => stays (.inl full)⟩⟩

/-- Writing the frames of one call. -/
theorem writeAndRotate_holds (frames : List Frame)
    (holds : Holds config disk files recorder) (isOpen : recorder.isOpen = true) :
    ∃ files' next,
      frames.foldlM (SbfRecorder.writeAndRotate environment) recorder = .ok next ∧
      Holds config disk files' next ∧ written files' = written files ++ frames ∧
      next.isOpen = true ∧ drops next = drops recorder := by
  induction frames generalizing files recorder with
  | nil => exact ⟨files, recorder, rfl, holds, by simp, isOpen, rfl⟩
  | cons frame frames induction =>
      rcases writeFrame_holds reliable holds isOpen frame with
        ⟨front, before, afterWrite, rfl, wrote, holdsWritten, openWritten, _, _, dropsWritten⟩
      rcases rotateIfNeeded_holds reliable holdsWritten openWritten with
        ⟨more, afterRotate, rotated, holdsRotated, openRotated, dropsRotated, added⟩
      have nothing : written more = [] := by
        rcases added with ⟨rfl, _⟩ | ⟨rfl, _⟩ <;> rfl
      rcases induction holdsRotated openRotated with
        ⟨files', next, later, holdsNext, all, openNext, dropsNext⟩
      refine ⟨files', next, ?_, holdsNext, ?_, openNext, ?_⟩
      · simpa [SbfRecorder.writeAndRotate, wrote, rotated] using later
      · rw [all, written_append, nothing]
        simp [written]
      · rw [dropsNext, dropsRotated, dropsWritten]

theorem ensureOpen_holds (holds : Holds config disk files recorder) :
    ∃ more ready, recorder.ensureOpen environment = .ok ready ∧
      Holds config disk (files ++ more) ready ∧ ready.isOpen = true ∧
      drops ready = drops recorder ∧
      ((more = [] ∧ ready = recorder) ∨
        (recorder.isOpen = false ∧ more = [(ready.currentPath, [])] ∧
          ready.currentSize = 0)) := by
  unfold SbfRecorder.ensureOpen
  split
  · rename_i isOpen
    exact ⟨[], recorder, rfl, by rwa [List.append_nil], isOpen, rfl, .inl ⟨rfl, rfl⟩⟩
  · rename_i closed
    rcases openNewFile_holds reliable holds with
      ⟨ready, result, holdsReady, openReady, empty, dropsReady⟩
    exact ⟨_, ready, result, holdsReady, openReady, dropsReady,
      .inr ⟨Bool.not_eq_true _ ▸ closed, rfl, empty⟩⟩

/-- One call of `feed` writes what the synchronizer emits. -/
theorem feed_holds (holds : Holds config disk files recorder) {bytes : List Byte}
    {sync : SbfFrameSync} {frames : List Frame}
    (fed : recorder.sync.feed bytes = .ok (sync, frames)) :
    ∃ files' next, recorder.feed environment bytes = .ok next ∧
      Holds config disk files' next ∧ written files' = written files ++ frames ∧
      drops next = drops (recorder.addDrops sync) := by
  rcases ensureOpen_holds reliable holds with
    ⟨more, ready, result, holdsReady, isOpen, same, added⟩
  have nothing : written more = [] := by
    rcases added with ⟨rfl, _⟩ | ⟨_, rfl, _⟩ <;> rfl
  injection same with sameSync sameDrops
  have counted : Holds config disk (files ++ more) (ready.addDrops sync) :=
    holdsReady.of_same rfl rfl rfl (fun _ => ⟨isOpen, rfl, rfl⟩) rfl rfl
  rcases writeAndRotate_holds reliable frames counted isOpen with
    ⟨files', next, wrote, holdsNext, all, _, dropsNext⟩
  refine ⟨files', next, ?_, holdsNext, ?_, ?_⟩
  · simp only [SbfRecorder.feed, result, Checked.ok_bind, sameSync, fed]
    exact wrote
  · rw [all, written_append, nothing, List.append_nil]
  · rw [dropsNext]
    simp only [Prod.mk.injEq] at sameDrops
    simp only [drops, SbfRecorder.addDrops, sameDrops]

end

/-! ## Drop counters -/

def counters (stats : FrameSyncStats) : Nat × Nat × Nat :=
  (stats.crcFailed, stats.lengthInvalid, stats.resyncs)

/-- The drop counters of the recorder are those of its synchronizer. -/
def Mirrors (recorder : SbfRecorder) : Prop :=
  drops recorder = (recorder.sync, counters recorder.sync.stats, counters recorder.sync.stats)

theorem addDrops_mirrors {recorder : SbfRecorder} (mirrors : Mirrors recorder)
    (buf bytes : List Byte) :
    Mirrors (recorder.addDrops
      (.settle (SbfFrameSync.count recorder.sync.stats bytes) buf)) := by
  rcases SbfFrameSync.settle_counters recorder.sync.stats bytes buf with ⟨crc, length, resyncs⟩
  simp only [Mirrors, drops, counters, Prod.mk.injEq] at mirrors ⊢
  simp only [SbfRecorder.addDrops, crc, length, resyncs]
  rcases mirrors with ⟨_, previous, current⟩
  refine ⟨trivial, ⟨trivial, trivial, trivial⟩, ?_, ?_, ?_⟩ <;> omega

/-! ## Whole runs -/

/-- Along any calls the recorder follows its synchronizer, and the files hold
what the synchronizer emits. -/
theorem run_holds {environment : Environment} (reliable : environment.Reliable)
    {config : Config} {disk : Dict String (List Byte)} (calls : List Call)
    {files : List File} {recorder : SbfRecorder} {stream : List Byte}
    (holds : Holds config disk files recorder) (tracks : Tracks stream recorder.sync)
    (mirrors : Mirrors recorder) :
    ∃ files' next frames, recorder.run environment calls = .ok next ∧
      recorder.sync.feedAll (fedChunks calls) = .ok (next.sync, frames) ∧
      Holds config disk files' next ∧ written files' = written files ++ frames ∧
      Mirrors next := by
  induction calls generalizing files recorder stream with
  | nil => exact ⟨files, recorder, [], rfl, rfl, holds, by simp, mirrors⟩
  | cons call calls induction =>
      cases call with
      | close =>
          have same : recorder.close.sync = recorder.sync ∧
              drops recorder.close = drops recorder := by
            unfold SbfRecorder.close
            split <;> exact ⟨rfl, rfl⟩
          rcases induction (close_holds holds) (same.1 ▸ tracks)
            (by rw [Mirrors, same.1, same.2]; exact mirrors) with
            ⟨files', next, frames, ran, fed, later⟩
          rw [same.1] at fed
          exact ⟨files', next, frames, ran, fed, later⟩
      | feed bytes =>
          have fed := SbfFrameSync.feed_eq tracks.consistent bytes
          rcases feed_holds reliable holds fed with
            ⟨filesFed, afterFeed, result, holdsFed, all, dropsFed⟩
          have syncFed := congrArg Prod.fst dropsFed
          change afterFeed.sync = SbfFrameSync.settle _ _ at syncFed
          have mirrorsFed : Mirrors afterFeed := by
            have added := addDrops_mirrors mirrors (recorder.sync.pending ++ bytes) bytes
            rw [Mirrors, ← dropsFed] at added
            rw [Mirrors, added, syncFed]
            rfl
          have tracksFed : Tracks (stream ++ bytes) afterFeed.sync := by
            rw [syncFed]
            exact tracks.feed bytes _
          rcases induction holdsFed tracksFed mirrorsFed with
            ⟨files', next, frames, ran, fedLater, holdsNext, allNext, mirrorsNext⟩
          refine ⟨files', next,
            framesOf (scanner.tokens (recorder.sync.pending ++ bytes)) ++ frames,
            ?_, ?_, holdsNext, ?_, mirrorsNext⟩
          · simpa [SbfRecorder.run, SbfRecorder.apply, result] using ran
          · rw [syncFed] at fedLater
            simp only [fedChunks, List.filterMap_cons] at fedLater ⊢
            simp only [SbfFrameSync.feedAll, fed, Checked.ok_bind, fedLater,
              Checked.pure_eq_ok]
          · rw [allNext, all, List.append_assoc]

theorem run_fresh {environment : Environment} (reliable : environment.Reliable)
    (config : Config) (disk : Dict String (List Byte)) (calls : List Call) :
    ∃ files recorder frames,
      (SbfRecorder.fresh config disk).run environment calls = .ok recorder ∧
      SbfFrameSync.fresh.feedAll (fedChunks calls) = .ok (recorder.sync, frames) ∧
      Holds config disk files recorder ∧ written files = frames ∧ Mirrors recorder :=
  run_holds reliable calls (Holds.fresh config disk) Tracks.fresh rfl

end AsterxDriver.Recorder
