import AsterxDriver.Parser.ReadBack
import AsterxDriver.Parser.SbfSink

/-! # What the file of an antenna holds

Every file is the projection of the calls to its antenna and to all antennas. -/

namespace AsterxDriver.Parser

open Foundation ByteString Sbf

/-! ## Frames written to open files -/

namespace SbfSink

/-- Only file contents and counters changed: each antenna gained frames. -/
structure Gained (before after : SbfSink) (gain : Nat → List (List Byte)) : Prop where
  outDir : after.outDir = before.outDir
  files : after.files = before.files
  paths : after.paths = before.paths
  commonHistory : after.commonHistory = before.commonHistory
  commonFrames : after.commonFrames = before.commonFrames
  content : ∀ ant, after.content ant = before.content ant ++ (gain ant).flatten
  frames : ∀ ant, after.frames.getD ant 0 = before.frames.getD ant 0 + (gain ant).length
  bytes : ∀ ant, after.bytes.getD ant 0 = before.bytes.getD ant 0 + (gain ant).flatten.length

theorem Gained.nothing (sink : SbfSink) : Gained sink sink fun _ => [] where
  outDir := rfl
  files := rfl
  paths := rfl
  commonHistory := rfl
  commonFrames := rfl
  content := fun _ => (List.append_nil _).symm
  frames := fun _ => rfl
  bytes := fun _ => rfl

theorem Gained.trans {before middle after : SbfSink} {first second : Nat → List (List Byte)}
    (early : Gained before middle first) (late : Gained middle after second) :
    Gained before after fun ant => first ant ++ second ant where
  outDir := late.outDir.trans early.outDir
  files := late.files.trans early.files
  paths := late.paths.trans early.paths
  commonHistory := late.commonHistory.trans early.commonHistory
  commonFrames := late.commonFrames.trans early.commonFrames
  content := fun ant => by
    rw [late.content, early.content, List.flatten_append, List.append_assoc]
  frames := fun ant => by
    rw [late.frames, early.frames, List.length_append, Nat.add_assoc]
  bytes := fun ant => by
    rw [late.bytes, early.bytes, List.flatten_append, List.length_append, Nat.add_assoc]

theorem Gained.congr {before after : SbfSink} {gain gain' : Nat → List (List Byte)}
    (gained : Gained before after gain) (same : ∀ ant, gain ant = gain' ant) :
    Gained before after gain' :=
  funext same ▸ gained

/-- A frame for an open file. -/
theorem writeOpen_ok {sink : SbfSink} {ant : Nat} (frameBytes : List Byte)
    (isOpen : sink.files.lookup ant = some (sink.pathFor ant)) :
    ∃ after, sink.writeOpen ant frameBytes = .ok after ∧
      Gained sink after fun other => if other = ant then [frameBytes] else [] := by
  refine ⟨_, by rw [writeOpen, isOpen], ?_⟩
  constructor
  · rfl
  · rfl
  · rfl
  · rfl
  · rfl
  · intro other
    change Dict.getD (Dict.modify _ _ _ _) (antennaPath sink.outDir other) [] = _
    rw [Dict.getD_modify]
    by_cases same : other = ant
    · rw [if_pos (by rw [same]; rfl), if_pos same, same, List.flatten_singleton]
      rfl
    · have apart : antennaPath sink.outDir other ≠ sink.pathFor ant :=
        fun paths => same (antennaPath_injective _ paths)
      rw [if_neg apart, if_neg same, List.flatten_nil, List.append_nil]
      rfl
  · intro other
    change Dict.getD (Dict.modify _ _ _ _) other 0 = _
    rw [Dict.getD_modify]
    by_cases same : other = ant
    · rw [if_pos same, if_pos same, same]
      rfl
    · rw [if_neg same, if_neg same]
      rfl
  · intro other
    change Dict.getD (Dict.modify _ _ _ _) other 0 = _
    rw [Dict.getD_modify]
    by_cases same : other = ant
    · rw [if_pos same, if_pos same, same, List.flatten_singleton]
    · rw [if_neg same, if_neg same]
      rfl

/-- Several frames for one open file. -/
theorem foldlM_writeOpen_ok {sink : SbfSink} {ant : Nat} (history : List (List Byte))
    (isOpen : sink.files.lookup ant = some (sink.pathFor ant)) :
    ∃ after, history.foldlM (·.writeOpen ant) sink = .ok after ∧
      Gained sink after fun other => if other = ant then history else [] := by
  induction history generalizing sink with
  | nil => exact ⟨sink, rfl, (Gained.nothing sink).congr fun other => by rw [ite_self]⟩
  | cons frameBytes later induction =>
      rcases writeOpen_ok frameBytes isOpen with ⟨middle, first, early⟩
      have stillOpen : middle.files.lookup ant = some (middle.pathFor ant) := by
        rw [early.files, isOpen, pathFor, pathFor, early.outDir]
      rcases induction stillOpen with ⟨after, rest, late⟩
      refine ⟨after, ?_, (early.trans late).congr fun other => ?_⟩
      · rw [List.foldlM_cons, first, Checked.ok_bind, rest]
      · by_cases same : other = ant <;> simp [same]

/-- One frame for several open files. -/
theorem foldlM_antennas_ok {sink : SbfSink} (frameBytes : List Byte) {ants : List Nat}
    (distinct : ants.Nodup)
    (areOpen : ∀ ant ∈ ants, sink.files.lookup ant = some (sink.pathFor ant)) :
    ∃ after, ants.foldlM (fun sink ant => sink.writeOpen ant frameBytes) sink = .ok after ∧
      Gained sink after fun other => if other ∈ ants then [frameBytes] else [] := by
  induction ants generalizing sink with
  | nil => exact ⟨sink, rfl, (Gained.nothing sink).congr fun other => by simp⟩
  | cons ant later induction =>
      rcases List.nodup_cons.mp distinct with ⟨fresh, distinct⟩
      rcases writeOpen_ok frameBytes (areOpen ant (List.mem_cons_self ..)) with
        ⟨middle, first, early⟩
      have stillOpen : ∀ other ∈ later,
          middle.files.lookup other = some (middle.pathFor other) := by
        intro other member
        rw [early.files, areOpen other (List.mem_cons_of_mem _ member), pathFor, pathFor,
          early.outDir]
      rcases induction distinct stillOpen with ⟨after, rest, late⟩
      refine ⟨after, ?_, (early.trans late).congr fun other => ?_⟩
      · rw [List.foldlM_cons, first, Checked.ok_bind, rest]
      · by_cases same : other = ant
        · simp [same, fresh]
        · simp [same]

end SbfSink

/-! ## Projections -/

/-- The frames that the calls put into the file of `ant`. -/
def projection (ant : Nat) (calls : List SinkCall) : List (List Byte) :=
  calls.filterMap fun
    | .write other frameBytes => if other = ant then some frameBytes else none
    | .writeCommon frameBytes => some frameBytes

def commonFramesOf (calls : List SinkCall) : List (List Byte) :=
  calls.filterMap fun
    | .write _ _ => none
    | .writeCommon frameBytes => some frameBytes

/-- The antennas in the order of their first frame. -/
def openOrder (calls : List SinkCall) : List Nat :=
  calls.foldl (fun order call => match call with
    | .write ant _ => if ant ∈ order then order else order ++ [ant]
    | .writeCommon _ => order) []

theorem openOrder_write (calls : List SinkCall) (ant : Nat) (frameBytes : List Byte) :
    openOrder (calls ++ [.write ant frameBytes]) =
      if ant ∈ openOrder calls then openOrder calls else openOrder calls ++ [ant] := by
  rw [openOrder, List.foldl_concat]
  rfl

theorem openOrder_writeCommon (calls : List SinkCall) (frameBytes : List Byte) :
    openOrder (calls ++ [.writeCommon frameBytes]) = openOrder calls := by
  rw [openOrder, List.foldl_concat]
  rfl

theorem nodup_openOrder (calls : List SinkCall) : (openOrder calls).Nodup := by
  induction calls using List.reverseRecOn with
  | nil => exact List.nodup_nil
  | append_singleton calls call induction =>
      cases call with
      | write ant frameBytes =>
          rw [openOrder_write]
          split
          · exact induction
          · rename_i absent
            rw [← List.concat_eq_append]
            exact induction.concat absent
      | writeCommon frameBytes =>
          rw [openOrder_writeCommon]
          exact induction

theorem mem_openOrder_iff (ant : Nat) (calls : List SinkCall) :
    ant ∈ openOrder calls ↔ ∃ frameBytes, SinkCall.write ant frameBytes ∈ calls := by
  induction calls using List.reverseRecOn with
  | nil => simp [openOrder]
  | append_singleton calls call induction =>
      cases call with
      | write other frameBytes =>
          have added : ant ∈ openOrder (calls ++ [.write other frameBytes]) ↔
              ant ∈ openOrder calls ∨ ant = other := by
            rw [openOrder_write]
            split
            · rename_i present
              constructor
              · exact .inl
              · rintro (member | rfl)
                · exact member
                · exact present
            · rw [List.mem_append, List.mem_singleton]
          rw [added, induction]
          simp only [List.mem_append, List.mem_singleton, SinkCall.write.injEq, exists_or]
          simp
      | writeCommon frameBytes =>
          rw [openOrder_writeCommon, induction]
          simp

/-- Before its first frame, an antenna has only the common frames to come. -/
theorem projection_of_not_mem {ant : Nat} {calls : List SinkCall}
    (absent : ant ∉ openOrder calls) : projection ant calls = commonFramesOf calls := by
  apply List.filterMap_congr
  intro call member
  cases call with
  | write other frameBytes =>
      have different : other ≠ ant := by
        rintro rfl
        exact absent ((mem_openOrder_iff other calls).mpr ⟨frameBytes, member⟩)
      exact if_neg different
  | writeCommon frameBytes => rfl

theorem projection_write (ant other : Nat) (calls : List SinkCall) (frameBytes : List Byte) :
    projection ant (calls ++ [.write other frameBytes]) =
      projection ant calls ++ if ant = other then [frameBytes] else [] := by
  rw [projection, List.filterMap_append, ← projection]
  by_cases same : ant = other
  · simp [same]
  · simp [same, Ne.symm same]

theorem projection_writeCommon (ant : Nat) (calls : List SinkCall) (frameBytes : List Byte) :
    projection ant (calls ++ [.writeCommon frameBytes]) =
      projection ant calls ++ [frameBytes] := by
  rw [projection, List.filterMap_append]
  rfl

/-! ## The sink mirrors its calls -/

namespace SbfSink

/-- What an antenna holds: these frames, each counted. -/
def Holds (sink : SbfSink) (ant : Nat) (held : List (List Byte)) : Prop :=
  sink.content ant = held.flatten ∧ sink.frames.getD ant 0 = held.length ∧
    sink.bytes.getD ant 0 = held.flatten.length

theorem Gained.holds {before after : SbfSink} {gain : Nat → List (List Byte)}
    (gained : Gained before after gain) {ant : Nat} {held : List (List Byte)}
    (holds : before.Holds ant held) : after.Holds ant (held ++ gain ant) := by
  rcases holds with ⟨content, frames, bytes⟩
  refine ⟨?_, ?_, ?_⟩
  · rw [gained.content, content, List.flatten_append]
  · rw [gained.frames, frames, List.length_append]
  · rw [gained.bytes, bytes, List.flatten_append, List.length_append]

/-- The open files in their order, the common frames so far and the frames in
each open file. -/
structure Shows (sink : SbfSink) (outDir : String) (order : List Nat)
    (common : List (List Byte)) (held : Nat → List (List Byte)) : Prop where
  directory : sink.outDir = outDir
  files : sink.files = order.map fun ant => (ant, antennaPath outDir ant)
  paths : ∀ ant, sink.paths.lookup ant =
    if ant ∈ order then some (antennaPath outDir ant) else none
  commonHistory : sink.commonHistory = common
  commonFrames : sink.commonFrames = common.length
  holds : ∀ ant ∈ order, sink.Holds ant (held ant)
  untouched : ∀ ant ∉ order, sink.frames.getD ant 0 = 0 ∧ sink.bytes.getD ant 0 = 0

section

variable {sink : SbfSink} {outDir : String} {order : List Nat} {common : List (List Byte)}
  {held : Nat → List (List Byte)} (shows : sink.Shows outDir order common held)

include shows

theorem Shows.lookup_files {ant : Nat} (isOpen : ant ∈ order) :
    sink.files.lookup ant = some (sink.pathFor ant) := by
  rw [shows.files, pathFor, shows.directory]
  clear shows
  induction order with
  | nil => exact absurd isOpen List.not_mem_nil
  | cons first later induction =>
      rw [List.map_cons, List.lookup_cons]
      by_cases same : ant = first
      · simp [same]
      · rw [beq_false_of_ne same]
        exact induction ((List.mem_cons.mp isOpen).resolve_left same)

theorem Shows.map_fst_files : sink.files.map Prod.fst = order := by
  rw [shows.files, List.map_map]
  exact List.map_id _

theorem Shows.congr {held' : Nat → List (List Byte)}
    (same : ∀ ant ∈ order, held ant = held' ant) : sink.Shows outDir order common held' :=
  { shows with holds := fun ant member => same ant member ▸ shows.holds ant member }

theorem Shows.gained {after : SbfSink} {gain : Nat → List (List Byte)}
    (gained : Gained sink after gain) (onlyOpen : ∀ ant ∉ order, gain ant = []) :
    after.Shows outDir order common fun ant => held ant ++ gain ant where
  directory := gained.outDir.trans shows.directory
  files := gained.files.trans shows.files
  paths := fun ant => by rw [gained.paths, shows.paths]
  commonHistory := gained.commonHistory.trans shows.commonHistory
  commonFrames := gained.commonFrames.trans shows.commonFrames
  holds := fun ant member => gained.holds (shows.holds ant member)
  untouched := fun ant absent => by
    rw [gained.frames, gained.bytes, onlyOpen ant absent]
    exact shows.untouched ant absent

/-- A new file is empty. -/
theorem Shows.openFile {ant : Nat} (absent : ant ∉ order) :
    (sink.openFile ant).Shows outDir (order ++ [ant]) common
      fun other => if other = ant then [] else held other where
  directory := shows.directory
  files := by
    rw [SbfSink.openFile, shows.files, List.map_append, pathFor, shows.directory]
    rfl
  paths := fun other => by
    change AList.lookup other (AList.insert ant (sink.pathFor ant) sink.paths) = _
    by_cases same : other = ant
    · rw [same, AList.lookup_insert, if_pos (by simp), pathFor, shows.directory]
    · rw [AList.lookup_insert_ne same, shows.paths]
      simp [same]
  commonHistory := shows.commonHistory
  commonFrames := shows.commonFrames
  holds := fun other member => by
    change Dict.getD (AList.insert (sink.pathFor ant) [] sink.disk) (sink.pathFor other) [] = _ ∧
      sink.frames.getD other 0 = _ ∧ sink.bytes.getD other 0 = _
    by_cases same : other = ant
    · rw [same, Dict.getD_insert_self, if_pos rfl]
      exact ⟨rfl, shows.untouched ant absent⟩
    · have apart : sink.pathFor other ≠ sink.pathFor ant :=
        fun paths => same (antennaPath_injective _ paths)
      have opened : other ∈ order := (List.mem_append.mp member).resolve_right (by simpa using same)
      rw [Dict.getD_insert_of_ne _ _ _ apart, if_neg same]
      exact shows.holds other opened
  untouched := fun other absent' => shows.untouched other fun member =>
    absent' (List.mem_append_left _ member)

end

theorem gain_of_not_mem {order : List Nat} {ant : Nat} (isOpen : ant ∈ order)
    (gain : List (List Byte)) :
    ∀ other ∉ order, (if other = ant then gain else []) = [] := by
  intro other absent
  apply if_neg
  rintro rfl
  exact absent isOpen

/-- The sink after these calls. -/
def Mirrors (sink : SbfSink) (outDir : String) (calls : List SinkCall) : Prop :=
  sink.Shows outDir (openOrder calls) (commonFramesOf calls) (projection · calls)

theorem Mirrors.fresh (outDir : String) (disk : Dict String (List Byte)) :
    (fresh outDir disk).Mirrors outDir [] where
  directory := rfl
  files := rfl
  paths := fun _ => rfl
  commonHistory := rfl
  commonFrames := rfl
  holds := fun _ member => absurd member List.not_mem_nil
  untouched := fun _ _ => ⟨rfl, rfl⟩

section

variable {sink : SbfSink} {outDir : String} {calls : List SinkCall}
  (mirrors : sink.Mirrors outDir calls)

include mirrors

/-- A frame for an antenna whose file is open. -/
theorem Mirrors.write_open {ant : Nat} (isOpen : ant ∈ openOrder calls)
    (frameBytes : List Byte) :
    ∃ after, sink.write ant frameBytes = .ok after ∧
      after.Mirrors outDir (calls ++ [.write ant frameBytes]) := by
  rcases writeOpen_ok frameBytes (Shows.lookup_files mirrors isOpen) with ⟨after, written, gained⟩
  refine ⟨after, ?_, ?_⟩
  · rw [write, Shows.map_fst_files mirrors, if_neg (not_not.mpr isOpen), written]
  · have shows := Shows.gained mirrors gained (gain_of_not_mem isOpen _)
    unfold Mirrors
    rw [openOrder_write, if_pos isOpen, commonFramesOf, List.filterMap_append, ← commonFramesOf]
    refine Shows.congr ?_ fun other _ => (projection_write other ant calls frameBytes).symm
    simpa using shows

/-- The first frame of an antenna comes after all common frames so far. -/
theorem Mirrors.write_first {ant : Nat} (absent : ant ∉ openOrder calls)
    (frameBytes : List Byte) :
    ∃ after, sink.write ant frameBytes = .ok after ∧
      after.Mirrors outDir (calls ++ [.write ant frameBytes]) := by
  have opened := Shows.openFile mirrors absent
  have isOpen : ant ∈ openOrder calls ++ [ant] := by simp
  rcases foldlM_writeOpen_ok sink.commonHistory (opened.lookup_files isOpen) with
    ⟨replayed, history, early⟩
  have middle := opened.gained early (gain_of_not_mem isOpen _)
  rcases writeOpen_ok frameBytes (middle.lookup_files isOpen) with ⟨after, written, late⟩
  have last := middle.gained late (gain_of_not_mem isOpen _)
  refine ⟨after, ?_, ?_⟩
  · rw [write, Shows.map_fst_files mirrors, if_pos absent, history, Checked.ok_bind, written]
  · unfold Mirrors
    rw [openOrder_write, if_neg absent, commonFramesOf, List.filterMap_append, ← commonFramesOf,
      List.filterMap_cons_none rfl, List.filterMap_nil, List.append_nil]
    refine last.congr fun other _ => ?_
    rw [projection_write, Shows.commonHistory mirrors]
    by_cases same : other = ant
    · simp [same, projection_of_not_mem absent]
    · simp [same]

/-- A frame for all antennas. -/
theorem Mirrors.writeCommon (frameBytes : List Byte) :
    ∃ after, sink.writeCommon frameBytes = .ok after ∧
      after.Mirrors outDir (calls ++ [.writeCommon frameBytes]) := by
  have recorded : Shows { sink with
      commonHistory := sink.commonHistory ++ [frameBytes]
      commonFrames := sink.commonFrames + 1 } outDir (openOrder calls)
      (commonFramesOf calls ++ [frameBytes]) (projection · calls) :=
    { mirrors with
      commonHistory := by rw [Shows.commonHistory mirrors]
      commonFrames := by rw [Shows.commonFrames mirrors, List.length_append]; rfl }
  rcases foldlM_antennas_ok frameBytes (nodup_openOrder calls) fun ant member =>
      recorded.lookup_files member with ⟨after, written, gained⟩
  refine ⟨after, ?_, ?_⟩
  · rw [SbfSink.writeCommon, Shows.map_fst_files mirrors, written]
  · have shows := recorded.gained gained fun other absent => if_neg absent
    unfold Mirrors
    rw [openOrder_writeCommon, commonFramesOf, List.filterMap_append, ← commonFramesOf]
    refine shows.congr fun other member => ?_
    rw [projection_writeCommon, if_pos member]

theorem Mirrors.call (call : SinkCall) :
    ∃ after, sink.call call = .ok after ∧ after.Mirrors outDir (calls ++ [call]) := by
  cases call with
  | write ant frameBytes =>
      by_cases isOpen : ant ∈ openOrder calls
      · exact mirrors.write_open isOpen frameBytes
      · exact mirrors.write_first isOpen frameBytes
  | writeCommon frameBytes => exact mirrors.writeCommon frameBytes

theorem Mirrors.run (later : List SinkCall) :
    ∃ after, sink.run later = .ok after ∧ after.Mirrors outDir (calls ++ later) := by
  induction later generalizing sink calls with
  | nil => exact ⟨sink, rfl, by rwa [List.append_nil]⟩
  | cons call later induction =>
      rcases mirrors.call call with ⟨middle, first, middleMirrors⟩
      rcases induction middleMirrors with ⟨after, rest, afterMirrors⟩
      refine ⟨after, ?_, ?_⟩
      · rw [SbfSink.run, List.foldlM_cons, first, Checked.ok_bind]
        exact rest
      · rwa [List.append_assoc] at afterMirrors

end

end SbfSink

theorem SbfSink.run_fresh (outDir : String) (disk : Dict String (List Byte))
    (calls : List SinkCall) :
    ∃ sink, (fresh outDir disk).run calls = .ok sink ∧ sink.Mirrors outDir calls :=
  (Mirrors.fresh outDir disk).run calls

/-! ## The files -/

theorem exists_call_of_mem_projection {ant : Nat} {calls : List SinkCall}
    {frameBytes : List Byte} (member : frameBytes ∈ projection ant calls) :
    ∃ call ∈ calls, call.frameBytes = frameBytes := by
  rcases List.mem_filterMap.mp member with ⟨call, found, projected⟩
  refine ⟨call, found, ?_⟩
  cases call with
  | write other written =>
      dsimp only at projected
      split at projected
      · exact Option.some.inj projected
      · cases projected
  | writeCommon written => exact Option.some.inj projected

/-- Rebuilt frames one after another are the bytes of intact frames. -/
theorem exists_intact_frames {pieces : List (List Byte)}
    (rebuilt : ∀ piece ∈ pieces, ∃ rawId body, rebuildSbfFrame rawId body = .ok piece) :
    ∃ frames : List Frame, (∀ frame ∈ frames, Intact frame) ∧
      frames.map wireBytes = pieces := by
  induction pieces with
  | nil => exact ⟨[], by simp, rfl⟩
  | cons piece later induction =>
      rcases List.forall_mem_cons.mp rebuilt with ⟨⟨rawId, body, first⟩, rest⟩
      rcases intact_of_rebuildSbfFrame first with ⟨bound, small, rfl⟩
      rcases induction rest with ⟨frames, intact, rfl⟩
      refine ⟨rebuiltFrame rawId body :: frames, ?_, rfl⟩
      exact List.forall_mem_cons.mpr ⟨rebuiltFrame_intact bound small, intact⟩

/-- Whatever the order of the calls, the file of an antenna holds its own and the
common frames in call order, and the counters count them. -/
theorem antenna_files_are_projections (outDir : String) (disk : Dict String (List Byte))
    (calls : List SinkCall) :
    ∃ sink, (SbfSink.fresh outDir disk).run calls = .ok sink ∧
      ∀ ant, (∃ frameBytes, SinkCall.write ant frameBytes ∈ calls) →
        sink.paths.lookup ant = some (sink.pathFor ant) ∧
        sink.content ant = (projection ant calls).flatten ∧
        sink.frames.getD ant 0 = (projection ant calls).length ∧
        sink.bytes.getD ant 0 = (projection ant calls).flatten.length ∧
        ((∀ call ∈ calls, ∃ rawId body, rebuildSbfFrame rawId body = .ok call.frameBytes) →
          verifySbfBytes (sink.content ant) = (sink.frames.getD ant 0, 0)) := by
  rcases SbfSink.run_fresh outDir disk calls with ⟨sink, result, mirrors⟩
  refine ⟨sink, result, fun ant written => ?_⟩
  have isOpen : ant ∈ openOrder calls := (mem_openOrder_iff ant calls).mpr written
  rcases mirrors.holds ant isOpen with ⟨content, frames, bytes⟩
  refine ⟨?_, content, frames, bytes, fun rebuilt => ?_⟩
  · rw [mirrors.paths, SbfSink.pathFor, mirrors.directory]
    exact if_pos isOpen
  · have pieces : ∀ piece ∈ projection ant calls,
        ∃ rawId body, rebuildSbfFrame rawId body = .ok piece := by
      intro piece member
      rcases exists_call_of_mem_projection member with ⟨call, found, rfl⟩
      exact rebuilt call found
    rcases exists_intact_frames pieces with ⟨wires, intact, same⟩
    rw [content, frames]
    change verifySbfBytes (projection ant calls).flatten = ((projection ant calls).length, 0)
    rw [← same, ← List.flatMap_def, verifySbfBytes_wireBytes intact, List.length_map]

/-- Two antennas, with common frames before and after the files are opened. -/
def twoAntennas : List SinkCall :=
  [.writeCommon (wireBytes (rebuiltFrame 5891 [1, 2, 3])),
    .write 1 (wireBytes (rebuiltFrame 4027 [4])),
    .writeCommon (wireBytes (rebuiltFrame 5892 [])),
    .write 0 (wireBytes (rebuiltFrame 4027 [5]))]

theorem twoAntennas_verified :
    ∃ sink, (SbfSink.fresh "out" ∅).run twoAntennas = .ok sink ∧
      verifySbfBytes (sink.content 0) = (3, 0) ∧ verifySbfBytes (sink.content 1) = (3, 0) := by
  rcases antenna_files_are_projections "out" ∅ twoAntennas with ⟨sink, result, files⟩
  have rebuilt : ∀ call ∈ twoAntennas,
      ∃ rawId body, rebuildSbfFrame rawId body = .ok call.frameBytes := by
    intro call member
    simp only [twoAntennas, List.mem_cons, List.not_mem_nil, or_false] at member
    rcases member with rfl | rfl | rfl | rfl <;>
      exact ⟨_, _, rebuildSbfFrame_ok (by norm_num) (by norm_num)⟩
  rcases files 0 ⟨_, by simp [twoAntennas]; rfl⟩ with ⟨_, _, frames0, _, verified0⟩
  rcases files 1 ⟨_, by simp [twoAntennas]; rfl⟩ with ⟨_, _, frames1, _, verified1⟩
  refine ⟨sink, result, ?_, ?_⟩
  · rw [verified0 rebuilt, frames0]
    rfl
  · rw [verified1 rebuilt, frames1]
    rfl

end AsterxDriver.Parser
