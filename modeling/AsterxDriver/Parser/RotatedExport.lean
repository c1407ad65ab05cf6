import AsterxDriver.Parser.Reexport
import AsterxDriver.Parser.Relocation

/-! # Recordings in several files

A recording that the driver has split into files, exported file by file or in one
piece. An epoch that is open at the end of a file is forgotten there. -/

namespace AsterxDriver.Parser

open Foundation ByteString Sbf FloatArithmetic RoundedArithmetic

/-! ## Calls as a function of the frames -/

section

variable (F : Type) [RoundedArithmetic F]

def epochPiece (rawId : Nat) (rows : List (Row F)) : List Byte :=
  (buildMeasEpochBody rows >>= rebuildSbfFrame rawId).toOption.getD []

/-- What is pending after a frame, and the calls for it. -/
def emission (pending : Pending) (frame : SbfFrame) : Pending × List SinkCall :=
  if frame.blockId = 4027 then
    match decodeMeasEpoch (F := F) frame with
    | .ok rows => (pendingAfter rows, (rowsByAntenna rows).sortedKeys.map fun ant =>
        .write ant (epochPiece F frame.rawId ((rowsByAntenna rows).getD ant [])))
    | .error _ => (pending, [])
  else if frame.blockId = 4000 then
    if pending.extraIndices.keys ≠ [] ∧ blockTime frame.body = pending.epochTime then
      (pending, extraCalls frame pending.extraIndices)
    else (pending, [])
  else if frame.blockId = 5922 then
    (⟨∅, [], none⟩, pending.epochAntennas.map fun ant =>
      .write ant (wireBytes (rebuiltFrame frame.rawId frame.body)))
  else if frame.blockId ∈ gnssCommonBlockIds then
    (pending, [.writeCommon (wireBytes (rebuiltFrame frame.rawId frame.body))])
  else (pending, [])

/-- The same for all frames of a recording. -/
def emissions (pending : Pending) : List SbfFrame → Pending × List SinkCall
  | [] => (pending, [])
  | frame :: later =>
      let first := emission F pending frame
      let rest := emissions first.1 later
      (rest.1, first.2 ++ rest.2)

end

section

variable {F : Type} [RoundedArithmetic F] {pending after : Pending} {frame : SbfFrame}
  {calls : List SinkCall}

theorem Emits.eq_emission (emits : Emits F pending frame after calls) :
    emission F pending frame = (after, calls) := by
  unfold emission
  cases emits with
  | epoch isEpoch decoded coherent splittable written =>
      rcases written with ⟨piece, pieces, rfl⟩
      rw [if_pos isEpoch, decoded]
      refine congrArg (Prod.mk _) (List.map_congr_left fun ant member => ?_)
      rcases pieces ant (Dict.mem_sortedKeys.mp member) with ⟨body, built, rebuilt⟩
      rw [epochPiece, built, Checked.ok_bind, rebuilt]
      rfl
  | extra isExtra waiting sameTime distinct =>
      rw [if_neg (by omega), if_pos isExtra, if_pos ⟨waiting, sameTime⟩]
  | ended isEnd => rw [if_neg (by omega), if_neg (by omega), if_pos isEnd]
  | common isCommon =>
      have notEpoch : frame.blockId ≠ 4027 := fun id => not_common (.inl id) isCommon
      have notExtra : frame.blockId ≠ 4000 := fun id => not_common (.inr (.inl id)) isCommon
      have notEnd : frame.blockId ≠ 5922 := fun id => not_common (.inr (.inr id)) isCommon
      rw [if_neg notEpoch, if_neg notExtra, if_neg notEnd, if_pos isCommon]
  | nothing unused notEpoch notEnd notCommon =>
      rw [if_neg notEpoch]
      split
      · rename_i isExtra
        rw [if_neg (unused isExtra)]
      · rfl

theorem emissions_append (pending : Pending) (first second : List SbfFrame) :
    emissions F pending (first ++ second) =
      ((emissions F (emissions F pending first).1 second).1,
        (emissions F pending first).2 ++
          (emissions F (emissions F pending first).1 second).2) := by
  induction first generalizing pending with
  | nil => rfl
  | cons frame later induction =>
      rw [List.cons_append, emissions, emissions, induction, List.append_assoc]

/-- A loop that came to its end has made these calls. -/
theorem reached_emissions {outDir : String} {before frames : List SbfFrame}
    {calls : List SinkCall} {state final : ExportState}
    (reached : Reached outDir before calls state)
    (rebuildable : ∀ frame ∈ frames, frame.Rebuildable)
    (result : exportFrames F state frames = .ok final) :
    Reached outDir (before ++ frames) (calls ++ (emissions F state.pending frames).2) final := by
  induction frames generalizing before calls state with
  | nil =>
      cases result
      rwa [emissions, List.append_nil, List.append_nil]
  | cons frame later induction =>
      rcases List.forall_mem_cons.mp rebuildable with ⟨first, rest⟩
      rw [exportFrames, List.foldlM_cons] at result
      rcases Checked.bind_eq_ok.mp result with ⟨middle, exported, laterExported⟩
      rcases emits_of_exportFrame reached first exported with ⟨newCalls, following, emits⟩
      have all := induction following rest laterExported
      rw [List.append_assoc, List.append_assoc] at all
      rw [emissions, emits.eq_emission]
      exact all

/-! ## The place of a frame -/

theorem emission_movedTo (pending : Pending) (frame : SbfFrame) (offset : Nat) :
    emission F pending (frame.movedTo offset) = emission F pending frame := by
  have same : (frame.movedTo offset).blockId = frame.blockId := rfl
  unfold emission
  rw [same, decodeMeasEpoch_movedTo]
  split
  · cases decodeMeasEpoch (F := F) frame with
    | error fault => rfl
    | ok rows =>
        have keys := (rowsByAntenna_movedTo offset rows).1
        have after : pendingAfter (rows.map (Row.movedTo offset)) = pendingAfter rows := by
          rw [pendingAfter, extraIndices_movedTo, keys, List.head?_map, Option.map_map]
          rfl
        change (pendingAfter (rows.map (Row.movedTo offset)), _) = (pendingAfter rows, _)
        rw [after, keys]
        simp only [epochPiece, (rowsByAntenna_movedTo offset rows).2, buildMeasEpochBody_movedTo]
        rfl
  · rfl

theorem emissions_movedTo (pending : Pending) (frames : List SbfFrame) :
    emissions F pending (frames.map (·.movedTo 0)) = emissions F pending frames := by
  induction frames generalizing pending with
  | nil => rfl
  | cons frame later induction =>
      rw [List.map_cons, emissions, emissions, emission_movedTo, induction]

theorem splits_movedTo (frame : SbfFrame) (offset : Nat) (splits : frame.Splits F) :
    (frame.movedTo offset).Splits F := by
  intro rows decoded ant
  rw [decodeMeasEpoch_movedTo] at decoded
  cases original : decodeMeasEpoch (F := F) frame with
  | error fault =>
      rw [original] at decoded
      cases decoded
  | ok others =>
      rw [original] at decoded
      cases decoded
      rw [(rowsByAntenna_movedTo offset others).2, List.length_map]
      exact splits others original ant

/-! ## Borders between epochs -/

/-- No frame in front of the first epoch refers to an epoch. -/
def StartsFresh (frames : List SbfFrame) : Prop :=
  ∀ frame ∈ frames.takeWhile (·.blockId ≠ 4027), frame.blockId ≠ 4000 ∧ frame.blockId ≠ 5922

theorem emission_pending (frame : SbfFrame) (pending : Pending) (notEpoch : frame.blockId ≠ 4027) :
    (emission F pending frame).1 = if frame.blockId = 5922 then ⟨∅, [], none⟩ else pending := by
  unfold emission
  rw [if_neg notEpoch]
  by_cases isEnd : frame.blockId = 5922
  · rw [if_neg (by omega), if_pos isEnd, if_pos isEnd]
  · rw [if_neg isEnd, if_neg isEnd]
    split
    · split <;> rfl
    · split <;> rfl

theorem emission_epoch (frame : SbfFrame) (isEpoch : frame.blockId = 4027)
    (pending other : Pending) : emission F pending frame = emission F other frame := by
  rcases decodeMeasEpoch_spec (F := F) frame with ⟨rows, decoded, _⟩
  rw [emission, emission, if_pos isEpoch, if_pos isEpoch, decoded]

/-- Nothing is pending when no epoch is open. -/
theorem pending_of_openEpoch_eq_none {frames : List SbfFrame}
    (isClosed : openEpoch frames = none) :
    (emissions F ⟨∅, [], none⟩ frames).1 = ⟨∅, [], none⟩ := by
  induction frames using List.reverseRecOn with
  | nil => rfl
  | append_singleton frames frame induction =>
      rw [openEpoch_concat] at isClosed
      have notEpoch : frame.blockId ≠ 4027 := by
        intro isEpoch
        rw [if_pos isEpoch] at isClosed
        cases isClosed
      rw [if_neg notEpoch] at isClosed
      rw [emissions_append]
      change (emission F (emissions F ⟨∅, [], none⟩ frames).1 frame).1 = _
      rw [emission_pending frame _ notEpoch]
      split
      · rfl
      · rename_i notEnd
        rw [if_neg notEnd] at isClosed
        exact induction isClosed

/-- What is pending does not matter to such frames. -/
theorem emissions_of_startsFresh {frames : List SbfFrame} (fresh : StartsFresh frames)
    (pending other : Pending) :
    (emissions F pending frames).2 = (emissions F other frames).2 := by
  induction frames generalizing pending other with
  | nil => rfl
  | cons frame later induction =>
      by_cases isEpoch : frame.blockId = 4027
      · rw [emissions, emissions, emission_epoch frame isEpoch pending other]
      · unfold StartsFresh at fresh
        rw [List.takeWhile_cons_of_pos (by simpa using isEpoch)] at fresh
        rcases List.forall_mem_cons.mp fresh with ⟨⟨notExtra, notEnd⟩, rest⟩
        have calls : (emission F pending frame).2 = (emission F other frame).2 := by
          rw [emission, emission, if_neg isEpoch, if_neg isEpoch, if_neg notExtra,
            if_neg notExtra, if_neg notEnd, if_neg notEnd]
          split <;> rfl
        rw [emissions, emissions, calls]
        exact congrArg ((emission F other frame).2 ++ ·) (induction rest _ _)

/-- The bytes of the frames that every antenna gets. -/
def commonBytes (frames : List SbfFrame) : List (List Byte) :=
  (frames.filter (·.blockId ∈ gnssCommonBlockIds)).map fun frame =>
    wireBytes (rebuiltFrame frame.rawId frame.body)

theorem commonFramesOf_writes (ants : List Nat) (bytes : Nat → List Byte) :
    commonFramesOf (ants.map fun ant => .write ant (bytes ant)) = [] := by
  rw [commonFramesOf, List.filterMap_map, List.filterMap_eq_nil_iff]
  exact fun _ _ => rfl

theorem commonFramesOf_emission (pending : Pending) (frame : SbfFrame) :
    commonFramesOf (emission F pending frame).2 = commonBytes [frame] := by
  unfold commonBytes
  rw [List.filter_singleton]
  by_cases common : frame.blockId ∈ gnssCommonBlockIds
  · have notEpoch : frame.blockId ≠ 4027 := fun id => not_common (.inl id) common
    have notExtra : frame.blockId ≠ 4000 := fun id => not_common (.inr (.inl id)) common
    have notEnd : frame.blockId ≠ 5922 := fun id => not_common (.inr (.inr id)) common
    rw [emission, if_neg notEpoch, if_neg notExtra, if_neg notEnd, if_pos common,
      decide_eq_true common]
    rfl
  · rw [decide_eq_false common, cond_false, List.map_nil, emission]
    split
    · split
      · exact commonFramesOf_writes _ _
      · rfl
    split
    · split
      · exact commonFramesOf_writes _ _
      · rfl
    split
    · exact commonFramesOf_writes _ _
    · rfl

/-- The common frames among the calls are those of the recording. -/
theorem commonFramesOf_emissions (pending : Pending) (frames : List SbfFrame) :
    commonFramesOf (emissions F pending frames).2 = commonBytes frames := by
  induction frames generalizing pending with
  | nil => rfl
  | cons frame later induction =>
      have both : commonBytes (frame :: later) = commonBytes [frame] ++ commonBytes later := by
        unfold commonBytes
        rw [← List.map_append, ← List.filter_append]
        rfl
      rw [both, ← commonFramesOf_emission (F := F) pending,
        ← induction (emission F pending frame).1]
      exact List.filterMap_append

/-! ## Two files -/

/-- The calls of a whole export. -/
def callsOf (F : Type) [RoundedArithmetic F] (frames : List SbfFrame) : List SinkCall :=
  (emissions F ⟨∅, [], none⟩ frames).2

theorem file_of_completed {data : List Byte} {outDir : String} {disk : Dict String (List Byte)}
    {summary : ExportSummary} (completed : exportRecording F data outDir disk = .ok summary)
    (ant : Nat) :
    summary.file ant = if ant ∈ openOrder (callsOf F (iterFrames data)) then
      some (projection ant (callsOf F (iterFrames data))).flatten else none := by
  rcases Checked.bind_eq_ok.mp completed with ⟨state, exported, returned⟩
  cases returned
  have reached := reached_emissions
    (.fresh outDir (cleanupGeneratedGnssOutputs outDir disk))
    (fun frame member => rebuildable_of_mem_iterFrames member) exported
  exact file_of_mirrors reached.mirrors ant

/-- What stands for the file of an antenna: without a file, the common frames. -/
theorem getD_file_of_completed {data : List Byte} {outDir : String}
    {disk : Dict String (List Byte)} {summary : ExportSummary}
    (completed : exportRecording F data outDir disk = .ok summary) (ant : Nat) :
    (summary.file ant).getD (commonBytes (iterFrames data)).flatten =
      (projection ant (callsOf F (iterFrames data))).flatten := by
  rw [file_of_completed completed]
  split
  · rfl
  · rename_i absent
    rw [projection_of_not_mem absent, callsOf, commonFramesOf_emissions]
    rfl

theorem callsOf_append {first second : List SbfFrame}
    (border : openEpoch first = none ∨ StartsFresh second) :
    callsOf F (first ++ second) = callsOf F first ++ callsOf F second := by
  rw [callsOf, emissions_append]
  refine congrArg (callsOf F first ++ ·) ?_
  rcases border with isClosed | fresh
  · rw [pending_of_openEpoch_eq_none isClosed]
    rfl
  · exact emissions_of_startsFresh fresh _ _

theorem mem_openOrder_append (ant : Nat) (first second : List SinkCall) :
    ant ∈ openOrder (first ++ second) ↔ ant ∈ openOrder first ∨ ant ∈ openOrder second := by
  rw [mem_openOrder_iff, mem_openOrder_iff, mem_openOrder_iff]
  simp only [List.mem_append, exists_or]

/-- An input whose frames are among those of an exported one can be exported. -/
theorem completes_of_frames {data other : List Byte} {outDir : String}
    {disk : Dict String (List Byte)} {summary : ExportSummary}
    (completed : exportRecording F data outDir disk = .ok summary)
    (among : ∀ frame ∈ iterFrames other, ∃ found ∈ iterFrames data, ∃ offset,
      frame = found.movedTo offset) (otherDir : String) (otherDisk : Dict String (List Byte)) :
    ∃ another, exportRecording F other otherDir otherDisk = .ok another := by
  rcases exportRecording_cases (F := F) other otherDir otherDisk with
    ⟨_, completes⟩ | ⟨⟨frame, member, isEpoch, crowded⟩, _⟩
  · exact completes
  · rcases exportRecording_cases (F := F) data outDir disk with ⟨splits, _⟩ | ⟨_, _, _, failed⟩
    · rcases among frame member with ⟨found, inside, offset, rfl⟩
      exact absurd (splits_movedTo found offset (splits found inside isEpoch)) crowded
    · rw [completed] at failed
      cases failed

end

/-- The frames of a file, without their places. -/
theorem iterFrames_movedTo_wireBytes {frames : List Frame}
    (intact : ∀ frame ∈ frames, Intact frame) :
    (iterFrames (frames.flatMap wireBytes)).map (·.movedTo 0) = frames.map (ofDriver 0) := by
  rw [iterFrames_wireBytes intact, List.map_map]
  conv_rhs => rw [← map_snd_contiguous 0 frames, List.map_map]
  rfl

theorem exists_of_mem_iterFrames {frames : List Frame} (intact : ∀ frame ∈ frames, Intact frame)
    {frame : SbfFrame} (member : frame ∈ iterFrames (frames.flatMap wireBytes)) :
    ∃ original ∈ frames, frame = (ofDriver 0 original).movedTo frame.offset := by
  have forgotten := List.mem_map_of_mem (f := (·.movedTo 0)) member
  rw [iterFrames_movedTo_wireBytes intact] at forgotten
  rcases List.mem_map.mp forgotten with ⟨original, inside, same⟩
  refine ⟨original, inside, ?_⟩
  rw [same]
  rfl

section

variable {F : Type} [RoundedArithmetic F]

theorem callsOf_wireBytes {frames : List Frame} (intact : ∀ frame ∈ frames, Intact frame) :
    callsOf F (iterFrames (frames.flatMap wireBytes)) = callsOf F (frames.map (ofDriver 0)) := by
  rw [callsOf, ← emissions_movedTo, iterFrames_movedTo_wireBytes intact]
  rfl

theorem commonBytes_wireBytes {frames : List Frame} (intact : ∀ frame ∈ frames, Intact frame) :
    commonBytes (iterFrames (frames.flatMap wireBytes)) =
      commonBytes (frames.map (ofDriver 0)) := by
  rw [← iterFrames_movedTo_wireBytes intact, commonBytes, commonBytes, List.filter_map,
    List.map_map]
  rfl

/-- A recording in two files, with the border between two epochs: every antenna has in the
export of the whole what the exports of the files have for it, one behind the other. An
antenna that one of them does not have gets the common frames from there. -/
theorem rotated_export_joins (first second : List Frame)
    (intact : ∀ frame ∈ first ++ second, Intact frame)
    (border : openEpoch (first.map (ofDriver 0)) = none ∨
      StartsFresh (second.map (ofDriver 0)))
    (outDir : String) (disk : Dict String (List Byte)) (summary : ExportSummary)
    (completed : exportRecording F ((first ++ second).flatMap wireBytes) outDir disk =
      .ok summary)
    (firstDir secondDir : String) (firstDisk secondDisk : Dict String (List Byte)) :
    ∃ one two,
      exportRecording F (first.flatMap wireBytes) firstDir firstDisk = .ok one ∧
      exportRecording F (second.flatMap wireBytes) secondDir secondDisk = .ok two ∧
      ∀ ant, summary.file ant =
        if one.file ant = none ∧ two.file ant = none then none
        else some ((one.file ant).getD (commonBytes (first.map (ofDriver 0))).flatten ++
          (two.file ant).getD (commonBytes (second.map (ofDriver 0))).flatten) := by
  rcases List.forall_mem_append.mp intact with ⟨firstIntact, secondIntact⟩
  have among : ∀ frames : List Frame, (∀ frame ∈ frames, Intact frame) →
      (∀ frame ∈ frames, frame ∈ first ++ second) →
      ∀ frame ∈ iterFrames (frames.flatMap wireBytes),
        ∃ found ∈ iterFrames ((first ++ second).flatMap wireBytes), ∃ offset,
          frame = found.movedTo offset := by
    intro frames framesIntact inside frame member
    rcases exists_of_mem_iterFrames framesIntact member with ⟨original, isFrame, same⟩
    have present : ofDriver 0 original ∈
        (iterFrames ((first ++ second).flatMap wireBytes)).map (·.movedTo 0) := by
      rw [iterFrames_movedTo_wireBytes intact]
      exact List.mem_map_of_mem (inside original isFrame)
    rcases List.mem_map.mp present with ⟨found, isFound, moved⟩
    refine ⟨found, isFound, frame.offset, same.trans ?_⟩
    rw [← moved]
    rfl
  rcases completes_of_frames completed (among first firstIntact fun frame member =>
    List.mem_append_left _ member) firstDir firstDisk with ⟨one, oneCompleted⟩
  rcases completes_of_frames completed (among second secondIntact fun frame member =>
    List.mem_append_right _ member) secondDir secondDisk with ⟨two, twoCompleted⟩
  refine ⟨one, two, oneCompleted, twoCompleted, fun ant => ?_⟩
  have oneFile := file_of_completed oneCompleted ant
  have twoFile := file_of_completed twoCompleted ant
  have oneBytes := getD_file_of_completed oneCompleted ant
  have twoBytes := getD_file_of_completed twoCompleted ant
  rw [callsOf_wireBytes firstIntact] at oneFile oneBytes
  rw [callsOf_wireBytes secondIntact] at twoFile twoBytes
  rw [commonBytes_wireBytes firstIntact] at oneBytes
  rw [commonBytes_wireBytes secondIntact] at twoBytes
  rw [file_of_completed completed, callsOf_wireBytes intact, List.map_append,
    callsOf_append border, oneBytes, twoBytes]
  have projected : projection ant (callsOf F (first.map (ofDriver 0)) ++
      callsOf F (second.map (ofDriver 0))) =
      projection ant (callsOf F (first.map (ofDriver 0))) ++
        projection ant (callsOf F (second.map (ofDriver 0))) := List.filterMap_append
  have absent : one.file ant = none ∧ two.file ant = none ↔
      ant ∉ openOrder (callsOf F (first.map (ofDriver 0)) ++
        callsOf F (second.map (ofDriver 0))) := by
    rw [mem_openOrder_append, not_or, oneFile, twoFile]
    simp
  rw [projected, List.flatten_append]
  by_cases isOpen : ant ∈ openOrder (callsOf F (first.map (ofDriver 0)) ++
      callsOf F (second.map (ofDriver 0)))
  · rw [if_pos isOpen, if_neg (fun none => absent.mp none isOpen)]
  · rw [if_neg isOpen, if_pos (absent.mpr isOpen)]

end

/-- An epoch with its end. -/
def wholeEpoch : List Frame :=
  [rebuiltFrame 4027 gpsTwoSignals.body, rebuiltFrame 5922 [0xE8, 0x03, 0, 0, 0xFC, 0x08]]

/-- An epoch that is still open. -/
def unfinishedEpoch : List Frame :=
  [rebuiltFrame 4027 gpsTwoSignals.body, rebuiltFrame 4000 oneExtra.body]

theorem wholeEpoch_joins :
    ∃ summary one two,
      exportRecording ℚ ((wholeEpoch ++ unfinishedEpoch).flatMap wireBytes) "out" ∅ = .ok summary ∧
      exportRecording ℚ (wholeEpoch.flatMap wireBytes) "first" ∅ = .ok one ∧
      exportRecording ℚ (unfinishedEpoch.flatMap wireBytes) "second" ∅ = .ok two ∧
      summary.file 0 =
        if one.file 0 = none ∧ two.file 0 = none then none
        else some ((one.file 0).getD (commonBytes (wholeEpoch.map (ofDriver 0))).flatten ++
          (two.file 0).getD (commonBytes (unfinishedEpoch.map (ofDriver 0))).flatten) := by
  have intact : ∀ frame ∈ wholeEpoch ++ unfinishedEpoch, Intact frame := by
    simp only [wholeEpoch, unfinishedEpoch, List.cons_append, List.nil_append, List.forall_mem_cons,
      List.not_mem_nil, false_implies, implies_true, and_true]
    exact ⟨rebuiltFrame_intact (by norm_num) (by decide),
      rebuiltFrame_intact (by norm_num) (by decide),
      rebuiltFrame_intact (by norm_num) (by decide),
      rebuiltFrame_intact (by norm_num) (by decide)⟩
  have isClosed : openEpoch (wholeEpoch.map (ofDriver 0)) = none := rfl
  have evaluated : (exportRecording ℚ ((wholeEpoch ++ unfinishedEpoch).flatMap wireBytes) "out"
      ∅).toOption.isSome = true := by
    decide +kernel
  rcases Option.isSome_iff_exists.mp evaluated with ⟨summary, found⟩
  have completed := Checked.toOption_eq_some.mp found
  rcases rotated_export_joins wholeEpoch unfinishedEpoch intact (.inl isClosed) "out" ∅ summary
    completed "first" "second" ∅ ∅ with ⟨one, two, oneCompleted, twoCompleted, joined⟩
  exact ⟨summary, one, two, completed, oneCompleted, twoCompleted, joined 0⟩

/-- Behind an open epoch, its end is lost. -/
example : ((exportRecording ℚ ((unfinishedEpoch ++ wholeEpoch.drop 1).flatMap wireBytes) "out"
      ∅).toOption.bind (·.file 0)).map List.length = some 100 ∧
    ((exportRecording ℚ (unfinishedEpoch.flatMap wireBytes) "out" ∅).toOption.bind
      (·.file 0)).map List.length = some 84 ∧
    ((exportRecording ℚ ((wholeEpoch.drop 1).flatMap wireBytes) "out" ∅).toOption.bind
      (·.file 0)).map List.length = none := by
  decide +kernel

end AsterxDriver.Parser
