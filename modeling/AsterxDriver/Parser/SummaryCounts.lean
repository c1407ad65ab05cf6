import AsterxDriver.Parser.ExtraAlignment

/-! # The counts of the summary

`gnss_all_by_ant` and `extras_by_ant` beside what the files of the antennas hold
when they are read again. -/

namespace AsterxDriver.Parser

open Foundation ByteString Sbf FloatArithmetic RoundedArithmetic

/-! ## Counting in a file -/

/-- The observations in a frame of a file. -/
def observationCount (F : Type) [FloatArithmetic F] (frame : SbfFrame) : Except PyError Nat :=
  if frame.blockId = 4027 then do
    let rows : List (Row F) ← decodeMeasEpoch frame
    return rows.length
  else .ok 0

/-- The MeasExtra sub-blocks in a frame of a file. -/
def subblockCount (frame : SbfFrame) : Except PyError Nat :=
  if frame.blockId = 4000 then do
    let (_, _, blocks) ← measExtraSubblocks frame
    return blocks.length
  else .ok 0

def totalCount (count : SbfFrame → Except PyError Nat) (frames : List SbfFrame) :
    Except PyError Nat := do
  let counts ← frames.mapM count
  return counts.sum

/-- The frames in the file of an antenna, if it has one. -/
def SbfSink.fileFrames (sink : SbfSink) (ant : Nat) : List SbfFrame :=
  match sink.paths.lookup ant with
  | none => []
  | some path => iterFrames (sink.disk.getD path [])

theorem totalCount_cons {count : SbfFrame → Except PyError Nat} {frame : SbfFrame}
    {later : List SbfFrame} {first rest : Nat} (counted : count frame = .ok first)
    (laterCounted : totalCount count later = .ok rest) :
    totalCount count (frame :: later) = .ok (first + rest) := by
  rcases Checked.bind_eq_ok.mp laterCounted with ⟨counts, mapped, summed⟩
  cases summed
  rw [totalCount, List.mapM_cons, counted, Checked.ok_bind, mapped]
  rfl

/-- Wherever the frame stands in a file, it has so many observations and sub-blocks. -/
structure Counts (F : Type) [FloatArithmetic F] (frame : Frame) (observed kept : Nat) : Prop where
  intact : Intact frame
  observations : ∀ offset, observationCount F (ofDriver offset frame) = .ok observed
  subblocks : ∀ offset, subblockCount (ofDriver offset frame) = .ok kept

/-- Frames one after another, with so many observations and sub-blocks in all. -/
inductive Amounts (F : Type) [FloatArithmetic F] : List (List Byte) → Nat → Nat → Prop
  | nil : Amounts F [] 0 0
  | cons {frame : Frame} {pieces : List (List Byte)} {observed kept moreObserved moreKept : Nat}
      (first : Counts F frame observed kept) (later : Amounts F pieces moreObserved moreKept) :
      Amounts F (wireBytes frame :: pieces) (observed + moreObserved) (kept + moreKept)

section

variable {F : Type} [FloatArithmetic F] {pieces more : List (List Byte)}
  {observed kept moreObserved moreKept : Nat}

theorem Counts.amounts {frame : Frame} (counts : Counts F frame observed kept) :
    Amounts F [wireBytes frame] observed kept :=
  .cons counts .nil

theorem Amounts.append (early : Amounts F pieces observed kept)
    (late : Amounts F more moreObserved moreKept) :
    Amounts F (pieces ++ more) (observed + moreObserved) (kept + moreKept) := by
  induction early with
  | nil => simpa using late
  | cons first _ induction =>
      rw [List.cons_append, Nat.add_assoc, Nat.add_assoc]
      exact .cons first induction

/-- Reading the pieces from one file finds these amounts. -/
theorem Amounts.totalCount_eq (amounts : Amounts F pieces observed kept) :
    totalCount (observationCount F) (iterFrames pieces.flatten) = .ok observed ∧
      totalCount subblockCount (iterFrames pieces.flatten) = .ok kept := by
  have read : ∃ frames : List Frame, (∀ frame ∈ frames, Intact frame) ∧
      frames.flatMap wireBytes = pieces.flatten ∧ ∀ start,
        totalCount (observationCount F)
          ((contiguous start frames).map fun found => ofDriver found.1 found.2) = .ok observed ∧
        totalCount subblockCount
          ((contiguous start frames).map fun found => ofDriver found.1 found.2) = .ok kept := by
    induction amounts with
    | nil => exact ⟨[], by simp, rfl, fun _ => ⟨rfl, rfl⟩⟩
    | @cons frame _ _ _ _ _ first _ induction =>
        rcases induction with ⟨frames, intact, bytes, totals⟩
        refine ⟨frame :: frames, List.forall_mem_cons.mpr ⟨first.intact, intact⟩, ?_, ?_⟩
        · rw [List.flatMap_cons, bytes, List.flatten_cons]
        · intro start
          rw [contiguous, List.map_cons]
          exact ⟨totalCount_cons (first.observations start) (totals _).1,
            totalCount_cons (first.subblocks start) (totals _).2⟩
  rcases read with ⟨frames, intact, bytes, totals⟩
  rw [← bytes, iterFrames_wireBytes intact]
  exact totals 0

end

/-! ## The written frames -/

/-- The number of the block is part of the frame's id. -/
def SbfFrame.Named (frame : SbfFrame) : Prop := frame.blockId = frame.rawId &&& 0x1FFF

theorem named_of_mem_iterFrames {data : List Byte} {frame : SbfFrame}
    (member : frame ∈ iterFrames data) : frame.Named := by
  rcases frameAt_of_mem_iterFramesFrom data 0 frame member with ⟨found, _, same⟩
  rw [← same]
  rfl

theorem blockId_rebuilt {frame : SbfFrame} (rebuildable : frame.Rebuildable)
    (named : frame.Named) (body : List Byte) (offset : Nat) :
    (ofDriver offset (rebuiltFrame frame.rawId body)).blockId = frame.blockId := by
  change (BitVec.ofNat 16 frame.rawId).toNat &&& 0x1FFF = _
  rw [BitVec.toNat_ofNat, Nat.mod_eq_of_lt rebuildable.1, named]

section

variable {F : Type} [RoundedArithmetic F] {frame : SbfFrame} (rebuildable : frame.Rebuildable)
  (named : frame.Named)

include rebuildable named

/-- A frame that is copied counts for nothing. -/
theorem counts_copied (notEpoch : frame.blockId ≠ 4027) (notExtra : frame.blockId ≠ 4000) :
    Counts F (rebuiltFrame frame.rawId frame.body) 0 0 where
  intact := rebuiltFrame_intact rebuildable.1 rebuildable.2
  observations := fun offset => by
    rw [observationCount, blockId_rebuilt rebuildable named, if_neg notEpoch]
  subblocks := fun offset => by
    rw [subblockCount, blockId_rebuilt rebuildable named, if_neg notExtra]

/-- The frame of one antenna has its rows. -/
theorem counts_epochPiece (epoch : frame.blockId = 4027) {header : EpochHeader}
    (valid : header.Valid) {rows : List (Row F)} (coherent : Coherent header rows)
    (nonempty : rows ≠ []) (few : rows.length ≤ 255) {piece : List Byte}
    (isPiece : IsEpochPiece frame.rawId rows piece) :
    Amounts F [piece] rows.length 0 := by
  rcases buildMeasEpochBody_readBack valid coherent nonempty few with
    ⟨body, built, small, readBack⟩
  rcases isPiece with ⟨body', built', rebuilt⟩
  rw [built] at built'
  cases built'
  rw [rebuildSbfFrame_ok rebuildable.1 small] at rebuilt
  cases rebuilt
  refine Counts.amounts ⟨rebuiltFrame_intact rebuildable.1 small, ?_, ?_⟩
  · intro offset
    rcases readBack (ofDriver offset (rebuiltFrame frame.rawId body)) rfl with
      ⟨again, decoded, identities, _⟩
    have length : again.length = rows.length := by
      simpa using congrArg List.length identities
    rw [observationCount, blockId_rebuilt rebuildable named, if_pos epoch, decoded, ← length]
    rfl
  · intro offset
    rw [subblockCount, blockId_rebuilt rebuildable named, if_neg (by omega)]

/-- The frame of one antenna has the sub-blocks that were kept for it. -/
theorem counts_extraPiece (extra : frame.blockId = 4000) {indices : List Nat}
    (distinct : indices.Nodup) (some : keptBlocks (extraBlocks frame.body) indices ≠ []) :
    Amounts F [extraPiece frame indices] 0
      (keptBlocks (extraBlocks frame.body) indices).length := by
  have fits := length_extraBody_kept distinct some
  have small := rebuildable.2
  refine Counts.amounts ⟨rebuiltFrame_intact rebuildable.1 (by omega), ?_, ?_⟩
  · intro offset
    rw [observationCount, blockId_rebuilt rebuildable named, if_neg (by omega)]
  · intro offset
    rcases measExtraSubblocks_ok (ofDriver offset (rebuiltFrame frame.rawId
      (extraBody frame.body (keptBlocks (extraBlocks frame.body) indices)))) with
      ⟨header, sbLen, found⟩
    have length := congrArg List.length (extraBlocks_rebuilt some)
    rw [subblockCount, blockId_rebuilt rebuildable named, if_pos extra, found, ← length]
    rfl

end

/-! ## One frame of the recording -/

/-- What the export does with a frame: the calls on the files, and what it counts
and leaves pending. -/
inductive Exports (F : Type) [RoundedArithmetic F] (state : ExportState) (frame : SbfFrame)
    (after : ExportState) : List SinkCall → Prop
  | epoch {rows : List (Row F)} {calls : List SinkCall} (isEpoch : frame.blockId = 4027)
      (decoded : decodeMeasEpoch frame = .ok rows)
      (coherent : Coherent (epochHeader frame.body) rows) (splittable : Splittable rows)
      (written : IsEpochCalls frame.rawId rows calls)
      (pending : after.pending = pendingAfter rows)
      (observed : after.gnssAllByAnt = countRows state.gnssAllByAnt rows)
      (extras : after.extrasByAnt = state.extrasByAnt) :
      Exports F state frame after calls
  | extra (isExtra : frame.blockId = 4000) (waiting : state.pending.extraIndices.keys ≠ [])
      (sameTime : blockTime frame.body = state.pending.epochTime)
      (pending : after.pending = state.pending)
      (observed : after.gnssAllByAnt = state.gnssAllByAnt)
      (extras : after.extrasByAnt =
        extraCounts frame state.pending.extraIndices state.extrasByAnt) :
      Exports F state frame after (extraCalls frame state.pending.extraIndices)
  | dropped (isExtra : frame.blockId = 4000)
      (unused : ¬(state.pending.extraIndices.keys ≠ [] ∧
        blockTime frame.body = state.pending.epochTime))
      (pending : after.pending = state.pending)
      (observed : after.gnssAllByAnt = state.gnssAllByAnt)
      (extras : after.extrasByAnt = state.extrasByAnt) :
      Exports F state frame after []
  | copied {calls : List SinkCall} (notEpoch : frame.blockId ≠ 4027)
      (notExtra : frame.blockId ≠ 4000)
      (copies : ∀ call ∈ calls,
        call.frameBytes = wireBytes (rebuiltFrame frame.rawId frame.body))
      (pending : after.pending = if frame.blockId = 5922 then ⟨∅, [], none⟩ else state.pending)
      (observed : after.gnssAllByAnt = state.gnssAllByAnt)
      (extras : after.extrasByAnt = state.extrasByAnt) :
      Exports F state frame after calls

/-- CSV files do not touch the counts. -/
theorem exportCsv_counts {state after : ExportState} {frame : SbfFrame}
    (result : exportCsv state frame = .ok after) :
    after.gnssAllByAnt = state.gnssAllByAnt ∧ after.extrasByAnt = state.extrasByAnt := by
  have emitted : ∀ (state : ExportState) (name : String) (headers : List String)
      (rows : List CsvRow),
      (state.emit name headers rows).gnssAllByAnt = state.gnssAllByAnt ∧
        (state.emit name headers rows).extrasByAnt = state.extrasByAnt := by
    intro state name headers rows
    unfold ExportState.emit
    induction rows generalizing state with
    | nil => exact ⟨rfl, rfl⟩
    | cons row later induction => exact induction _
  rcases Checked.bind_eq_ok.mp result with ⟨files, decoded, returned⟩
  cases returned
  clear result decoded
  induction files generalizing state with
  | nil => exact ⟨rfl, rfl⟩
  | cons file later induction =>
      rcases emitted state file.1 file.2.1 file.2.2 with ⟨observed, extras⟩
      rw [List.foldl_cons, ← observed, ← extras]
      exact induction

section

variable {F : Type} [RoundedArithmetic F] {outDir : String} {frames : List SbfFrame}
  {calls : List SinkCall} {state after : ExportState} {frame : SbfFrame}

theorem exports_of_exportFrame (reached : Reached outDir frames calls state)
    (rebuildable : frame.Rebuildable) (result : exportFrame F state frame = .ok after) :
    ∃ newCalls, state.sbfSink.run newCalls = .ok after.sbfSink ∧
      Exports F state frame after newCalls := by
  have mirrors : (state.countBlock frame).sbfSink.Mirrors outDir calls := reached.mirrors
  by_cases epoch : frame.blockId = 4027
  · have splits : frame.Splits F := by
      by_contra crowded
      rcases exportFrame_error reached rebuildable epoch crowded with ⟨_, _, failed⟩
      rw [result] at failed
      cases failed
    rcases decodeMeasEpoch_spec (F := F) frame with ⟨rows, decoded, coherent⟩
    rcases exportMeasEpoch_ok rebuildable decoded coherent (splits rows decoded) mirrors with
      ⟨other, newCalls, exported, isCalls, run, _, pending, observed, extras⟩
    rw [exportFrame, if_pos epoch, exported] at result
    cases result
    exact ⟨newCalls, run, .epoch epoch decoded coherent (splits rows decoded) isCalls pending
      observed extras⟩
  rw [exportFrame, if_neg epoch] at result
  by_cases extra : frame.blockId = 4000
  · have distinct : ∀ ant, ((state.countBlock frame).pendingExtraIndices.getD ant []).Nodup :=
      reached.distinct
    rw [if_pos extra, exportMeasExtra_eq rebuildable distinct] at result
    split at result
    · rename_i used
      rcases Checked.bind_eq_ok.mp result with ⟨sbfSink, run, returned⟩
      cases returned
      exact ⟨_, run, .extra extra used.1 used.2 rfl rfl rfl⟩
    · rename_i unused
      cases result
      exact ⟨[], rfl, .dropped extra unused rfl rfl rfl⟩
  rw [if_neg extra] at result
  by_cases isEnd : frame.blockId = 5922
  · rw [if_pos isEnd, exportEndOfMeas_eq rebuildable] at result
    rcases Checked.bind_eq_ok.mp result with ⟨sbfSink, run, returned⟩
    cases returned
    refine ⟨_, run, .copied epoch extra ?_ (if_pos isEnd).symm rfl rfl⟩
    intro call member
    rcases List.mem_map.mp member with ⟨ant, _, rfl⟩
    rfl
  rw [if_neg isEnd] at result
  by_cases common : frame.blockId ∈ gnssCommonBlockIds
  · rw [if_pos common, exportCommon_eq rebuildable] at result
    rcases Checked.bind_eq_ok.mp result with ⟨sbfSink, run, returned⟩
    cases returned
    refine ⟨_, run, .copied epoch extra ?_ (if_neg isEnd).symm rfl rfl⟩
    intro call member
    rw [List.mem_singleton.mp member]
    rfl
  · rw [if_neg common] at result
    rcases exportCsv_ok (state.countBlock frame) frame with ⟨other, exported, sink, pending⟩
    rcases exportCsv_counts result with ⟨observed, extras⟩
    rw [result] at exported
    cases exported
    refine ⟨[], by rw [sink]; rfl, .copied epoch extra ?_ ?_ observed extras⟩
    · exact fun _ member => absurd member List.not_mem_nil
    · rw [if_neg isEnd]
      exact pending

end

/-! ## Gains of an antenna -/

theorem projection_append (ant : Nat) (calls newCalls : List SinkCall) :
    projection ant (calls ++ newCalls) = projection ant calls ++ projection ant newCalls :=
  List.filterMap_append

/-- One call for each of some antennas. -/
theorem projection_map_write {keys : List Nat} (distinct : keys.Nodup)
    (piece : Nat → List Byte) (ant : Nat) :
    projection ant (keys.map fun key => .write key (piece key)) =
      if ant ∈ keys then [piece ant] else [] := by
  induction keys with
  | nil => rfl
  | cons key later induction =>
      rcases List.nodup_cons.mp distinct with ⟨fresh, laterDistinct⟩
      rw [List.map_cons, ← List.singleton_append, projection_append, induction laterDistinct]
      by_cases same : key = ant
      · subst same
        simp [projection, fresh]
      · simp [projection, same, Ne.symm same]

theorem commonFramesOf_map_write (keys : List Nat) (piece : Nat → List Byte) :
    commonFramesOf (keys.map fun key => .write key (piece key)) = [] := by
  rw [commonFramesOf, List.filterMap_map]
  exact List.filterMap_eq_nil_iff.mpr fun _ _ => rfl

section

variable {F : Type} [FloatArithmetic F]

theorem amounts_zero {frame : Frame} (counts : Counts F frame 0 0) {pieces : List (List Byte)}
    (copies : ∀ piece ∈ pieces, piece = wireBytes frame) : Amounts F pieces 0 0 := by
  induction pieces with
  | nil => exact .nil
  | cons piece later induction =>
      rcases List.forall_mem_cons.mp copies with ⟨rfl, laterCopies⟩
      exact .cons counts (induction laterCopies)

omit [FloatArithmetic F] in
theorem getD_countRows (counts : Dict Nat Nat) (rows : List (Row F)) (ant : Nat) :
    (countRows counts rows).getD ant 0 =
      counts.getD ant 0 + ((rowsByAntenna rows).getD ant []).length := by
  rw [rowsByAntenna_eq_filter]
  induction rows generalizing counts with
  | nil => rfl
  | cons row later induction =>
      rw [countRows, List.foldl_cons, ← countRows, induction, Dict.getD_modify]
      by_cases same : row.antennaId = ant
      · rw [if_pos same.symm, List.filter_cons_of_pos (by simpa using same), List.length_cons, same]
        omega
      · rw [if_neg (Ne.symm same), List.filter_cons_of_neg (by simpa using same)]

end

theorem mem_of_keptBlocks {pending : Dict Nat (List Nat)} {blocks : List (List Byte)} {ant : Nat}
    (some : keptBlocks blocks (pending.getD ant []) ≠ []) : ant ∈ pending := by
  by_contra absent
  apply some
  rw [Dict.getD, AList.lookup_eq_none.mpr absent]
  rfl

theorem getD_extraCounts (frame : SbfFrame) (pending : Dict Nat (List Nat))
    (counts : Dict Nat Nat) (ant : Nat) :
    (extraCounts frame pending counts).getD ant 0 = counts.getD ant 0 +
      if keptBlocks (extraBlocks frame.body) (pending.getD ant []) = [] then 0
      else (pending.getD ant []).length := by
  have folded : ∀ (keys : List Nat) (counts : Dict Nat Nat), keys.Nodup →
      (keys.foldl (fun counts ant => counts.modify ant 0 (· + (pending.getD ant []).length))
        counts).getD ant 0 =
        counts.getD ant 0 + if ant ∈ keys then (pending.getD ant []).length else 0 := by
    intro keys
    induction keys with
    | nil => exact fun _ _ => rfl
    | cons key later induction =>
        intro counts distinct
        rcases List.nodup_cons.mp distinct with ⟨fresh, laterDistinct⟩
        rw [List.foldl_cons, induction _ laterDistinct, Dict.getD_modify]
        by_cases same : ant = key
        · subst same
          simp [fresh]
        · simp [same]
  rw [extraCounts, folded _ _ ((Dict.nodup_sortedKeys pending).filter _)]
  simp only [List.mem_filter, Dict.mem_sortedKeys, decide_eq_true_eq]
  by_cases nothing : keptBlocks (extraBlocks frame.body) (pending.getD ant []) = []
  · rw [if_neg fun member => member.2 nothing, if_pos nothing]
  · rw [if_pos ⟨mem_of_keptBlocks nothing, nothing⟩, if_neg nothing]

theorem projection_extraCalls (frame : SbfFrame) (pending : Dict Nat (List Nat)) (ant : Nat) :
    projection ant (extraCalls frame pending) =
      if keptBlocks (extraBlocks frame.body) (pending.getD ant []) = [] then []
      else [extraPiece frame (pending.getD ant [])] := by
  rw [extraCalls, projection_map_write ((Dict.nodup_sortedKeys pending).filter _)]
  simp only [List.mem_filter, Dict.mem_sortedKeys, decide_eq_true_eq]
  by_cases nothing : keptBlocks (extraBlocks frame.body) (pending.getD ant []) = []
  · rw [if_neg fun member => member.2 nothing, if_pos nothing]
  · rw [if_pos ⟨mem_of_keptBlocks nothing, nothing⟩, if_neg nothing]

/-! ## The whole recording -/

/-- The last epoch, unless its measurements have ended. -/
def openEpoch (frames : List SbfFrame) : Option SbfFrame :=
  frames.foldl (fun opened frame =>
    if frame.blockId = 4027 then some frame
    else if frame.blockId = 5922 then none
    else opened) none

theorem openEpoch_concat (frames : List SbfFrame) (frame : SbfFrame) :
    openEpoch (frames ++ [frame]) =
      if frame.blockId = 4027 then some frame
      else if frame.blockId = 5922 then none
      else openEpoch frames := by
  rw [openEpoch, List.foldl_concat]
  rfl

/-- Extra measurements of the open epoch have sub-blocks for all of the antenna's
rows or for none. -/
def ServesAllOrNone (F : Type) [FloatArithmetic F] (ant : Nat) (before : List SbfFrame)
    (extra : SbfFrame) : Prop :=
  extra.blockId = 4000 → ∀ epoch, openEpoch before = some epoch →
    blockTime extra.body = blockTime epoch.body →
    ∀ rows : List (Row F), decodeMeasEpoch epoch = .ok rows →
    ∀ header sbLen blocks, measExtraSubblocks extra = .ok (header, sbLen, blocks) →
      (∀ k ∈ positions rows ant, k < blocks.length) ∨
      (∀ k ∈ positions rows ant, blocks.length ≤ k)

/-- All extra measurements among the frames do so. -/
def AlwaysServesAllOrNone (F : Type) [FloatArithmetic F] (ant : Nat)
    (frames : List SbfFrame) : Prop :=
  ∀ before extra later, frames = before ++ extra :: later → ServesAllOrNone F ant before extra

theorem forall_split_concat {P : List α → α → Prop} {items : List α} {last : α} :
    (∀ before item later, items ++ [last] = before ++ item :: later → P before item) ↔
      (∀ before item later, items = before ++ item :: later → P before item) ∧ P items last := by
  constructor
  · intro all
    refine ⟨fun before item later split => ?_, all items last [] rfl⟩
    exact all before item (later ++ [last]) (by rw [split]; simp)
  · rintro ⟨early, final⟩ before item later split
    rcases List.eq_nil_or_concat later with rfl | ⟨front, other, rfl⟩
    · rcases List.append_inj' split rfl with ⟨rfl, same⟩
      cases same
      exact final
    · rw [List.concat_eq_append, ← List.cons_append, ← List.append_assoc] at split
      exact early before item front (List.append_inj' split rfl).1

/-- How many indices of the antenna have no sub-block although others have. -/
def lostCount (blocks : List (List Byte)) (indices : List Nat) : Nat :=
  if keptBlocks blocks indices = [] then 0
  else indices.length - (keptBlocks blocks indices).length

theorem length_keptBlocks (blocks : List (List Byte)) (indices : List Nat) :
    (keptBlocks blocks indices).length = (indices.filter (· < blocks.length)).length := by
  rw [keptBlocks, List.length_map]

theorem length_keptBlocks_le_indices (blocks : List (List Byte)) (indices : List Nat) :
    (keptBlocks blocks indices).length ≤ indices.length := by
  rw [length_keptBlocks]
  exact List.length_filter_le _ _

theorem lostCount_eq_zero_iff {blocks : List (List Byte)} {indices : List Nat} :
    lostCount blocks indices = 0 ↔
      (∀ k ∈ indices, k < blocks.length) ∨ ∀ k ∈ indices, blocks.length ≤ k := by
  have none : keptBlocks blocks indices = [] ↔ ∀ k ∈ indices, blocks.length ≤ k := by
    rw [keptBlocks, List.map_eq_nil_iff, List.filter_eq_nil_iff]
    simp
  have all : (keptBlocks blocks indices).length = indices.length ↔
      ∀ k ∈ indices, k < blocks.length := by
    rw [length_keptBlocks, List.length_filter_eq_length_iff]
    simp
  have fewer := length_keptBlocks_le_indices blocks indices
  rw [← none, ← all, lostCount]
  split
  · rename_i nothing
    exact iff_of_true rfl (.inr nothing)
  · rename_i some
    rw [or_iff_left some]
    omega

section

variable {F : Type} [RoundedArithmetic F]

/-- What is pending are the indices of the open epoch. -/
def Waiting (F : Type) [RoundedArithmetic F] (frames : List SbfFrame) (state : ExportState) :
    Prop :=
  match openEpoch frames with
  | none => state.pending.extraIndices.keys = []
  | some epoch => ∃ rows : List (Row F), decodeMeasEpoch epoch = .ok rows ∧
      Coherent (epochHeader epoch.body) rows ∧ state.pending = pendingAfter rows

variable {frames : List SbfFrame} {state after : ExportState} {frame : SbfFrame}
  {calls : List SinkCall}

theorem Waiting.exports (waiting : Waiting F frames state)
    (exports : Exports F state frame after calls) : Waiting F (frames ++ [frame]) after := by
  have kept : frame.blockId ≠ 4027 → frame.blockId ≠ 5922 → after.pending = state.pending →
      Waiting F (frames ++ [frame]) after := by
    intro notEpoch notEnd pending
    rw [Waiting, openEpoch_concat, if_neg notEpoch, if_neg notEnd, pending]
    exact waiting
  cases exports with
  | epoch isEpoch decoded coherent _ _ pending =>
      rw [Waiting, openEpoch_concat, if_pos isEpoch]
      exact ⟨_, decoded, coherent, pending⟩
  | extra isExtra _ _ pending => exact kept (by omega) (by omega) pending
  | dropped isExtra _ pending => exact kept (by omega) (by omega) pending
  | copied notEpoch _ _ pending =>
      by_cases isEnd : frame.blockId = 5922
      · rw [Waiting, openEpoch_concat, if_neg notEpoch, if_pos isEnd, pending, if_pos isEnd]
        rfl
      · rw [if_neg isEnd] at pending
        exact kept notEpoch isEnd pending

/-- What a frame adds to the file of an antenna and to its counts. -/
def Gains (F : Type) [RoundedArithmetic F] (ant : Nat) (frames : List SbfFrame)
    (frame : SbfFrame) (state after : ExportState) (calls : List SinkCall) : Prop :=
  ∃ observed kept lost, Amounts F (projection ant calls) observed kept ∧
    after.gnssAllByAnt.getD ant 0 = state.gnssAllByAnt.getD ant 0 + observed ∧
    after.extrasByAnt.getD ant 0 = state.extrasByAnt.getD ant 0 + (kept + lost) ∧
    (lost = 0 ↔ ServesAllOrNone F ant frames frame)

theorem gains_epoch (rebuildable : frame.Rebuildable) (named : frame.Named)
    (isEpoch : frame.blockId = 4027) {rows : List (Row F)}
    (coherent : Coherent (epochHeader frame.body) rows) (splittable : Splittable rows)
    (written : IsEpochCalls frame.rawId rows calls)
    (observed : after.gnssAllByAnt = countRows state.gnssAllByAnt rows)
    (extras : after.extrasByAnt = state.extrasByAnt) (ant : Nat) :
    Gains F ant frames frame state after calls := by
  rcases written with ⟨piece, pieces, rfl⟩
  refine ⟨((rowsByAntenna rows).getD ant []).length, 0, 0, ?_, ?_, ?_, ?_⟩
  · rw [projection_map_write (Dict.nodup_sortedKeys _)]
    by_cases present : ant ∈ rowsByAntenna rows
    · rw [if_pos (Dict.mem_sortedKeys.mpr present)]
      exact counts_epochPiece rebuildable named isEpoch (epochHeader_valid frame.body)
        (coherent.rowsByAntenna ant) (rowsByAntenna_ne_nil present) (splittable ant)
        (pieces ant present)
    · have nothing : ((rowsByAntenna rows).getD ant []).length = 0 := by
        by_contra some
        exact present (mem_rowsByAntenna_of_length_pos (Nat.pos_of_ne_zero some))
      rw [if_neg (mt Dict.mem_sortedKeys.mp present), nothing]
      exact .nil
  · rw [observed, getD_countRows]
  · rw [extras, Nat.add_zero]
  · refine iff_of_true rfl fun isExtra => ?_
    omega

omit [RoundedArithmetic F] in
/-- Where nothing is pending the epoch has no rows. -/
theorem extraIndices_keys {rows : List (Row F)} : (extraIndices rows).keys = [] ↔ rows = [] := by
  constructor
  · intro nothing
    by_contra some
    rcases List.exists_mem_of_ne_nil rows some with ⟨row, member⟩
    have present : row.antennaId ∈ (extraIndices rows).keys :=
      AList.mem_keys.mp (mem_extraIndices.mpr ⟨row, member, rfl⟩)
    rw [nothing] at present
    cases present
  · intro nothing
    rw [nothing]
    rfl

/-- The open epoch, its rows and the sub-blocks are the only ones there are. -/
theorem servesAllOrNone_iff {ant : Nat} {epoch : SbfFrame} {rows : List (Row F)}
    (isExtra : frame.blockId = 4000) (opened : openEpoch frames = some epoch)
    (time : blockTime frame.body = blockTime epoch.body)
    (decoded : decodeMeasEpoch epoch = .ok rows) :
    ServesAllOrNone F ant frames frame ↔
      (∀ k ∈ positions rows ant, k < (extraBlocks frame.body).length) ∨
      (∀ k ∈ positions rows ant, (extraBlocks frame.body).length ≤ k) := by
  rcases measExtraSubblocks_ok frame with ⟨header, sbLen, found⟩
  constructor
  · intro serves
    exact serves isExtra epoch opened time rows decoded header sbLen _ found
  · intro holds _ other opened' _ otherRows decoded' _ _ blocks found'
    rw [opened] at opened'
    cases opened'
    rw [decoded] at decoded'
    cases decoded'
    rw [found] at found'
    cases found'
    exact holds

/-- Extra measurements of the open epoch: lost is what has no sub-block. -/
theorem gains_extra (waiting : Waiting F frames state) (rebuildable : frame.Rebuildable)
    (named : frame.Named) (isExtra : frame.blockId = 4000)
    (some : state.pending.extraIndices.keys ≠ [])
    (sameTime : blockTime frame.body = state.pending.epochTime)
    (observed : after.gnssAllByAnt = state.gnssAllByAnt)
    (extras : after.extrasByAnt =
      extraCounts frame state.pending.extraIndices state.extrasByAnt) (ant : Nat) :
    Gains F ant frames frame state after (extraCalls frame state.pending.extraIndices) := by
  unfold Waiting at waiting
  split at waiting
  · exact absurd waiting some
  rename_i epoch opened
  rcases waiting with ⟨rows, decoded, coherent, pending⟩
  rw [pending] at some sameTime extras ⊢
  have nonempty : rows ≠ [] := mt extraIndices_keys.mpr some
  have time : blockTime frame.body = blockTime epoch.body :=
    sameTime.trans (epochTime_eq decoded coherent nonempty)
  have indices : (pendingAfter rows).extraIndices.getD ant [] = positions rows ant :=
    getD_extraIndices rows ant
  have serves : lostCount (extraBlocks frame.body) (positions rows ant) = 0 ↔
      ServesAllOrNone F ant frames frame := by
    rw [lostCount_eq_zero_iff, servesAllOrNone_iff isExtra opened time decoded]
  refine ⟨0, (keptBlocks (extraBlocks frame.body) (positions rows ant)).length,
    lostCount (extraBlocks frame.body) (positions rows ant), ?_, ?_, ?_, serves⟩
  · rw [projection_extraCalls, indices]
    by_cases nothing : keptBlocks (extraBlocks frame.body) (positions rows ant) = []
    · rw [if_pos nothing, nothing]
      exact .nil
    · rw [if_neg nothing]
      exact counts_extraPiece rebuildable named isExtra (nodup_positions rows ant) nothing
  · rw [observed, Nat.add_zero]
  · have fewer := length_keptBlocks_le_indices (extraBlocks frame.body) (positions rows ant)
    rw [extras, getD_extraCounts, indices, lostCount]
    split
    · rename_i nothing
      rw [nothing]
      rfl
    · omega

/-- Extra measurements that are dropped would have served no row. -/
theorem gains_dropped (waiting : Waiting F frames state)
    (unused : ¬(state.pending.extraIndices.keys ≠ [] ∧
      blockTime frame.body = state.pending.epochTime))
    (observed : after.gnssAllByAnt = state.gnssAllByAnt)
    (extras : after.extrasByAnt = state.extrasByAnt) (ant : Nat) :
    Gains F ant frames frame state after [] := by
  refine ⟨0, 0, 0, .nil, by rw [observed, Nat.add_zero], by rw [extras]; omega, ?_⟩
  refine iff_of_true rfl fun _ epoch opened time rows decoded _ _ _ _ => ?_
  rw [Waiting, opened] at waiting
  rcases waiting with ⟨rows', decoded', coherent, pending⟩
  rw [decoded] at decoded'
  cases decoded'
  by_cases nothing : rows = []
  · rw [nothing]
    exact .inl fun k impossible => by cases impossible
  · rw [pending] at unused
    refine absurd ⟨mt extraIndices_keys.mp nothing, ?_⟩ unused
    exact time.trans (epochTime_eq decoded coherent nothing).symm

theorem gains_copied (rebuildable : frame.Rebuildable) (named : frame.Named)
    (notEpoch : frame.blockId ≠ 4027) (notExtra : frame.blockId ≠ 4000)
    (copies : ∀ call ∈ calls,
      call.frameBytes = wireBytes (rebuiltFrame frame.rawId frame.body))
    (observed : after.gnssAllByAnt = state.gnssAllByAnt)
    (extras : after.extrasByAnt = state.extrasByAnt) (ant : Nat) :
    Gains F ant frames frame state after calls := by
  refine ⟨0, 0, 0, ?_, by rw [observed, Nat.add_zero], by rw [extras]; omega, ?_⟩
  · refine amounts_zero (counts_copied rebuildable named notEpoch notExtra) ?_
    intro piece member
    rcases exists_call_of_mem_projection member with ⟨call, found, rfl⟩
    exact copies call found
  · exact iff_of_true rfl fun isExtra => absurd isExtra notExtra

theorem Exports.gains (waiting : Waiting F frames state) (rebuildable : frame.Rebuildable)
    (named : frame.Named) (exports : Exports F state frame after calls) (ant : Nat) :
    Gains F ant frames frame state after calls := by
  cases exports with
  | epoch isEpoch _ coherent splittable written _ observed extras =>
      exact gains_epoch rebuildable named isEpoch coherent splittable written observed extras ant
  | extra isExtra some sameTime _ observed extras =>
      exact gains_extra waiting rebuildable named isExtra some sameTime observed extras ant
  | dropped _ unused _ observed extras => exact gains_dropped waiting unused observed extras ant
  | copied notEpoch notExtra copies _ observed extras =>
      exact gains_copied rebuildable named notEpoch notExtra copies observed extras ant

/-- Frames for all antennas count for nothing. -/
theorem Exports.common (rebuildable : frame.Rebuildable) (named : frame.Named)
    (exports : Exports F state frame after calls) : Amounts F (commonFramesOf calls) 0 0 := by
  cases exports with
  | epoch _ _ _ _ written =>
      rcases written with ⟨piece, _, rfl⟩
      rw [commonFramesOf_map_write]
      exact .nil
  | extra =>
      rw [extraCalls, commonFramesOf_map_write]
      exact .nil
  | dropped => exact .nil
  | copied notEpoch notExtra copies =>
      refine amounts_zero (counts_copied rebuildable named notEpoch notExtra) ?_
      intro piece member
      rcases List.mem_filterMap.mp member with ⟨call, found, projected⟩
      cases call with
      | write other written => cases projected
      | writeCommon written =>
          cases projected
          exact copies _ found

/-- The counts beside the calls so far. -/
structure Tallied (F : Type) [RoundedArithmetic F] (outDir : String) (frames : List SbfFrame)
    (calls : List SinkCall) (state : ExportState) : Prop extends
    Reached outDir frames calls state where
  waiting : Waiting F frames state
  common : Amounts F (commonFramesOf calls) 0 0
  amounts : ∀ ant, ∃ kept lost,
    Amounts F (projection ant calls) (state.gnssAllByAnt.getD ant 0) kept ∧
    state.extrasByAnt.getD ant 0 = kept + lost ∧
    (lost = 0 ↔ AlwaysServesAllOrNone F ant frames)

theorem Tallied.fresh (outDir : String) (disk : Dict String (List Byte)) :
    Tallied F outDir [] [] (.fresh outDir disk) where
  toReached := .fresh outDir disk
  waiting := rfl
  common := .nil
  amounts := fun ant => ⟨0, 0, .nil, rfl, iff_of_true rfl fun before extra later split => by
    simp at split⟩

theorem Tallied.exportFrame {outDir : String} (tallied : Tallied F outDir frames calls state)
    (rebuildable : frame.Rebuildable) (named : frame.Named)
    (result : exportFrame F state frame = .ok after) :
    ∃ newCalls, Tallied F outDir (frames ++ [frame]) (calls ++ newCalls) after := by
  rcases exports_of_exportFrame tallied.toReached rebuildable result with ⟨newCalls, run, exports⟩
  have processed : exportFrames F state [frame] = .ok after := by
    rw [exportFrames, List.foldlM_cons, result]
    rfl
  rcases tallied.toReached.of_exportFrames (List.forall_mem_singleton.mpr rebuildable)
    processed with ⟨_, reached⟩
  rcases tallied.mirrors.run newCalls with ⟨sink, run', mirrors⟩
  rw [run] at run'
  cases run'
  refine ⟨newCalls, { reached with mirrors := mirrors }, tallied.waiting.exports exports, ?_, ?_⟩
  · rw [commonFramesOf, List.filterMap_append]
    exact tallied.common.append (exports.common rebuildable named)
  · intro ant
    rcases tallied.amounts ant with ⟨kept, lost, amounts, extras, served⟩
    rcases exports.gains tallied.waiting rebuildable named ant with
      ⟨moreObserved, moreKept, moreLost, moreAmounts, allAfter, extrasAfter, moreServed⟩
    refine ⟨kept + moreKept, lost + moreLost, ?_, by omega, ?_⟩
    · rw [projection_append, allAfter]
      exact amounts.append moreAmounts
    · rw [AlwaysServesAllOrNone, forall_split_concat, ← AlwaysServesAllOrNone, ← served,
        ← moreServed]
      omega

theorem Tallied.exportFrames {outDir : String} (tallied : Tallied F outDir frames calls state)
    {later : List SbfFrame} (good : ∀ frame ∈ later, frame.Rebuildable ∧ frame.Named)
    (result : exportFrames F state later = .ok after) :
    ∃ allCalls, Tallied F outDir (frames ++ later) allCalls after := by
  induction later generalizing frames calls state with
  | nil =>
      cases result
      rw [List.append_nil]
      exact ⟨calls, tallied⟩
  | cons frame later induction =>
      rcases List.forall_mem_cons.mp good with ⟨⟨rebuildable, named⟩, laterGood⟩
      rw [Parser.exportFrames, List.foldlM_cons] at result
      rcases Checked.bind_eq_ok.mp result with ⟨middle, first, rest⟩
      rcases tallied.exportFrame rebuildable named first with ⟨newCalls, middleTallied⟩
      rcases induction middleTallied laterGood rest with ⟨allCalls, afterTallied⟩
      rw [List.append_assoc] at afterTallied
      exact ⟨allCalls, afterTallied⟩

theorem fileFrames_eq {outDir : String} {sink : SbfSink} (mirrors : sink.Mirrors outDir calls)
    (ant : Nat) : sink.fileFrames ant =
      if ant ∈ openOrder calls then iterFrames (projection ant calls).flatten else [] := by
  rw [SbfSink.fileFrames, mirrors.paths]
  split
  · rename_i absent
    rw [if_neg fun isOpen => by rw [if_pos isOpen] at absent; cases absent]
  · rename_i path found
    by_cases isOpen : ant ∈ openOrder calls
    · rw [if_pos isOpen] at found ⊢
      cases found
      rw [← (mirrors.holds ant isOpen).1, SbfSink.content, SbfSink.pathFor, mirrors.directory]
    · rw [if_neg isOpen] at found
      cases found

/-- A file holds the pieces of its antenna; where there is no file, these are only
the frames for all antennas, which count for nothing. -/
theorem Tallied.totals {outDir : String} (tallied : Tallied F outDir frames calls state)
    (ant : Nat) : ∃ kept lost,
      totalCount (observationCount F) (state.sbfSink.fileFrames ant) =
        .ok (state.gnssAllByAnt.getD ant 0) ∧
      totalCount subblockCount (state.sbfSink.fileFrames ant) = .ok kept ∧
      state.extrasByAnt.getD ant 0 = kept + lost ∧
      (lost = 0 ↔ AlwaysServesAllOrNone F ant frames) := by
  rcases tallied.amounts ant with ⟨kept, lost, amounts, extras, served⟩
  rcases amounts.totalCount_eq with ⟨observations, subblocks⟩
  refine ⟨kept, lost, ?_, ?_, extras, served⟩
  all_goals rw [fileFrames_eq tallied.mirrors]
  all_goals by_cases isOpen : ant ∈ openOrder calls
  · rw [if_pos isOpen, observations]
  · rw [projection_of_not_mem isOpen, tallied.common.totalCount_eq.1] at observations
    rw [if_neg isOpen, ← observations]
    rfl
  · rw [if_pos isOpen, subblocks]
  · rw [projection_of_not_mem isOpen, tallied.common.totalCount_eq.2] at subblocks
    rw [if_neg isOpen, ← subblocks]
    rfl

/-- The totals of a finished export. -/
theorem exportRecording_totals {data : List Byte} {outDir : String}
    {disk : Dict String (List Byte)} {summary : ExportSummary}
    (completed : exportRecording F data outDir disk = .ok summary) (ant : Nat) :
    ∃ kept lost,
      totalCount (observationCount F) (summary.state.sbfSink.fileFrames ant) =
        .ok (summary.state.gnssAllByAnt.getD ant 0) ∧
      totalCount subblockCount (summary.state.sbfSink.fileFrames ant) = .ok kept ∧
      summary.state.extrasByAnt.getD ant 0 = kept + lost ∧
      (lost = 0 ↔ AlwaysServesAllOrNone F ant (iterFrames data)) := by
  rcases Checked.bind_eq_ok.mp completed with ⟨state, exported, returned⟩
  cases returned
  have good : ∀ frame ∈ iterFrames data, frame.Rebuildable ∧ frame.Named :=
    fun frame member => ⟨rebuildable_of_mem_iterFrames member, named_of_mem_iterFrames member⟩
  rcases (Tallied.fresh outDir (cleanupGeneratedGnssOutputs outDir disk)).exportFrames good
    exported with ⟨calls, tallied⟩
  exact tallied.totals ant

/-- When the export completes, `gnss_all_by_ant` is the number of observations in the
antenna's file; `extras_by_ant` is the number of MeasExtra sub-blocks in it if and
only if no MeasExtra had sub-blocks for a part of the antenna's rows only. -/
theorem summary_counts_iff (data : List Byte) (outDir : String) (disk : Dict String (List Byte))
    (summary : ExportSummary) (completed : exportRecording F data outDir disk = .ok summary)
    (ant : Nat) :
    totalCount (observationCount F) (summary.state.sbfSink.fileFrames ant) =
      .ok (summary.state.gnssAllByAnt.getD ant 0) ∧
    (totalCount subblockCount (summary.state.sbfSink.fileFrames ant) =
        .ok (summary.state.extrasByAnt.getD ant 0) ↔
      ∀ before extra later, iterFrames data = before ++ extra :: later →
        ServesAllOrNone F ant before extra) := by
  rcases exportRecording_totals completed ant with ⟨kept, lost, observations, subblocks, extras,
    served⟩
  refine ⟨observations, ?_⟩
  rw [← AlwaysServesAllOrNone, ← served, subblocks, Except.ok.injEq]
  omega

end

/-! ## Fewer sub-blocks than rows -/

/-- Extra measurements of one signal, behind an epoch with two. -/
def oneExtra : SbfFrame :=
  ofDriver 52 (rebuiltFrame 4000 [0xE8, 0x03, 0, 0, 0xFC, 0x08, 1, 4, 0, 0, 0, 0, 1, 1, 1, 1])

def partlyServedRecording : List Byte :=
  [rebuiltFrame 4027 gpsTwoSignals.body, rebuiltFrame 4000 oneExtra.body].flatMap wireBytes

theorem iterFrames_partlyServed : iterFrames partlyServedRecording = [gpsTwoSignals, oneExtra] := by
  have intact : ∀ frame ∈ [rebuiltFrame 4027 gpsTwoSignals.body, rebuiltFrame 4000 oneExtra.body],
      Intact frame := by
    simp only [List.forall_mem_cons, List.not_mem_nil, false_implies, implies_true, and_true]
    exact ⟨rebuiltFrame_intact (by norm_num) (by decide),
      rebuiltFrame_intact (by norm_num) (by decide)⟩
  exact iterFrames_wireBytes intact

theorem gpsTwoSignals_antennaIds {rows : List (Row Binary64)}
    (decoded : decodeMeasEpoch gpsTwoSignals = .ok rows) : rows.map Row.antennaId = [0, 0] := by
  have evaluated : (decodeMeasEpoch gpsTwoSignals).map (List.map (Row.antennaId (F := Binary64))) =
      .ok [0, 0] := by
    decide +kernel
  rw [decoded] at evaluated
  exact Except.ok.inj evaluated

theorem partlyServed_completes :
    ∃ summary, exportRecording Binary64 partlyServedRecording "out" ∅ = .ok summary := by
  rcases exportRecording_cases (F := Binary64) partlyServedRecording "out" ∅ with
    ⟨_, completed⟩ | ⟨⟨frame, member, epoch, crowded⟩, _⟩
  · exact completed
  · rw [iterFrames_partlyServed] at member
    simp only [List.mem_cons, List.not_mem_nil, or_false] at member
    rcases member with rfl | rfl
    · refine absurd (fun rows decoded antenna => ?_) crowded
      have two : rows.length = 2 := by
        rw [← List.length_map (f := Row.antennaId), gpsTwoSignals_antennaIds decoded]
        rfl
      have fewer := List.length_filter_le (fun row : Row Binary64 => row.antennaId = antenna) rows
      rw [rowsByAntenna_eq_filter]
      omega
    · cases epoch

theorem partlyServed_summary_counts :
    ∃ summary, exportRecording Binary64 partlyServedRecording "out" ∅ = .ok summary ∧
      totalCount (observationCount Binary64) (summary.state.sbfSink.fileFrames 0) =
        .ok (summary.state.gnssAllByAnt.getD 0 0) ∧
      (totalCount subblockCount (summary.state.sbfSink.fileFrames 0) =
          .ok (summary.state.extrasByAnt.getD 0 0) ↔
        ∀ before extra later, iterFrames partlyServedRecording = before ++ extra :: later →
          ServesAllOrNone Binary64 0 before extra) := by
  rcases partlyServed_completes with ⟨summary, completed⟩
  exact ⟨summary, completed, summary_counts_iff _ _ _ summary completed 0⟩

/-- The count is of the rows, also of the one that has no sub-block. -/
theorem partlyServed_miscounted :
    ∃ summary, exportRecording Binary64 partlyServedRecording "out" ∅ = .ok summary ∧
      totalCount subblockCount (summary.state.sbfSink.fileFrames 0) ≠
        .ok (summary.state.extrasByAnt.getD 0 0) := by
  rcases partlyServed_completes with ⟨summary, completed⟩
  refine ⟨summary, completed, ?_⟩
  rcases exportRecording_totals completed 0 with ⟨kept, lost, _, subblocks, extras, served⟩
  rcases decodeMeasEpoch_spec (F := Binary64) gpsTwoSignals with ⟨rows, decoded, _⟩
  have antennas := gpsTwoSignals_antennaIds decoded
  have own : 0 ∈ positions rows 0 ∧ 1 ∈ positions rows 0 := by
    rw [mem_positions, mem_positions, ← List.getElem?_map, ← List.getElem?_map, antennas]
    exact ⟨rfl, rfl⟩
  have unserved : lost ≠ 0 := by
    rw [Ne, served]
    intro always
    rcases always [gpsTwoSignals] oneExtra [] iterFrames_partlyServed rfl gpsTwoSignals rfl rfl rows
      decoded _ _ [[1, 1, 1, 1]] rfl with all | none
    · exact absurd (all 1 own.2) (by decide)
    · exact absurd (none 0 own.1) (by decide)
  rw [subblocks, Ne, Except.ok.injEq]
  omega

end AsterxDriver.Parser
