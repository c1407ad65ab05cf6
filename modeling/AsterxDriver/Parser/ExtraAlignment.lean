import AsterxDriver.Parser.ExportCompletion

/-! # MeasExtra beside MeasEpoch

After the split each antenna has a MeasEpoch and a MeasExtra of its own. The
sub-blocks of the second still belong to the observations of the first. -/

namespace AsterxDriver.Parser

open Foundation ByteString Sbf FloatArithmetic RoundedArithmetic

/-! ## Indices -/

theorem filter_lt_eq_takeWhile {indices : List Nat} (increasing : indices.Pairwise (· < ·))
    (bound : Nat) : indices.filter (· < bound) = indices.takeWhile (· < bound) := by
  induction indices with
  | nil => rfl
  | cons index later induction =>
      rcases List.pairwise_cons.mp increasing with ⟨above, laterIncreasing⟩
      by_cases inside : index < bound
      · rw [List.filter_cons_of_pos (by simpa using inside),
          List.takeWhile_cons_of_pos (by simpa using inside), induction laterIncreasing]
      · have outside : ∀ other ∈ later, ¬decide (other < bound) = true := by
          intro other member
          have := above other member
          simp
          omega
        rw [List.filter_cons_of_neg (by simpa using inside),
          List.takeWhile_cons_of_neg (by simpa using inside), List.filter_eq_nil_iff.mpr outside]

section

variable {F : Type} (rows : List (Row F)) (antenna : Nat)

/-- The rows of the antenna are those at its positions. -/
theorem forall₂_positions :
    List.Forall₂ (fun row k => rows[k]? = some row) ((rowsByAntenna rows).getD antenna [])
      (positions rows antenna) := by
  have own : (rowsByAntenna rows).getD antenna [] =
      (rows.zipIdx.filter (·.1.antennaId = antenna)).map Prod.fst := by
    rw [rowsByAntenna_eq_filter]
    conv_lhs => rw [← List.zipIdx_map_fst 0 rows, List.filter_map]
    rfl
  rw [own, positions, List.forall₂_map_left_iff, List.forall₂_map_right_iff, List.forall₂_same]
  intro entry member
  exact List.mem_zipIdx_iff_getElem?.mp (List.mem_of_mem_filter member)

theorem mem_positions {rows : List (Row F)} {antenna k : Nat} :
    k ∈ positions rows antenna ↔ (rows[k]?).map Row.antennaId = some antenna := by
  simp only [positions, List.mem_map, List.mem_filter, decide_eq_true_eq, Prod.exists,
    List.mem_zipIdx_iff_getElem?, Option.map_eq_some_iff]
  constructor
  · rintro ⟨row, _, ⟨found, same⟩, rfl⟩
    exact ⟨row, found, same⟩
  · rintro ⟨row, found, same⟩
    exact ⟨row, k, ⟨found, same⟩, rfl⟩

/-- The positions for which there is a sub-block. -/
def sharedPositions (count : Nat) : List Nat := (positions rows antenna).filter (· < count)

theorem sharedPositions_prefix (count : Nat) :
    sharedPositions rows antenna count <+: positions rows antenna := by
  rw [sharedPositions, filter_lt_eq_takeWhile (pairwise_positions rows antenna)]
  exact List.takeWhile_prefix _

theorem count_sharedPositions {count k : Nat} (inside : k < count) :
    (sharedPositions rows antenna count).count k =
      if (rows[k]?).map Row.antennaId = some antenna then 1 else 0 := by
  rw [sharedPositions, ((nodup_positions rows antenna).filter _).count]
  simp only [List.mem_filter, mem_positions, decide_eq_true_eq, inside, and_true]

end

theorem forall₂_keptBlocks (blocks : List (List Byte)) (indices : List Nat) :
    List.Forall₂ (fun block k => blocks[k]? = some block) (keptBlocks blocks indices)
      (indices.filter (· < blocks.length)) := by
  rw [keptBlocks, List.forall₂_map_left_iff, List.forall₂_same]
  intro k member
  have inside : k < blocks.length := by simpa using (List.mem_filter.mp member).2
  rw [List.getD_eq_getElem _ _ inside, List.getElem?_eq_getElem inside]

theorem measExtraSubblocks_ok (frame : SbfFrame) :
    ∃ header sbLen, measExtraSubblocks frame = .ok (header, sbLen, extraBlocks frame.body) := by
  rw [measExtraSubblocks_eq]
  split
  · rename_i absent
    exact ⟨_, _, by rw [extraBlocks, if_pos absent]⟩
  · exact ⟨_, _, rfl⟩

/-! ## From the epoch to its extra measurements -/

section

variable {F : Type} [RoundedArithmetic F] {outDir : String} {before : List SbfFrame}
  {calls : List SinkCall} {state : ExportState}

/-- A loop that came this far went through states that hold together. -/
theorem Reached.of_exportFrames (reached : Reached outDir before calls state)
    {frames : List SbfFrame} (rebuildable : ∀ frame ∈ frames, frame.Rebuildable)
    {after : ExportState} (result : exportFrames F state frames = .ok after) :
    ∃ newCalls, Reached outDir (before ++ frames) (calls ++ newCalls) after := by
  by_cases splits : ∀ frame ∈ frames, frame.blockId = 4027 → frame.Splits F
  · rcases exportFrames_ok reached rebuildable splits with
      ⟨other, newCalls, completed, otherReached⟩
    rw [result] at completed
    cases completed
    exact ⟨newCalls, otherReached⟩
  · push Not at splits
    rcases exportFrames_error reached rebuildable splits with ⟨_, _, failed⟩
    rw [result] at failed
    cases failed

/-- What is pending stays so until the next epoch or the end of this one. -/
theorem exportFrames_other (reached : Reached outDir before calls state) {frames : List SbfFrame}
    (rebuildable : ∀ frame ∈ frames, frame.Rebuildable)
    (others : ∀ frame ∈ frames, frame.blockId ≠ 4027 ∧ frame.blockId ≠ 5922) :
    ∃ after newCalls, exportFrames F state frames = .ok after ∧
      Reached outDir (before ++ frames) (calls ++ newCalls) after ∧
      after.pending = state.pending := by
  induction frames generalizing before calls state with
  | nil => exact ⟨state, [], rfl, by rwa [List.append_nil, List.append_nil], rfl⟩
  | cons frame later induction =>
      rcases List.forall_mem_cons.mp rebuildable with ⟨firstRebuildable, laterRebuildable⟩
      rcases List.forall_mem_cons.mp others with ⟨⟨notEpoch, notEnd⟩, laterOthers⟩
      rcases exportFrame_other (F := F) reached firstRebuildable notEpoch notEnd with
        ⟨middle, firstCalls, first, _, middleReached, middlePending⟩
      rcases induction middleReached laterRebuildable laterOthers with
        ⟨after, laterCalls, rest, afterReached, afterPending⟩
      refine ⟨after, firstCalls ++ laterCalls, ?_, ?_, afterPending.trans middlePending⟩
      · rw [exportFrames, List.foldlM_cons, first, Checked.ok_bind]
        exact rest
      · rwa [List.append_assoc, List.append_assoc] at afterReached

/-- Extra measurements of another time are dropped. -/
theorem exportFrame_extra_skipped (reached : Reached outDir before calls state)
    {extra : SbfFrame} (rebuildable : extra.Rebuildable) (isExtra : extra.blockId = 4000)
    (other : ∀ epoch, lastEpoch before = some epoch →
      blockTime extra.body ≠ blockTime epoch.body) :
    ∃ after, exportFrame F state extra = .ok after ∧ after.sbfSink = state.sbfSink := by
  have distinct : ∀ ant, ((state.countBlock extra).pendingExtraIndices.getD ant []).Nodup :=
    reached.distinct
  refine ⟨state.countBlock extra, ?_, rfl⟩
  rw [exportFrame, if_neg (by omega), if_pos isExtra, exportMeasExtra_eq rebuildable distinct,
    if_neg]
  rintro ⟨some, same⟩
  rcases reached.time some with ⟨epoch, last, time⟩
  exact other epoch last (same.trans time)

/-- Extra measurements of the epoch's time are written by its indices. -/
theorem exportFrame_extra_written (reached : Reached outDir before calls state)
    {extra : SbfFrame} (rebuildable : extra.Rebuildable) (isExtra : extra.blockId = 4000)
    {rows : List (Row F)} (pending : state.pending = pendingAfter rows)
    (time : rows ≠ [] → blockTime extra.body = rows.head?.map fun row => (row.towMs, row.wnc)) :
    ∃ after, exportFrame F state extra = .ok after ∧
      state.sbfSink.run (extraCalls extra (extraIndices rows)) = .ok after.sbfSink := by
  have mirrors : (state.countBlock extra).sbfSink.Mirrors outDir calls := reached.mirrors
  have distinct : ∀ ant, ((state.countBlock extra).pendingExtraIndices.getD ant []).Nodup :=
    reached.distinct
  have indices : (state.countBlock extra).pendingExtraIndices = extraIndices rows :=
    congrArg Pending.extraIndices pending
  have epochTime : (state.countBlock extra).pendingEpochTime =
      rows.head?.map fun row => (row.towMs, row.wnc) := congrArg Pending.epochTime pending
  rw [exportFrame, if_neg (by omega), if_pos isExtra, exportMeasExtra_eq rebuildable distinct,
    indices, epochTime]
  by_cases nothing : rows = []
  · subst nothing
    exact ⟨_, if_neg (fun some => some.1 rfl), rfl⟩
  · rcases mirrors.run (extraCalls extra (extraIndices rows)) with ⟨after, run, _⟩
    have present : (extraIndices rows).keys ≠ [] := by
      rcases List.exists_mem_of_ne_nil rows nothing with ⟨row, member⟩
      exact List.ne_nil_of_mem (AList.mem_keys.mp (mem_extraIndices.mpr ⟨row, member, rfl⟩))
    rw [if_pos ⟨present, time nothing⟩, run]
    exact ⟨_, rfl, run⟩

end

/-! ## The two frames of an antenna -/

/-- A MeasEpoch with the rows at these indices, in this order. -/
def HoldsObservations {F : Type} [RoundedArithmetic F] (epoch : SbfFrame) (rows : List (Row F))
    (indices : List Nat) (piece : List Byte) : Prop :=
  ∃ own : List (Row F), List.Forall₂ (fun row k => rows[k]? = some row) own indices ∧
    IsEpochPiece epoch.rawId own piece ∧
    ∃ alone, iterFrames piece = [alone] ∧
      ∃ again : List (Row F), decodeMeasEpoch alone = .ok again ∧
        again.map Row.identity = own.map Row.readBack

/-- A MeasExtra with the sub-blocks at these indices, in this order. -/
def HoldsSubblocks (extra : SbfFrame) (blocks : List (List Byte)) (indices : List Nat)
    (piece : List Byte) : Prop :=
  ∃ body, buildMeasExtraBody extra indices = .ok (some body) ∧
    rebuildSbfFrame extra.rawId body = .ok piece ∧
    ∃ alone, iterFrames piece = [alone] ∧
      ∃ header sbLen kept, measExtraSubblocks alone = .ok (header, sbLen, kept) ∧
        List.Forall₂ (fun block k => blocks[k]? = some block) kept indices

theorem holdsObservations {F : Type} [RoundedArithmetic F] {epoch : SbfFrame}
    (rebuildable : epoch.Rebuildable) {rows : List (Row F)}
    (coherent : Coherent (epochHeader epoch.body) rows) (splittable : Splittable rows)
    {antenna : Nat} (present : antenna ∈ rowsByAntenna rows) {piece : List Byte}
    (isPiece : IsEpochPiece epoch.rawId ((rowsByAntenna rows).getD antenna []) piece) :
    HoldsObservations epoch rows (positions rows antenna) piece := by
  refine ⟨_, forall₂_positions rows antenna, isPiece, ?_⟩
  rcases isPiece with ⟨body, built, rebuilt⟩
  rcases split_readBack (epochHeader_valid epoch.body) (coherent.rowsByAntenna antenna)
      (rowsByAntenna_ne_nil present) (splittable antenna) rebuildable.1 with
    ⟨body', built', piece', rebuilt', alone, read, again, decoded, identities, _⟩
  rw [built] at built'
  cases built'
  rw [rebuilt] at rebuilt'
  cases rebuilt'
  exact ⟨alone, read, again, decoded, identities⟩

theorem holdsSubblocks_extraPiece {extra : SbfFrame} (rebuildable : extra.Rebuildable)
    {indices : List Nat} (distinct : indices.Nodup)
    (some : keptBlocks (extraBlocks extra.body) indices ≠ []) :
    HoldsSubblocks extra (extraBlocks extra.body)
      (indices.filter (· < (extraBlocks extra.body).length)) (extraPiece extra indices) := by
  have idempotent : keptBlocks (extraBlocks extra.body)
      (indices.filter (· < (extraBlocks extra.body).length)) =
      keptBlocks (extraBlocks extra.body) indices := by
    rw [keptBlocks, List.filter_filter]
    simp only [Bool.and_self]
    rfl
  rcases measExtraSubblocks_extraPiece rebuildable distinct some with ⟨alone, read, blocks⟩
  rcases measExtraSubblocks_ok alone with ⟨header, sbLen, found⟩
  refine ⟨_, ?_, rebuildSbfFrame_extra rebuildable distinct some, alone, read, header, sbLen, _,
    found, ?_⟩
  · rw [buildMeasExtraBody_eq, idempotent, if_neg some]
  · rw [blocks]
    exact forall₂_keptBlocks _ _

theorem extraCalls_extraIndices {F : Type} (extra : SbfFrame) (rows : List (Row F)) :
    extraCalls extra (extraIndices rows) =
      ((rowsByAntenna rows).sortedKeys.filter fun ant =>
        sharedPositions rows ant (extraBlocks extra.body).length ≠ []).map fun ant =>
          .write ant (extraPiece extra (positions rows ant)) := by
  have antennas : (extraIndices rows).sortedKeys = (rowsByAntenna rows).sortedKeys := by
    apply Dict.sortedKeys_congr
    intro ant
    rw [mem_extraIndices]
    exact Dict.mem_group.symm
  simp only [extraCalls, antennas, getD_extraIndices]
  congr 1
  apply List.filter_congr
  intro ant _
  rw [decide_eq_decide, keptBlocks, sharedPositions, ne_eq, List.map_eq_nil_iff]

/-! ## Alignment -/

variable {F : Type} [RoundedArithmetic F]

/-- Behind the two frames of an antenna are the rows and the sub-blocks at some
original indices, and these fit. -/
structure Aligned (rows : List (Row F)) (blocks : List (List Byte))
    (observed sent : Nat → List Nat) : Prop where
  once : ∀ k < min rows.length blocks.length, ∀ ant, (sent ant).count k =
    if (rows[k]?).map Row.antennaId = some ant then 1 else 0
  together : ∀ ant, ∀ p < (sent ant).length, (sent ant)[p]? = (observed ant)[p]?

omit [RoundedArithmetic F] in
theorem aligned_positions (rows : List (Row F)) (blocks : List (List Byte)) :
    Aligned rows blocks (positions rows) fun ant =>
      sharedPositions rows ant blocks.length where
  once := fun _ inside ant => count_sharedPositions rows ant (lt_min_iff.mp inside).2
  together := by
    intro ant p inside
    rcases sharedPositions_prefix rows ant blocks.length with ⟨rest, whole⟩
    rw [← whole, List.getElem?_append_left inside]

/-- The epoch, the frames behind it and then its extra measurements are exported:
what goes to the files for the first and for the last is aligned. -/
def WritesAligned (F : Type) [RoundedArithmetic F] (start : ExportState) (epoch : SbfFrame)
    (middle : List SbfFrame) (extra : SbfFrame) (rows : List (Row F))
    (blocks : List (List Byte)) : Prop :=
  ∃ split waiting written, exportFrame F start epoch = .ok split ∧
    exportFrames F split middle = .ok waiting ∧ exportFrame F waiting extra = .ok written ∧
    ∃ (antennas : List Nat) (observed sent : Nat → List Nat)
      (epochPiece extraPiece : Nat → List Byte),
      antennas.Nodup ∧ (∀ ant, ant ∈ antennas ↔ ∃ row ∈ rows, row.antennaId = ant) ∧
      start.sbfSink.run (antennas.map fun ant => .write ant (epochPiece ant)) =
        .ok split.sbfSink ∧
      waiting.sbfSink.run ((antennas.filter fun ant => sent ant ≠ []).map fun ant =>
        .write ant (extraPiece ant)) = .ok written.sbfSink ∧
      (∀ ant ∈ antennas, HoldsObservations epoch rows (observed ant) (epochPiece ant)) ∧
      (∀ ant ∈ antennas, sent ant ≠ [] →
        HoldsSubblocks extra blocks (sent ant) (extraPiece ant)) ∧
      Aligned rows blocks observed sent

theorem writesAligned {outDir : String} {before : List SbfFrame} {calls : List SinkCall}
    {start : ExportState} (reached : Reached outDir before calls start)
    {epoch extra : SbfFrame} (epochRebuildable : epoch.Rebuildable) (isEpoch : epoch.blockId = 4027)
    {middle : List SbfFrame} (middleRebuildable : ∀ frame ∈ middle, frame.Rebuildable)
    (others : ∀ frame ∈ middle, frame.blockId ≠ 4027 ∧ frame.blockId ≠ 5922)
    (extraRebuildable : extra.Rebuildable) (isExtra : extra.blockId = 4000)
    (sameTime : blockTime extra.body = blockTime epoch.body) {rows : List (Row F)}
    (decoded : decodeMeasEpoch epoch = .ok rows)
    (coherent : Coherent (epochHeader epoch.body) rows) (splittable : Splittable rows) :
    WritesAligned F start epoch middle extra rows (extraBlocks extra.body) := by
  rcases exportFrame_epoch reached epochRebuildable isEpoch decoded coherent splittable with
    ⟨split, _, splitting, ⟨piece, pieces, rfl⟩, splitRun, splitReached, splitPending⟩
  rcases exportFrames_other (F := F) splitReached middleRebuildable others with
    ⟨waiting, _, waited, waitingReached, waitingPending⟩
  have rowsTime : rows ≠ [] →
      blockTime extra.body = rows.head?.map fun row => (row.towMs, row.wnc) :=
    fun nonempty => sameTime.trans (epochTime_eq decoded coherent nonempty).symm
  rcases exportFrame_extra_written waitingReached extraRebuildable isExtra
      (waitingPending.trans splitPending) rowsTime with ⟨written, writing, writtenRun⟩
  rw [extraCalls_extraIndices] at writtenRun
  refine ⟨split, waiting, written, splitting, waited, writing, _, _, _, piece, _,
    Dict.nodup_sortedKeys _, fun ant => Dict.mem_sortedKeys.trans Dict.mem_group, splitRun,
    writtenRun, ?_, ?_, aligned_positions rows (extraBlocks extra.body)⟩
  · intro ant member
    have present := Dict.mem_sortedKeys.mp member
    exact holdsObservations epochRebuildable coherent splittable present (pieces ant present)
  · intro ant _ some
    apply holdsSubblocks_extraPiece extraRebuildable (nodup_positions rows ant)
    rwa [keptBlocks, ne_eq, List.map_eq_nil_iff]

/-- Every sub-block goes with its row: to the antenna of the row, once, and to the
place that the row has in the antenna's MeasEpoch. Sub-blocks of another time go
nowhere. -/
theorem extras_stay_aligned (data : List Byte) (outDir : String)
    (disk : Dict String (List Byte)) :
    (∀ before epoch middle extra later,
      iterFrames data = before ++ epoch :: (middle ++ extra :: later) →
      epoch.blockId = 4027 →
      (∀ frame ∈ middle, frame.blockId ≠ 4027 ∧ frame.blockId ≠ 5922) →
      extra.blockId = 4000 → blockTime extra.body = blockTime epoch.body →
      ∀ rows : List (Row F), decodeMeasEpoch epoch = .ok rows → Splittable rows →
      ∀ header sbLen blocks, measExtraSubblocks extra = .ok (header, sbLen, blocks) →
      ∀ start, exportFrames F (.fresh outDir (cleanupGeneratedGnssOutputs outDir disk)) before =
        .ok start → WritesAligned F start epoch middle extra rows blocks) ∧
    ∀ before extra later, iterFrames data = before ++ extra :: later → extra.blockId = 4000 →
      (∀ epoch, lastEpoch before = some epoch → blockTime extra.body ≠ blockTime epoch.body) →
      ∀ state, exportFrames F (.fresh outDir (cleanupGeneratedGnssOutputs outDir disk)) before =
        .ok state →
      ∃ after, exportFrame F state extra = .ok after ∧ after.sbfSink = state.sbfSink := by
  have fresh := Reached.fresh outDir (cleanupGeneratedGnssOutputs outDir disk)
  have rebuildable : ∀ frame ∈ iterFrames data, frame.Rebuildable :=
    fun frame member => rebuildable_of_mem_iterFrames member
  constructor
  · intro before epoch middle extra later frames isEpoch others isExtra sameTime rows decoded
      splittable header sbLen blocks found start started
    simp only [frames, List.forall_mem_append, List.forall_mem_cons] at rebuildable
    rcases rebuildable with
      ⟨beforeRebuildable, epochRebuildable, middleRebuildable, extraRebuildable, _⟩
    rcases decodeMeasEpoch_spec (F := F) epoch with ⟨_, decoded', coherent⟩
    rw [decoded] at decoded'
    cases decoded'
    rcases measExtraSubblocks_ok extra with ⟨_, _, found'⟩
    rw [found] at found'
    cases found'
    rcases fresh.of_exportFrames beforeRebuildable started with ⟨_, reached⟩
    exact writesAligned reached epochRebuildable isEpoch middleRebuildable others
      extraRebuildable isExtra sameTime decoded coherent splittable
  · intro before extra later frames isExtra other state started
    simp only [frames, List.forall_mem_append, List.forall_mem_cons] at rebuildable
    rcases rebuildable with ⟨beforeRebuildable, extraRebuildable, _⟩
    rcases fresh.of_exportFrames beforeRebuildable started with ⟨_, reached⟩
    exact exportFrame_extra_skipped reached extraRebuildable isExtra other

/-! ## One satellite on two antennas -/

/-- GPS L1CA of the main antenna, with L2C of the first auxiliary one below it. -/
def sharedSatelliteBody : List Byte :=
  oneSatelliteBody 0 0x01 1 [35, 9, 100, 0x08, 0, 0x04, 0x20, 0x03, 0x11, 0, 0x05, 0]

/-- Its extra measurements, and one more sub-block. -/
def sharedExtraBody : List Byte :=
  [0xE8, 0x03, 0, 0, 0xFC, 0x08, 3, 4, 0, 0, 0, 0, 1, 1, 1, 1, 2, 2, 2, 2, 3, 3, 3, 3]

def sharedRecording : List Byte :=
  [rebuiltFrame 4027 sharedSatelliteBody, rebuiltFrame 4000 sharedExtraBody].flatMap wireBytes

theorem sharedRecording_aligned :
    ∃ epoch extra, iterFrames sharedRecording = [epoch, extra] ∧
      ∃ rows : List (Row Binary64), decodeMeasEpoch epoch = .ok rows ∧
        rows.map Row.antennaId = [0, 1] ∧
        WritesAligned Binary64 (.fresh "out" ∅) epoch [] extra rows
          [[1, 1, 1, 1], [2, 2, 2, 2], [3, 3, 3, 3]] := by
  have intact : ∀ frame ∈ [rebuiltFrame 4027 sharedSatelliteBody,
      rebuiltFrame 4000 sharedExtraBody], Intact frame := by
    simp only [List.forall_mem_cons, List.not_mem_nil, false_implies, implies_true, and_true]
    exact ⟨rebuiltFrame_intact (by norm_num) (by decide),
      rebuiltFrame_intact (by norm_num) (by decide)⟩
  have read := iterFrames_wireBytes intact
  rw [contiguous, contiguous, contiguous] at read
  set epoch := ofDriver 0 (rebuiltFrame 4027 sharedSatelliteBody)
  rcases decodeMeasEpoch_spec (F := Binary64) epoch with ⟨rows, decoded, _⟩
  have evaluated : (decodeMeasEpoch epoch).map (List.map (Row.antennaId (F := Binary64))) =
      .ok [0, 1] := by
    decide +kernel
  rw [decoded] at evaluated
  have antennas : rows.map Row.antennaId = [0, 1] := Except.ok.inj evaluated
  have splittable : Splittable rows := by
    intro antenna
    have two : rows.length = 2 := by
      rw [← List.length_map (f := Row.antennaId), antennas]
      rfl
    have := List.length_filter_le (fun row : Row Binary64 => row.antennaId = antenna) rows
    rw [rowsByAntenna_eq_filter]
    omega
  refine ⟨_, _, read, rows, decoded, antennas, ?_⟩
  exact (extras_stay_aligned sharedRecording "out" ∅).1 [] _ [] _ [] read rfl
    (fun _ member => absurd member List.not_mem_nil) rfl rfl rows decoded splittable _ _ _
    rfl _ rfl

end AsterxDriver.Parser
