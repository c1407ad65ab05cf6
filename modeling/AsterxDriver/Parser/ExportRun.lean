import AsterxDriver.Parser.ExportSpec

/-! # Whole exports

The loop over the frames of a recording, and what holds between two frames. -/

namespace AsterxDriver.Parser

open Foundation ByteString Sbf FloatArithmetic RoundedArithmetic

/-! ## A measurement epoch -/

/-- The original indices of the rows of one antenna. -/
def positions {F : Type} (rows : List (Row F)) (antenna : Nat) : List Nat :=
  (rows.zipIdx.filter (·.1.antennaId = antenna)).map Prod.snd

theorem getD_extraIndices {F : Type} (rows : List (Row F)) (antenna : Nat) :
    (extraIndices rows).getD antenna [] = positions rows antenna :=
  Dict.getD_group (fun entry : Row F × Nat => entry.1.antennaId) Prod.snd rows.zipIdx antenna

theorem mem_extraIndices {F : Type} {rows : List (Row F)} {antenna : Nat} :
    antenna ∈ extraIndices rows ↔ ∃ row ∈ rows, row.antennaId = antenna := by
  refine Dict.mem_group.trans ?_
  conv_rhs => rw [← List.zipIdx_map_fst 0 rows]
  simp only [List.mem_map, exists_exists_and_eq_and]

theorem pairwise_positions {F : Type} (rows : List (Row F)) (antenna : Nat) :
    (positions rows antenna).Pairwise (· < ·) := by
  have order : (rows.zipIdx.map Prod.snd).Pairwise (· < ·) := by
    rw [List.zipIdx_map_snd]
    exact List.pairwise_lt_range'
  exact order.sublist (List.filter_sublist.map Prod.snd)

theorem nodup_positions {F : Type} (rows : List (Row F)) (antenna : Nat) :
    (positions rows antenna).Nodup :=
  (pairwise_positions rows antenna).imp fun less => less.ne

section

variable {F : Type} [RoundedArithmetic F]

/-- The rows of an epoch carry its time. -/
theorem epochTime_eq {frame : SbfFrame} {rows : List (Row F)}
    (decoded : decodeMeasEpoch frame = .ok rows)
    (coherent : Coherent (epochHeader frame.body) rows) (some : rows ≠ []) :
    rows.head?.map (fun row => (row.towMs, row.wnc)) = blockTime frame.body := by
  have long : 12 ≤ frame.body.length := by
    by_contra short
    rw [decodeMeasEpoch, if_pos (by omega)] at decoded
    cases decoded
    exact some rfl
  cases rows with
  | nil => exact absurd rfl some
  | cons first later =>
      have header := (coherent first (List.mem_cons_self ..)).1
      have tow : first.towMs = u32le frame.body 0 := congrArg EpochHeader.tow header
      have wnc : first.wnc = u16le frame.body 4 := congrArg EpochHeader.wnc header
      rw [blockTime, if_pos (by omega), List.head?_cons, Option.map_some, tow, wnc]

/-- Every antenna has few enough rows for one block. -/
def SbfFrame.Splits (F : Type) [RoundedArithmetic F] (frame : SbfFrame) : Prop :=
  ∀ rows : List (Row F), decodeMeasEpoch frame = .ok rows → Splittable rows

/-- What the epoch leaves pending. -/
def pendingAfter (rows : List (Row F)) : Pending where
  extraIndices := extraIndices rows
  epochAntennas := (rowsByAntenna rows).sortedKeys
  epochTime := rows.head?.map fun row => (row.towMs, row.wnc)

/-- One frame for each antenna of the epoch. -/
def IsEpochCalls (rawId : Nat) (rows : List (Row F)) (calls : List SinkCall) : Prop :=
  ∃ piece : Nat → List Byte,
    (∀ ant ∈ rowsByAntenna rows,
      IsEpochPiece rawId ((rowsByAntenna rows).getD ant []) (piece ant)) ∧
    calls = (rowsByAntenna rows).sortedKeys.map fun ant => .write ant (piece ant)

theorem exportMeasEpoch_ok {frame : SbfFrame} (rebuildable : frame.Rebuildable)
    {rows : List (Row F)} (decoded : decodeMeasEpoch frame = .ok rows)
    (coherent : Coherent (epochHeader frame.body) rows) (splittable : Splittable rows)
    {state : ExportState} {outDir : String} {calls : List SinkCall}
    (mirrors : state.sbfSink.Mirrors outDir calls) :
    ∃ after epochCalls, exportMeasEpoch F state frame = .ok after ∧
      IsEpochCalls frame.rawId rows epochCalls ∧
      state.sbfSink.run epochCalls = .ok after.sbfSink ∧
      after.sbfSink.Mirrors outDir (calls ++ epochCalls) ∧
      after.pending = pendingAfter rows ∧
      after.gnssAllByAnt = countRows state.gnssAllByAnt rows ∧
      after.extrasByAnt = state.extrasByAnt := by
  have each : ∀ ant, ∃ piece, ant ∈ rowsByAntenna rows →
      IsEpochPiece frame.rawId ((rowsByAntenna rows).getD ant []) piece := by
    intro ant
    by_cases present : ant ∈ rowsByAntenna rows
    · rcases exists_epochPiece (epochHeader_valid frame.body) coherent rebuildable.1 present
          (splittable ant) with ⟨piece, isPiece⟩
      exact ⟨piece, fun _ => isPiece⟩
    · exact ⟨[], fun member => absurd member present⟩
  choose piece pieces using each
  have written := writeMeasEpochs_eq (fun ant member => pieces ant (Dict.mem_sortedKeys.mp member))
    state.sbfSink
  rcases mirrors.run ((rowsByAntenna rows).sortedKeys.map fun ant => .write ant (piece ant)) with
    ⟨after, run, afterMirrors⟩
  rw [run] at written
  have result : exportMeasEpoch F state frame = .ok { state with
      sbfSink := after
      gnssType1ByAnt := countRows state.gnssType1ByAnt (rows.filter (·.level = 1))
      gnssAllByAnt := countRows state.gnssAllByAnt rows
      pendingExtraIndices := extraIndices rows
      pendingEpochAntennas := (rowsByAntenna rows).sortedKeys
      pendingEpochTime := rows.head?.map fun row => (row.towMs, row.wnc) } := by
    simp only [exportMeasEpoch, decoded, Checked.ok_bind, written]
    rfl
  exact ⟨_, _, result, ⟨piece, pieces, rfl⟩, run, afterMirrors, rfl, rfl, rfl⟩

/-! ## Between two frames -/

/-- The last measurement epoch among the frames. -/
def lastEpoch (frames : List SbfFrame) : Option SbfFrame :=
  (frames.filter (·.blockId = 4027)).getLast?

theorem lastEpoch_append (frames : List SbfFrame) (frame : SbfFrame) :
    lastEpoch (frames ++ [frame]) =
      if frame.blockId = 4027 then some frame else lastEpoch frames := by
  rw [lastEpoch, List.filter_append, List.filter_singleton]
  split
  · rename_i epoch
    rw [decide_eq_true epoch, cond_true, List.getLast?_concat]
  · rename_i other
    rw [decide_eq_false other, cond_false, List.append_nil, lastEpoch]

/-- What holds after the frames: the files follow some calls, and indices are
pending only for the last epoch. -/
structure Reached (outDir : String) (frames : List SbfFrame) (calls : List SinkCall)
    (state : ExportState) : Prop where
  mirrors : state.sbfSink.Mirrors outDir calls
  distinct : ∀ ant, (state.pending.extraIndices.getD ant []).Nodup
  time : state.pending.extraIndices.keys ≠ [] → ∃ epoch, lastEpoch frames = some epoch ∧
    state.pending.epochTime = blockTime epoch.body

theorem Reached.fresh (outDir : String) (disk : Dict String (List Byte)) :
    Reached outDir [] [] (.fresh outDir disk) where
  mirrors := .fresh outDir disk
  distinct := fun _ => List.nodup_nil
  time := fun impossible => absurd rfl impossible

section

variable {outDir : String} {frames : List SbfFrame} {calls : List SinkCall} {state : ExportState}
  (reached : Reached outDir frames calls state) {frame : SbfFrame}
  (rebuildable : frame.Rebuildable)

include reached rebuildable

/-- A frame that leaves the pending state alone. -/
theorem exportFrame_other (notEpoch : frame.blockId ≠ 4027) (notEnd : frame.blockId ≠ 5922) :
    ∃ after newCalls, exportFrame F state frame = .ok after ∧
      state.sbfSink.run newCalls = .ok after.sbfSink ∧
      Reached outDir (frames ++ [frame]) (calls ++ newCalls) after ∧
      after.pending = state.pending := by
  have mirrors : (state.countBlock frame).sbfSink.Mirrors outDir calls := reached.mirrors
  have following : ∀ {after : ExportState} {newCalls : List SinkCall},
      after.sbfSink.Mirrors outDir (calls ++ newCalls) → after.pending = state.pending →
      Reached outDir (frames ++ [frame]) (calls ++ newCalls) after := by
    intro after newCalls afterMirrors same
    refine ⟨afterMirrors, ?_, ?_⟩
    · rw [same]
      exact reached.distinct
    · rw [same, lastEpoch_append, if_neg notEpoch]
      exact reached.time
  rw [exportFrame, if_neg notEpoch]
  by_cases extra : frame.blockId = 4000
  · have distinct : ∀ ant, ((state.countBlock frame).pendingExtraIndices.getD ant []).Nodup :=
      reached.distinct
    rw [if_pos extra, exportMeasExtra_eq rebuildable distinct]
    split
    · rcases mirrors.run (extraCalls frame (state.countBlock frame).pendingExtraIndices) with
        ⟨after, run, afterMirrors⟩
      rw [run]
      exact ⟨_, _, rfl, run, following afterMirrors rfl, rfl⟩
    · exact ⟨_, [], rfl, rfl, following (by rwa [List.append_nil]) rfl, rfl⟩
  · rw [if_neg extra, if_neg notEnd]
    by_cases common : frame.blockId ∈ gnssCommonBlockIds
    · rw [if_pos common, exportCommon_eq rebuildable]
      rcases mirrors.run [.writeCommon (wireBytes (rebuiltFrame frame.rawId frame.body))] with
        ⟨after, run, afterMirrors⟩
      rw [run]
      exact ⟨_, _, rfl, run, following afterMirrors rfl, rfl⟩
    · rcases exportCsv_ok (state.countBlock frame) frame with ⟨after, result, sameSink, samePending⟩
      rw [if_neg common]
      refine ⟨after, [], result, ?_, following ?_ samePending, samePending⟩
      · rw [sameSink]
        rfl
      · rwa [sameSink, List.append_nil]

/-- An epoch replaces what was pending. -/
theorem exportFrame_epoch (epoch : frame.blockId = 4027) {rows : List (Row F)}
    (decoded : decodeMeasEpoch frame = .ok rows)
    (coherent : Coherent (epochHeader frame.body) rows) (splittable : Splittable rows) :
    ∃ after newCalls, exportFrame F state frame = .ok after ∧
      IsEpochCalls frame.rawId rows newCalls ∧
      state.sbfSink.run newCalls = .ok after.sbfSink ∧
      Reached outDir (frames ++ [frame]) (calls ++ newCalls) after ∧
      after.pending = pendingAfter rows := by
  have mirrors : (state.countBlock frame).sbfSink.Mirrors outDir calls := reached.mirrors
  rcases exportMeasEpoch_ok rebuildable decoded coherent splittable mirrors with
    ⟨after, newCalls, result, isCalls, run, afterMirrors, pending, _⟩
  refine ⟨after, newCalls, ?_, isCalls, run, ⟨afterMirrors, ?_, ?_⟩, pending⟩
  · rw [exportFrame, if_pos epoch]
    exact result
  · intro ant
    rw [pending]
    exact (getD_extraIndices rows ant).symm ▸ nodup_positions rows ant
  · rw [pending, lastEpoch_append, if_pos epoch]
    intro some
    have nonempty : rows ≠ [] := by
      rintro rfl
      exact some rfl
    exact ⟨frame, rfl, epochTime_eq decoded coherent nonempty⟩

/-- The end of the measurements clears it. -/
theorem exportFrame_end (isEnd : frame.blockId = 5922) :
    ∃ after newCalls, exportFrame F state frame = .ok after ∧
      state.sbfSink.run newCalls = .ok after.sbfSink ∧
      Reached outDir (frames ++ [frame]) (calls ++ newCalls) after := by
  have mirrors : (state.countBlock frame).sbfSink.Mirrors outDir calls := reached.mirrors
  rw [exportFrame, if_neg (by omega), if_neg (by omega), if_pos isEnd,
    exportEndOfMeas_eq rebuildable]
  rcases mirrors.run ((state.countBlock frame).pendingEpochAntennas.map fun ant =>
      .write ant (wireBytes (rebuiltFrame frame.rawId frame.body))) with
    ⟨after, run, afterMirrors⟩
  rw [run]
  refine ⟨_, _, rfl, run, afterMirrors, ?_, ?_⟩
  · exact fun _ => List.nodup_nil
  · exact fun impossible => absurd rfl impossible

/-- Every frame is processed, unless it is an epoch that cannot be split. -/
theorem exportFrame_ok (splits : frame.blockId = 4027 → frame.Splits F) :
    ∃ after newCalls, exportFrame F state frame = .ok after ∧
      state.sbfSink.run newCalls = .ok after.sbfSink ∧
      Reached outDir (frames ++ [frame]) (calls ++ newCalls) after := by
  by_cases epoch : frame.blockId = 4027
  · rcases decodeMeasEpoch_spec (F := F) frame with ⟨rows, decoded, coherent⟩
    rcases exportFrame_epoch reached rebuildable epoch decoded coherent
        (splits epoch rows decoded) with ⟨after, newCalls, result, _, run, afterReached, _⟩
    exact ⟨after, newCalls, result, run, afterReached⟩
  · by_cases isEnd : frame.blockId = 5922
    · exact exportFrame_end reached rebuildable isEnd
    · rcases exportFrame_other (F := F) reached rebuildable epoch isEnd with
        ⟨after, newCalls, result, run, afterReached, _⟩
      exact ⟨after, newCalls, result, run, afterReached⟩

end

/-- A run over frames that can all be processed. -/
theorem exportFrames_ok {outDir : String} {before : List SbfFrame} {calls : List SinkCall}
    {state : ExportState} (reached : Reached outDir before calls state) {frames : List SbfFrame}
    (rebuildable : ∀ frame ∈ frames, frame.Rebuildable)
    (splits : ∀ frame ∈ frames, frame.blockId = 4027 → frame.Splits F) :
    ∃ after newCalls, exportFrames F state frames = .ok after ∧
      Reached outDir (before ++ frames) (calls ++ newCalls) after := by
  induction frames generalizing before calls state with
  | nil => exact ⟨state, [], rfl, by rwa [List.append_nil, List.append_nil]⟩
  | cons frame later induction =>
      rcases List.forall_mem_cons.mp rebuildable with ⟨firstRebuildable, laterRebuildable⟩
      rcases List.forall_mem_cons.mp splits with ⟨firstSplits, laterSplits⟩
      rcases exportFrame_ok reached firstRebuildable firstSplits with
        ⟨middle, firstCalls, first, _, middleReached⟩
      rcases induction middleReached laterRebuildable laterSplits with
        ⟨after, laterCalls, rest, afterReached⟩
      refine ⟨after, firstCalls ++ laterCalls, ?_, ?_⟩
      · rw [exportFrames, List.foldlM_cons, first, Checked.ok_bind]
        exact rest
      · rwa [List.append_assoc, List.append_assoc] at afterReached

end

end AsterxDriver.Parser
