import AsterxDriver.Parser.AntennaSplit
import AsterxDriver.Parser.Export
import AsterxDriver.Parser.SinkProjection

/-! # What a frame writes

For each kind of frame, the calls that the export makes on the files of the
antennas, and what it leaves pending. -/

namespace AsterxDriver.Parser

open Foundation ByteString Sbf FloatArithmetic RoundedArithmetic

/-! ## Frames of a recording -/

/-- Frames that `rebuild_sbf_frame` takes as they are. -/
def SbfFrame.Rebuildable (frame : SbfFrame) : Prop :=
  frame.rawId < 65536 ∧ 8 + frame.body.length ≤ 8188

theorem rebuildable_of_mem_iterFramesFrom (data : List Byte) (i : Nat) :
    ∀ frame ∈ iterFramesFrom data i, frame.Rebuildable := by
  fun_induction iterFramesFrom data i with
  | case1 i inside noSync induction => exact induction
  | case2 i inside sync length bad induction => exact induction
  | case3 i inside sync crc length good mismatch induction => exact induction
  | case4 i inside sync crc rawId length good matching induction =>
      refine List.forall_mem_cons.mpr ⟨⟨u16le_lt data (i + 4), ?_⟩, induction⟩
      change 8 + (slice data (i + 8) (i + length)).length ≤ 8188
      rw [length_slice _ (by omega)]
      omega
  | case5 i short => exact fun _ member => absurd member List.not_mem_nil

theorem rebuildable_of_mem_iterFrames {data : List Byte} {frame : SbfFrame}
    (member : frame ∈ iterFrames data) : frame.Rebuildable :=
  rebuildable_of_mem_iterFramesFrom data 0 frame member

/-! ## Measurement epochs -/

section

variable {F : Type} [RoundedArithmetic F]

/-- Every antenna has at most as many rows as one block can count. -/
def Splittable (rows : List (Row F)) : Prop :=
  ∀ antenna, ((rowsByAntenna rows).getD antenna []).length ≤ 255

/-- The frame that holds the rows of one antenna. -/
def IsEpochPiece (rawId : Nat) (rows : List (Row F)) (piece : List Byte) : Prop :=
  ∃ body, buildMeasEpochBody rows = .ok body ∧ rebuildSbfFrame rawId body = .ok piece

theorem exists_epochPiece {header : EpochHeader} (valid : header.Valid) {rows : List (Row F)}
    (coherent : Coherent header rows) {rawId : Nat} (bound : rawId < 65536) {antenna : Nat}
    (present : antenna ∈ rowsByAntenna rows)
    (few : ((rowsByAntenna rows).getD antenna []).length ≤ 255) :
    ∃ piece, IsEpochPiece rawId ((rowsByAntenna rows).getD antenna []) piece := by
  rcases split_readBack valid (coherent.rowsByAntenna antenna) (rowsByAntenna_ne_nil present) few
      bound with ⟨body, built, piece, rebuilt, _⟩
  exact ⟨piece, body, built, rebuilt⟩

/-- The calls for the blocks of all antennas. -/
theorem writeMeasEpochs_eq {rawId : Nat} {grouped : Dict Nat (List (Row F))}
    {piece : Nat → List Byte}
    (pieces : ∀ ant ∈ grouped.sortedKeys, IsEpochPiece rawId (grouped.getD ant []) (piece ant))
    (sbfSink : SbfSink) :
    writeMeasEpochs rawId grouped sbfSink =
      sbfSink.run (grouped.sortedKeys.map fun ant => .write ant (piece ant)) := by
  rw [writeMeasEpochs, SbfSink.run, List.foldlM_map]
  apply Checked.foldlM_congr
  intro sbfSink ant member
  rcases pieces ant member with ⟨body, built, rebuilt⟩
  rw [built, Checked.ok_bind, rebuilt, Checked.ok_bind]
  rfl

end

/-! ## Extra measurements -/

/-- The frame that holds the sub-blocks of one antenna. -/
def extraPiece (frame : SbfFrame) (indices : List Nat) : List Byte :=
  wireBytes (rebuiltFrame frame.rawId
    (extraBody frame.body (keptBlocks (extraBlocks frame.body) indices)))

theorem length_keptBlocks_le {blocks : List (List Byte)} {indices : List Nat}
    (distinct : indices.Nodup) : (keptBlocks blocks indices).length ≤ blocks.length := by
  have within : indices.filter (· < blocks.length) ⊆ List.range blocks.length := by
    intro k member
    rw [List.mem_range]
    simpa using (List.mem_filter.mp member).2
  have fewer := ((distinct.filter _).subperm within).length_le
  rwa [List.length_range, ← List.length_map, ← keptBlocks] at fewer

theorem length_extraBody_kept {body : List Byte} {indices : List Nat} (distinct : indices.Nodup)
    (some : keptBlocks (extraBlocks body) indices ≠ []) :
    (extraBody body (keptBlocks (extraBlocks body) indices)).length ≤ body.length := by
  have long := (long_of_keptBlocks some).1
  have total := length_extraBlocks_mul_le body
  have fewer := Nat.mul_le_mul_right (u8 body 7)
    (length_keptBlocks_le distinct : _ ≤ (extraBlocks body).length)
  rw [length_extraBody long fun _ member => length_of_mem_keptBlocks member]
  omega

section

variable {frame : SbfFrame} (rebuildable : frame.Rebuildable) {indices : List Nat}
  (distinct : indices.Nodup) (some : keptBlocks (extraBlocks frame.body) indices ≠ [])

include rebuildable distinct some

theorem rebuildSbfFrame_extra :
    rebuildSbfFrame frame.rawId (extraBody frame.body
      (keptBlocks (extraBlocks frame.body) indices)) = .ok (extraPiece frame indices) := by
  have := length_extraBody_kept distinct some
  exact rebuildSbfFrame_ok rebuildable.1 (by have := rebuildable.2; omega)

omit rebuildable distinct in
/-- The sub-blocks of the written frame are those that were kept. -/
theorem extraBlocks_rebuilt :
    extraBlocks (rebuiltFrame frame.rawId (extraBody frame.body
      (keptBlocks (extraBlocks frame.body) indices))).body =
      keptBlocks (extraBlocks frame.body) indices := by
  rcases long_of_keptBlocks some with ⟨long, positive⟩
  refine (extraBlocks_readBack long some positive
    (fun _ member => length_of_mem_keptBlocks member) ?_).1
  rw [List.length_replicate]
  omega

theorem measExtraSubblocks_extraPiece :
    ∃ alone, iterFrames (extraPiece frame indices) = [alone] ∧
      extraBlocks alone.body = keptBlocks (extraBlocks frame.body) indices := by
  have fits := length_extraBody_kept distinct some
  refine ⟨_, iterFrames_rebuilt rebuildable.1 (by have := rebuildable.2; omega), ?_⟩
  exact extraBlocks_rebuilt some

end

/-- The calls for the sub-blocks of all antennas that have some. -/
def extraCalls (frame : SbfFrame) (pending : Dict Nat (List Nat)) : List SinkCall :=
  (pending.sortedKeys.filter fun ant =>
    keptBlocks (extraBlocks frame.body) (pending.getD ant []) ≠ []).map fun ant =>
      .write ant (extraPiece frame (pending.getD ant []))

/-- The counts after them. -/
def extraCounts (frame : SbfFrame) (pending : Dict Nat (List Nat)) (counts : Dict Nat Nat) :
    Dict Nat Nat :=
  (pending.sortedKeys.filter fun ant =>
    keptBlocks (extraBlocks frame.body) (pending.getD ant []) ≠ []).foldl (fun counts ant =>
      counts.modify ant 0 (· + (pending.getD ant []).length)) counts

theorem writeMeasExtras_eq {frame : SbfFrame} (rebuildable : frame.Rebuildable)
    {pending : Dict Nat (List Nat)} (distinct : ∀ ant, (pending.getD ant []).Nodup)
    (sbfSink : SbfSink) (counts : Dict Nat Nat) :
    writeMeasExtras frame pending (sbfSink, counts) = (do
      let after ← sbfSink.run (extraCalls frame pending)
      return (after, extraCounts frame pending counts)) := by
  unfold writeMeasExtras extraCalls extraCounts
  generalize pending.sortedKeys = keys
  induction keys generalizing sbfSink counts with
  | nil => rfl
  | cons ant later induction =>
      rw [List.foldlM_cons, buildMeasExtraBody_eq, Checked.ok_bind]
      by_cases nothing : keptBlocks (extraBlocks frame.body) (pending.getD ant []) = []
      · rw [if_pos nothing, List.filter_cons_of_neg (by simpa using nothing)]
        exact induction sbfSink counts
      · rw [if_neg nothing, List.filter_cons_of_pos (by simpa using nothing)]
        dsimp only
        rw [rebuildSbfFrame_extra rebuildable (distinct ant) nothing, Checked.ok_bind,
          List.map_cons, List.foldl_cons, SbfSink.run, List.foldlM_cons, SbfSink.call]
        cases sbfSink.write ant (extraPiece frame (pending.getD ant [])) with
        | error fault => rfl
        | ok after => exact induction after _

/-- The time at the front of a body. -/
def blockTime (body : List Byte) : Option (Nat × Nat) :=
  if body.length ≥ 6 then some (u32le body 0, u16le body 4) else none

theorem readExtraTime_eq (body : List Byte) : readExtraTime body = .ok (blockTime body) := by
  rw [readExtraTime, blockTime]
  split
  · simp (disch := omega) only [unpackI, unpackH, unpackFrom_eq, Checked.ok_bind,
      Checked.pure_eq_ok]
  · rfl

theorem exportMeasExtra_eq {frame : SbfFrame} (rebuildable : frame.Rebuildable)
    {state : ExportState} (distinct : ∀ ant, (state.pendingExtraIndices.getD ant []).Nodup) :
    exportMeasExtra state frame =
      if state.pendingExtraIndices.keys ≠ [] ∧ blockTime frame.body = state.pendingEpochTime then
        (do
          let sbfSink ← state.sbfSink.run (extraCalls frame state.pendingExtraIndices)
          return { state with
            sbfSink := sbfSink
            extrasByAnt := extraCounts frame state.pendingExtraIndices state.extrasByAnt })
      else .ok state := by
  rw [exportMeasExtra, readExtraTime_eq, Checked.ok_bind]
  split
  · rw [writeMeasExtras_eq rebuildable distinct]
    cases state.sbfSink.run (extraCalls frame state.pendingExtraIndices) <;> rfl
  · rfl

/-! ## Other frames -/

theorem exportEndOfMeas_eq {frame : SbfFrame} (rebuildable : frame.Rebuildable)
    (state : ExportState) :
    exportEndOfMeas state frame = (do
      let sbfSink ← state.sbfSink.run (state.pendingEpochAntennas.map fun ant =>
        .write ant (wireBytes (rebuiltFrame frame.rawId frame.body)))
      return { state with
        sbfSink := sbfSink
        pendingExtraIndices := ∅
        pendingEpochAntennas := []
        pendingEpochTime := none }) := by
  rw [exportEndOfMeas, SbfSink.run, List.foldlM_map]
  simp only [rebuildSbfFrame_ok rebuildable.1 rebuildable.2, Checked.ok_bind]
  rfl

theorem exportCommon_eq {frame : SbfFrame} (rebuildable : frame.Rebuildable)
    (state : ExportState) :
    exportCommon state frame = (do
      let sbfSink ← state.sbfSink.run
        [.writeCommon (wireBytes (rebuiltFrame frame.rawId frame.body))]
      return { state with sbfSink := sbfSink }) := by
  rw [exportCommon, rebuildSbfFrame_ok rebuildable.1 rebuildable.2, Checked.ok_bind,
    SbfSink.run, List.foldlM_cons]
  rw [SbfSink.call]
  cases state.sbfSink.writeCommon (wireBytes (rebuiltFrame frame.rawId frame.body)) <;> rfl

/-- What later frames need to know of the last measurement epoch. -/
structure Pending where
  extraIndices : Dict Nat (List Nat)
  epochAntennas : List Nat
  epochTime : Option (Nat × Nat)

def ExportState.pending (state : ExportState) : Pending :=
  ⟨state.pendingExtraIndices, state.pendingEpochAntennas, state.pendingEpochTime⟩

theorem emit_sbfSink (state : ExportState) (name : String) (headers : List String)
    (rows : List CsvRow) :
    (state.emit name headers rows).sbfSink = state.sbfSink ∧
      (state.emit name headers rows).pending = state.pending := by
  unfold ExportState.emit
  induction rows generalizing state with
  | nil => exact ⟨rfl, rfl⟩
  | cons row later induction => exact induction _

theorem csvRows_ok (frame : SbfFrame) : ∃ files, csvRows frame = .ok files := by
  unfold csvRows
  split
  · rcases decodeExtSensorMeasEpoch_ok frame with ⟨epochRow, epoch⟩
    rw [epoch]
    exact Checked.exists_return_eq_ok (decodeExtSensorMeas_ok frame) _
  · exact Checked.exists_return_eq_ok (decodeAttEuler_ok frame) _
  · exact Checked.exists_return_eq_ok (decodeAttCovEuler_ok frame) _
  · exact Checked.exists_return_eq_ok (decodeAuxAntPositions_ok frame) _
  · exact Checked.exists_return_eq_ok (decodeImuSetup_ok frame) _
  · exact Checked.exists_return_eq_ok (decodeQualityInd_ok frame) _
  · exact Checked.exists_return_eq_ok (decodeReceiverTime_ok frame) _
  · exact Checked.exists_return_eq_ok (decodeReceiverStatus_ok frame) _
  · exact Checked.exists_return_eq_ok (decodeChannelStatus_ok frame) _
  · exact Checked.exists_return_eq_ok (decodeExtSensorStatus_ok frame) _
  · exact Checked.exists_return_eq_ok (decodeExtSensorInfo_ok frame) _
  · exact ⟨_, rfl⟩
  · exact Checked.exists_return_eq_ok (rawBlockRow_ok frame) _

/-- The CSV files do not touch the files of the antennas. -/
theorem exportCsv_ok (state : ExportState) (frame : SbfFrame) :
    ∃ after, exportCsv state frame = .ok after ∧ after.sbfSink = state.sbfSink ∧
      after.pending = state.pending := by
  rcases csvRows_ok frame with ⟨files, decoded⟩
  refine ⟨_, by rw [exportCsv, decoded]; rfl, ?_⟩
  clear decoded
  induction files generalizing state with
  | nil => exact ⟨rfl, rfl⟩
  | cons file later induction =>
      rcases emit_sbfSink state file.1 file.2.1 file.2.2 with ⟨sameSink, samePending⟩
      rcases induction (state.emit file.1 file.2.1 file.2.2) with ⟨laterSink, laterPending⟩
      exact ⟨laterSink.trans sameSink, laterPending.trans samePending⟩

end AsterxDriver.Parser
