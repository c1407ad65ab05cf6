import AsterxDriver.Parser.Reencoding
import AsterxDriver.Parser.SummaryCounts

/-! # Exporting an exported file

The file of an antenna is a recording itself. Its export writes the same file,
but for phases that have no pseudorange. The arithmetic is exact. -/

namespace AsterxDriver.Parser

open Foundation ByteString Sbf FloatArithmetic RoundedArithmetic

/-! ## One frame of the recording -/

/-- The calls for a frame, and what is pending after it. -/
inductive Emits (F : Type) [RoundedArithmetic F] (pending : Pending) (frame : SbfFrame) :
    Pending → List SinkCall → Prop
  | epoch {rows : List (Row F)} {calls : List SinkCall} (isEpoch : frame.blockId = 4027)
      (decoded : decodeMeasEpoch frame = .ok rows)
      (coherent : Coherent (epochHeader frame.body) rows) (splittable : Splittable rows)
      (written : IsEpochCalls frame.rawId rows calls) :
      Emits F pending frame (pendingAfter rows) calls
  | extra (isExtra : frame.blockId = 4000) (waiting : pending.extraIndices.keys ≠ [])
      (sameTime : blockTime frame.body = pending.epochTime)
      (distinct : ∀ ant, (pending.extraIndices.getD ant []).Nodup) :
      Emits F pending frame pending (extraCalls frame pending.extraIndices)
  | ended (isEnd : frame.blockId = 5922) :
      Emits F pending frame ⟨∅, [], none⟩ (pending.epochAntennas.map fun ant =>
        .write ant (wireBytes (rebuiltFrame frame.rawId frame.body)))
  | common (isCommon : frame.blockId ∈ gnssCommonBlockIds) :
      Emits F pending frame pending [.writeCommon (wireBytes (rebuiltFrame frame.rawId frame.body))]
  | nothing (unused : frame.blockId = 4000 →
        ¬(pending.extraIndices.keys ≠ [] ∧ blockTime frame.body = pending.epochTime))
      (notEpoch : frame.blockId ≠ 4027) (notEnd : frame.blockId ≠ 5922)
      (notCommon : frame.blockId ∉ gnssCommonBlockIds) :
      Emits F pending frame pending []

theorem not_common {blockId : Nat} (special : blockId = 4027 ∨ blockId = 4000 ∨ blockId = 5922) :
    blockId ∉ gnssCommonBlockIds := by
  rcases special with rfl | rfl | rfl <;> decide

section

variable {F : Type} [RoundedArithmetic F] {outDir : String} {frames : List SbfFrame}
  {calls : List SinkCall} {state : ExportState} {frame : SbfFrame}

/-- What is reached after the calls of a frame. -/
theorem Reached.step (reached : Reached outDir frames calls state)
    (rebuildable : frame.Rebuildable) {after : ExportState}
    (result : exportFrame F state frame = .ok after) {newCalls : List SinkCall}
    (run : state.sbfSink.run newCalls = .ok after.sbfSink) :
    Reached outDir (frames ++ [frame]) (calls ++ newCalls) after := by
  have processed : exportFrames F state [frame] = .ok after := by
    rw [exportFrames, List.foldlM_cons, result]
    rfl
  rcases reached.of_exportFrames (List.forall_mem_singleton.mpr rebuildable) processed with
    ⟨_, afterReached⟩
  rcases reached.mirrors.run newCalls with ⟨sink, run', mirrors⟩
  rw [run] at run'
  cases run'
  exact { afterReached with mirrors := mirrors }

/-- A frame that is exported. -/
theorem exists_emits (reached : Reached outDir frames calls state)
    (rebuildable : frame.Rebuildable) (splits : frame.blockId = 4027 → frame.Splits F) :
    ∃ after newCalls, exportFrame F state frame = .ok after ∧
      Reached outDir (frames ++ [frame]) (calls ++ newCalls) after ∧
      Emits F state.pending frame after.pending newCalls := by
  have mirrors : (state.countBlock frame).sbfSink.Mirrors outDir calls := reached.mirrors
  by_cases epoch : frame.blockId = 4027
  · rcases decodeMeasEpoch_spec (F := F) frame with ⟨rows, decoded, coherent⟩
    have splittable := splits epoch rows decoded
    rcases exportFrame_epoch reached rebuildable epoch decoded coherent splittable with
      ⟨after, newCalls, result, isCalls, _, afterReached, pending⟩
    refine ⟨after, newCalls, result, afterReached, ?_⟩
    rw [pending]
    exact .epoch epoch decoded coherent splittable isCalls
  by_cases extra : frame.blockId = 4000
  · have distinct : ∀ ant, ((state.countBlock frame).pendingExtraIndices.getD ant []).Nodup :=
      reached.distinct
    have exported : exportFrame F state frame = exportMeasExtra (state.countBlock frame) frame := by
      rw [exportFrame, if_neg epoch, if_pos extra]
    rw [exportMeasExtra_eq rebuildable distinct] at exported
    split at exported
    · rename_i used
      rcases mirrors.run (extraCalls frame (state.countBlock frame).pendingExtraIndices) with
        ⟨sink, run, _⟩
      rw [run] at exported
      exact ⟨_, _, exported, reached.step rebuildable exported run,
        .extra extra used.1 used.2 reached.distinct⟩
    · rename_i unused
      refine ⟨_, [], exported, reached.step rebuildable exported rfl, ?_⟩
      exact .nothing (fun _ => unused) epoch (by omega) (not_common (.inr (.inl extra)))
  by_cases isEnd : frame.blockId = 5922
  · have exported : exportFrame F state frame = exportEndOfMeas (state.countBlock frame) frame := by
      rw [exportFrame, if_neg epoch, if_neg extra, if_pos isEnd]
    rw [exportEndOfMeas_eq rebuildable] at exported
    rcases mirrors.run ((state.countBlock frame).pendingEpochAntennas.map fun ant =>
      .write ant (wireBytes (rebuiltFrame frame.rawId frame.body))) with ⟨sink, run, _⟩
    rw [run] at exported
    exact ⟨_, _, exported, reached.step rebuildable exported run, .ended isEnd⟩
  by_cases common : frame.blockId ∈ gnssCommonBlockIds
  · have exported : exportFrame F state frame = exportCommon (state.countBlock frame) frame := by
      rw [exportFrame, if_neg epoch, if_neg extra, if_neg isEnd, if_pos common]
    rw [exportCommon_eq rebuildable] at exported
    rcases mirrors.run [.writeCommon (wireBytes (rebuiltFrame frame.rawId frame.body))] with
      ⟨sink, run, _⟩
    rw [run] at exported
    exact ⟨_, _, exported, reached.step rebuildable exported run, .common common⟩
  · have exported : exportFrame F state frame = exportCsv (state.countBlock frame) frame := by
      rw [exportFrame, if_neg epoch, if_neg extra, if_neg isEnd, if_neg common]
    rcases exportCsv_ok (state.countBlock frame) frame with ⟨after, result, sink, pending⟩
    rw [result] at exported
    refine ⟨after, [], exported, reached.step rebuildable exported (by rw [sink]; rfl), ?_⟩
    rw [pending]
    exact .nothing (fun isExtra => absurd isExtra extra) epoch isEnd common

theorem emits_of_exportFrame (reached : Reached outDir frames calls state)
    (rebuildable : frame.Rebuildable) {after : ExportState}
    (result : exportFrame F state frame = .ok after) :
    ∃ newCalls, Reached outDir (frames ++ [frame]) (calls ++ newCalls) after ∧
      Emits F state.pending frame after.pending newCalls := by
  have splits : frame.blockId = 4027 → frame.Splits F := by
    intro epoch
    by_contra crowded
    rcases exportFrame_error reached rebuildable epoch crowded with ⟨_, _, failed⟩
    rw [result] at failed
    cases failed
  rcases exists_emits reached rebuildable splits with ⟨same, newCalls, exported, following, emits⟩
  rw [result] at exported
  cases exported
  exact ⟨newCalls, following, emits⟩

end

/-! ## A frame of the file -/

/-- Only this antenna is pending, with so many rows. -/
structure Alone (ant count : Nat) (time : Option (Nat × Nat)) (pending : Pending) : Prop where
  keys : pending.extraIndices.sortedKeys = [ant]
  indices : pending.extraIndices.getD ant [] = List.range count
  antennas : pending.epochAntennas = [ant]
  time : pending.epochTime = time

theorem Alone.waiting {ant count : Nat} {time : Option (Nat × Nat)} {pending : Pending}
    (alone : Alone ant count time pending) : pending.extraIndices.keys ≠ [] := by
  have member : ant ∈ pending.extraIndices := by
    rw [← Dict.mem_sortedKeys, alone.keys]
    exact List.mem_singleton.mpr rfl
  exact List.ne_nil_of_mem member

/-- Sub-blocks that were kept are all kept again. -/
theorem keptBlocks_range {kept : List (List Byte)} {count : Nat} (enough : kept.length ≤ count) :
    keptBlocks kept (List.range count) = kept := by
  have within : (List.range count).filter (· < kept.length) = List.range kept.length := by
    rw [← Nat.add_sub_cancel' enough, List.range_add, List.filter_append]
    have front : (List.range kept.length).filter (· < kept.length) = List.range kept.length :=
      List.filter_eq_self.mpr fun k member => by simpa using member
    have back : ((List.range (count - kept.length)).map (kept.length + ·)).filter
        (· < kept.length) = [] := by
      rw [List.filter_eq_nil_iff]
      intro k member
      rcases List.mem_map.mp member with ⟨other, _, rfl⟩
      simp
    rw [front, back, List.append_nil]
  rw [keptBlocks, within]
  apply List.ext_getElem
  · rw [List.length_map, List.length_range]
  · intro k _ inside
    rw [List.getElem_map, List.getElem_range, List.getD_eq_getElem _ _ inside]

/-- The header of a rebuilt body is written again. -/
theorem extraBody_twice {body : List Byte} (long : 12 ≤ body.length) (kept : List (List Byte))
    (rest : List Byte) :
    extraBody (extraBody body kept ++ rest) kept = extraBody body kept ∧
      blockTime (extraBody body kept ++ rest) = blockTime body := by
  have front : (body.take 6).length = 6 := by
    rw [List.length_take]
    omega
  have behind : (body.take 6 ++ [BitVec.ofNat 8 (kept.length % 256),
      BitVec.ofNat 8 (u8 body 7)]).length = 8 := by
    rw [List.length_append, front]
    rfl
  have shape : extraBody body kept ++ rest = body.take 6 ++ ([BitVec.ofNat 8 (kept.length % 256),
      BitVec.ofNat 8 (u8 body 7)] ++ (slice body 8 12 ++ (kept.flatten ++ rest))) := by
    simp only [extraBody, List.append_assoc]
  have times : ∀ more, u32le (body.take 6 ++ more) 0 = u32le body 0 ∧
      u16le (body.take 6 ++ more) 4 = u16le body 4 := by
    intro more
    have tow := u32le_append_left (body.take 6) (body.drop 6) (show 0 + 3 < _ by omega)
    have wnc := u16le_append_left (body.take 6) (body.drop 6) (show 4 + 1 < _ by omega)
    rw [List.take_append_drop] at tow wnc
    rw [u32le_append_left _ _ (by omega), u16le_append_left _ _ (by omega), tow, wnc]
    exact ⟨rfl, rfl⟩
  constructor
  · have sbLen : u8 (extraBody body kept ++ rest) 7 = u8 body 7 := by
      rw [shape, show 7 = (body.take 6).length + 1 by omega, u8_append_right, front]
      simp only [List.cons_append, u8_cons_succ, u8_cons_zero, BitVec.toNat_ofNat]
      exact Nat.mod_eq_of_lt (u8_lt body 7)
    have middle : slice (extraBody body kept ++ rest) 8 12 = slice body 8 12 := by
      rw [shape, ← List.append_assoc, slice_eq_take_drop, List.drop_left' behind,
        List.take_left' (length_slice _ long)]
    have start : (extraBody body kept ++ rest).take 6 = body.take 6 := by
      rw [shape, List.take_left' front]
    rw [extraBody, sbLen, middle, start, extraBody]
  · rw [shape, blockTime, blockTime, (times _).1, (times _).2, if_pos, if_pos (by omega)]
    rw [List.length_append, front]
    omega

theorem sortedKeys_of_only {V : Type} {dict : Dict Nat V} {ant : Nat}
    (only : ∀ key, key ∈ dict ↔ key = ant) : dict.sortedKeys = [ant] := by
  apply List.perm_singleton.mp
  rw [List.perm_ext_iff_of_nodup (Dict.nodup_sortedKeys dict) (List.nodup_singleton ant)]
  intro key
  rw [Dict.mem_sortedKeys, only, List.mem_singleton]

theorem epochTime_pendingAfter {rows : List (Row ℚ)} {header : EpochHeader}
    (coherent : Coherent header rows) (nonempty : rows ≠ []) :
    (pendingAfter rows).epochTime = some (header.tow, header.wnc) := by
  cases rows with
  | nil => exact absurd rfl nonempty
  | cons first later =>
      rw [← (coherent first (List.mem_cons_self ..)).1]
      rfl

section

variable {rows : List (Row ℚ)} {ant : Nat} (own : ∀ row ∈ rows, row.antennaId = ant)

include own

theorem rowsByAntenna_of_own : (rowsByAntenna rows).getD ant [] = rows := by
  rw [rowsByAntenna_eq_filter, List.filter_eq_self]
  intro row member
  simpa using own row member

theorem positions_of_own : positions rows ant = List.range rows.length := by
  have all : rows.zipIdx.filter (·.1.antennaId = ant) = rows.zipIdx := by
    rw [List.filter_eq_self]
    intro entry member
    simpa using own entry.1 (List.fst_mem_of_mem_zipIdx member)
  rw [positions, all, List.zipIdx_map_snd, List.range_eq_range']

/-- An epoch with the rows of one antenna. -/
theorem alone_pendingAfter {header : EpochHeader} (coherent : Coherent header rows)
    (nonempty : rows ≠ []) :
    (rowsByAntenna rows).sortedKeys = [ant] ∧
      Alone ant rows.length (some (header.tow, header.wnc)) (pendingAfter rows) := by
  have known : ∀ key, (∃ row ∈ rows, row.antennaId = key) ↔ key = ant := by
    intro key
    constructor
    · rintro ⟨row, member, rfl⟩
      exact own row member
    · rintro rfl
      rcases List.exists_mem_of_ne_nil rows nonempty with ⟨row, member⟩
      exact ⟨row, member, own row member⟩
  have keys : (rowsByAntenna rows).sortedKeys = [ant] :=
    sortedKeys_of_only fun key => Dict.mem_group.trans (known key)
  refine ⟨keys, ?_, ?_, keys, epochTime_pendingAfter coherent nonempty⟩
  · exact sortedKeys_of_only fun key => mem_extraIndices.trans (known key)
  · exact (getD_extraIndices rows ant).trans (positions_of_own own)

end

section

variable {outDir : String} {frames : List SbfFrame} {calls : List SinkCall}
  {state : ExportState} (reached : Reached outDir frames calls state)

/-- The number of a frame that was written. -/
theorem rebuildable_ofDriver {frame : Frame} (intact : Intact frame) (offset : Nat) :
    (ofDriver offset frame).Rebuildable := by
  refine ⟨frame.rawId.isLt, ?_⟩
  change 8 + frame.body.length ≤ 8188
  rw [intact.size]
  exact intact.valid.most

include reached

/-- The end of the measurements is written again. -/
theorem reexport_end {frame : Frame} (intact : Intact frame) (offset : Nat)
    (isEnd : (ofDriver offset frame).blockId = 5922) {ant : Nat}
    (antennas : state.pending.epochAntennas = [ant]) :
    ∃ final, exportFrame ℚ state (ofDriver offset frame) = .ok final ∧
      Reached outDir (frames ++ [ofDriver offset frame]) (calls ++ [.write ant (wireBytes frame)])
        final := by
  rcases exists_emits (F := ℚ) reached (rebuildable_ofDriver intact offset)
    (fun epoch => by omega) with ⟨final, newCalls, exported, following, emits⟩
  have same : rebuiltFrame (ofDriver offset frame).rawId (ofDriver offset frame).body = frame :=
    rebuiltFrame_of_intact intact
  generalize final.pending = after at emits
  cases emits with
  | epoch isEpoch => omega
  | extra isExtra => omega
  | ended =>
      rw [antennas, List.map_singleton, same] at following
      exact ⟨final, exported, following⟩
  | common isCommon => exact absurd isCommon (not_common (.inr (.inr isEnd)))
  | nothing _ _ notEnd => exact absurd isEnd notEnd

theorem reexport_common {frame : Frame} (intact : Intact frame) (offset : Nat)
    (isCommon : (ofDriver offset frame).blockId ∈ gnssCommonBlockIds) :
    ∃ final, exportFrame ℚ state (ofDriver offset frame) = .ok final ∧
      Reached outDir (frames ++ [ofDriver offset frame]) (calls ++ [.writeCommon (wireBytes frame)])
        final ∧ final.pending = state.pending := by
  have notEpoch : (ofDriver offset frame).blockId ≠ 4027 :=
    fun epoch => not_common (.inl epoch) isCommon
  rcases exists_emits (F := ℚ) reached (rebuildable_ofDriver intact offset)
    (fun epoch => absurd epoch notEpoch) with ⟨final, newCalls, exported, following, emits⟩
  have same : rebuiltFrame (ofDriver offset frame).rawId (ofDriver offset frame).body = frame :=
    rebuiltFrame_of_intact intact
  generalize pendingFinal : final.pending = after at emits
  cases emits with
  | epoch isEpoch => exact absurd isEpoch notEpoch
  | extra isExtra => exact absurd isCommon (not_common (.inr (.inl isExtra)))
  | ended isEnd => exact absurd isCommon (not_common (.inr (.inr isEnd)))
  | common =>
      rw [same] at following
      exact ⟨final, exported, following, pendingFinal⟩
  | nothing _ _ _ notCommon => exact absurd isCommon notCommon

theorem reexport_extra {frame : SbfFrame} (rebuildable : frame.Rebuildable)
    (named : frame.Named) (isExtra : frame.blockId = 4000) {indices : List Nat}
    (distinct : indices.Nodup) (some : keptBlocks (extraBlocks frame.body) indices ≠ [])
    {ant : Nat} (alone : Alone ant indices.length (blockTime frame.body) state.pending)
    {written : Frame} (isWritten : written = rebuiltFrame frame.rawId
      (extraBody frame.body (keptBlocks (extraBlocks frame.body) indices))) (offset : Nat) :
    ∃ final, exportFrame ℚ state (ofDriver offset written) = .ok final ∧
      Reached outDir (frames ++ [ofDriver offset written])
        (calls ++ [.write ant (wireBytes written)]) final ∧ final.pending = state.pending := by
  have fits := length_extraBody_kept distinct some
  have small := rebuildable.2
  have intact : Intact written := by
    rw [isWritten]
    exact rebuiltFrame_intact rebuildable.1 (by omega)
  have isExtraAgain : (ofDriver offset written).blockId = 4000 := by
    rw [isWritten, blockId_rebuilt rebuildable named, isExtra]
  have body : ∃ padding, (ofDriver offset written).body = extraBody frame.body
      (keptBlocks (extraBlocks frame.body) indices) ++ padding := by
    rw [isWritten]
    exact ⟨_, rfl⟩
  rcases body with ⟨padding, body⟩
  rcases extraBody_twice (long_of_keptBlocks some).1 (keptBlocks (extraBlocks frame.body) indices)
    padding with ⟨twice, time⟩
  rw [← body] at twice time
  have blocks : keptBlocks (extraBlocks (ofDriver offset written).body)
      (List.range indices.length) = keptBlocks (extraBlocks frame.body) indices := by
    have found : extraBlocks (ofDriver offset written).body =
        keptBlocks (extraBlocks frame.body) indices := by
      rw [isWritten]
      exact extraBlocks_rebuilt some
    rw [found]
    exact keptBlocks_range (length_keptBlocks_le_indices _ indices)
  have rawId : (ofDriver offset written).rawId = frame.rawId := by
    rw [isWritten]
    exact Nat.mod_eq_of_lt rebuildable.1
  have onlyCall : extraCalls (ofDriver offset written) state.pending.extraIndices =
      [.write ant (wireBytes written)] := by
    rw [extraCalls, alone.keys, List.filter_singleton, alone.indices, blocks,
      decide_eq_true some, cond_true, List.map_singleton, alone.indices, extraPiece, blocks,
      twice, rawId, ← isWritten]
  rcases exists_emits (F := ℚ) reached (rebuildable_ofDriver intact offset)
    (fun epoch => by omega) with ⟨final, newCalls, exported, following, emits⟩
  generalize pendingFinal : final.pending = after at emits
  cases emits with
  | epoch isEpoch => omega
  | extra =>
      rw [onlyCall] at following
      exact ⟨final, exported, following, pendingFinal⟩
  | ended isEnd => omega
  | common isCommon => exact absurd isCommon (not_common (.inr (.inl isExtraAgain)))
  | nothing unused =>
      exact absurd ⟨alone.waiting, time.trans alone.time.symm⟩ (unused isExtraAgain)

/-- An epoch of one antenna is written again with its fields settled. -/
theorem reexport_epoch {rawId : Nat} (bound : rawId < 65536) (isEpoch : rawId &&& 0x1FFF = 4027)
    {header : EpochHeader} (valid : header.Valid) {blocks : List Type1Fields} {ant : Nat}
    (written : ∀ fields ∈ blocks, IsWritten header fields ∧ antennaId fields.typeB = ant)
    (nonempty : blocks ≠ []) (few : blocks.length ≤ 255) (offset : Nat) {again settled : Frame}
    (isAgain : again = rebuiltFrame rawId (epochBody header blocks))
    (isSettled : settled = rebuiltFrame rawId (epochBody header
      (blocks.map Type1Fields.settled))) :
    ∃ final, exportFrame ℚ state (ofDriver offset again) = .ok final ∧
      Reached outDir (frames ++ [ofDriver offset again])
        (calls ++ [.write ant (wireBytes settled)]) final ∧
      Alone ant blocks.length (some (header.tow, header.wnc)) final.pending := by
  have small : 8 + (epochBody header blocks).length ≤ 8188 := by
    rw [length_epochBody]
    omega
  have intact : Intact again := by
    rw [isAgain]
    exact rebuiltFrame_intact bound small
  have rawIdAgain : (ofDriver offset again).rawId = rawId := by
    rw [isAgain]
    exact Nat.mod_eq_of_lt bound
  have isEpochAgain : (ofDriver offset again).blockId = 4027 := by
    change (ofDriver offset again).rawId &&& 0x1FFF = 4027
    rw [rawIdAgain, isEpoch]
  have body : (ofDriver offset again).body = epochBody header blocks := by
    rw [isAgain]
    refine padded_of_mod ?_
    rw [length_epochBody]
    omega
  rcases decodeMeasEpoch_written valid (fun fields member => (written fields member).1) nonempty
    few body with ⟨rows, decoded, rewrites⟩
  have own : ∀ row ∈ rows, row.antennaId = ant := by
    intro row member
    have among : row.antennaId ∈ rows.map Row.antennaId := List.mem_map_of_mem member
    rw [rewrites.antennas] at among
    rcases List.mem_map.mp among with ⟨fields, found, same⟩
    rw [← same]
    exact (written fields found).2
  have someRows : rows ≠ [] := by
    rintro rfl
    exact nonempty (List.eq_nil_of_length_eq_zero rewrites.length.symm)
  have splits : (ofDriver offset again).Splits ℚ := by
    intro others decodedAgain antenna
    rw [decoded] at decodedAgain
    cases decodedAgain
    rw [rowsByAntenna_eq_filter]
    have fewer := List.length_filter_le (fun row : Row ℚ => row.antennaId = antenna) rows
    have length := rewrites.length
    omega
  rcases alone_pendingAfter own rewrites.coherent someRows with ⟨keys, alone⟩
  rcases exists_emits (F := ℚ) reached (rebuildable_ofDriver intact offset) (fun _ => splits) with
    ⟨final, newCalls, exported, following, emits⟩
  generalize pendingFinal : final.pending = after at emits
  cases emits with
  | epoch _ decodedAgain _ _ isCalls =>
      rw [decoded] at decodedAgain
      cases decodedAgain
      rcases isCalls with ⟨piece, pieces, rfl⟩
      have present : ant ∈ rowsByAntenna rows := by
        rw [← Dict.mem_sortedKeys, keys]
        exact List.mem_singleton.mpr rfl
      rcases pieces ant present with ⟨built, isBuilt, rebuilt⟩
      rw [rowsByAntenna_of_own own, rewrites.built] at isBuilt
      cases isBuilt
      rw [rawIdAgain] at rebuilt
      have isPiece : piece ant = wireBytes settled := by
        rw [isSettled]
        exact (intact_of_rebuildSbfFrame rebuilt).2.2
      rw [keys, List.map_singleton, isPiece] at following
      rw [rewrites.length] at alone
      exact ⟨final, exported, following, pendingFinal ▸ alone⟩
  | extra isExtra => omega
  | ended isEnd => omega
  | common isCommon => exact absurd isCommon (not_common (.inl isEpochAgain))
  | nothing _ notEpoch => exact absurd isEpochAgain notEpoch

end

/-! ## Both exports -/

/-- The second export waits for this antenna whenever the first one does. -/
def Linked (ant : Nat) (pending again : Pending) : Prop :=
  (ant ∉ pending.epochAntennas ∧ pending.extraIndices.getD ant [] = []) ∨
    ant ∈ pending.epochAntennas ∧
      Alone ant (pending.extraIndices.getD ant []).length pending.epochTime again

/-- What becomes of a frame of the file. -/
inductive Settles : Frame → Frame → Prop
  | same {frame : Frame} (intact : Intact frame)
      (notEpoch : frame.rawId.toNat &&& 0x1FFF ≠ 4027) : Settles frame frame
  | epoch {rawId : Nat} {header : EpochHeader} {blocks : List Type1Fields}
      (bound : rawId < 65536) (isEpoch : rawId &&& 0x1FFF = 4027)
      (written : ∀ fields ∈ blocks, IsWritten header fields) (few : blocks.length ≤ 255) :
      Settles (rebuiltFrame rawId (epochBody header blocks))
        (rebuiltFrame rawId (epochBody header (blocks.map Type1Fields.settled)))

/-- The calls of both exports for one antenna. -/
structure Repeats (ant : Nat) (calls newCalls : List SinkCall) (held settled : List Frame) :
    Prop where
  own : ∀ other bytes, SinkCall.write other bytes ∈ newCalls → other = ant
  opens : (∃ bytes, SinkCall.write ant bytes ∈ calls) →
    ∃ bytes, SinkCall.write ant bytes ∈ newCalls
  projected : projection ant newCalls = settled.map wireBytes
  settles : List.Forall₂ Settles held settled

theorem Repeats.nothing {ant : Nat} {calls : List SinkCall}
    (silent : ∀ bytes, SinkCall.write ant bytes ∉ calls) : Repeats ant calls [] [] [] where
  own := fun _ _ member => absurd member List.not_mem_nil
  opens := fun ⟨bytes, member⟩ => absurd member (silent bytes)
  projected := rfl
  settles := .nil

theorem Repeats.append {ant : Nat} {calls newCalls later newLater : List SinkCall}
    {held settled more moreSettled : List Frame} (first : Repeats ant calls newCalls held settled)
    (second : Repeats ant later newLater more moreSettled) :
    Repeats ant (calls ++ later) (newCalls ++ newLater) (held ++ more)
      (settled ++ moreSettled) where
  own := by
    intro other bytes member
    rcases List.mem_append.mp member with member | member
    · exact first.own other bytes member
    · exact second.own other bytes member
  opens := by
    rintro ⟨bytes, member⟩
    rcases List.mem_append.mp member with member | member
    · rcases first.opens ⟨bytes, member⟩ with ⟨found, inside⟩
      exact ⟨found, List.mem_append_left _ inside⟩
    · rcases second.opens ⟨bytes, member⟩ with ⟨found, inside⟩
      exact ⟨found, List.mem_append_right _ inside⟩
  projected := by
    rw [projection_append, first.projected, second.projected, List.map_append]
  settles := List.rel_append first.settles second.settles

/-- Whatever the second export has reached, it repeats these calls when it reads the
frames that they left in the file. -/
def Repeatable (ant : Nat) (pending after : Pending) (calls : List SinkCall)
    (held : List Frame) : Prop :=
  projection ant calls = held.map wireBytes ∧
    ∀ {outDir : String} {frames : List SbfFrame} {before : List SinkCall} {state : ExportState}
      {files : List SbfFrame}, Reached outDir frames before state →
      Linked ant pending state.pending →
      List.Forall₂ (fun frame file => ∃ offset, file = ofDriver offset frame) held files →
      ∃ final newCalls settled, exportFrames ℚ state files = .ok final ∧
        Reached outDir (frames ++ files) (before ++ newCalls) final ∧
        Linked ant after final.pending ∧ Repeats ant calls newCalls held settled

section

variable {ant : Nat} {pending after : Pending} {calls : List SinkCall}

theorem repeatable_nothing (silent : ∀ bytes, SinkCall.write ant bytes ∉ calls)
    (empty : projection ant calls = [])
    (linked : ∀ again, Linked ant pending again → Linked ant after again) :
    Repeatable ant pending after calls [] := by
  refine ⟨empty, ?_⟩
  intro outDir frames before state files reached link read
  cases read
  refine ⟨state, [], [], rfl, ?_, linked _ link, .nothing silent⟩
  rwa [List.append_nil, List.append_nil]

/-- One frame in the file. -/
theorem repeatable_one {frame settled : Frame} {call : SinkCall}
    (projected : projection ant calls = [wireBytes frame])
    (own : ∀ other bytes, call = .write other bytes → other = ant)
    (opens : (∃ bytes, SinkCall.write ant bytes ∈ calls) → ∃ bytes, call = .write ant bytes)
    (written : projection ant [call] = [wireBytes settled]) (settles : Settles frame settled)
    (repeats : ∀ {outDir : String} {frames : List SbfFrame} {before : List SinkCall}
      {state : ExportState} (offset : Nat), Reached outDir frames before state →
      Linked ant pending state.pending →
      ∃ final, exportFrame ℚ state (ofDriver offset frame) = .ok final ∧
        Reached outDir (frames ++ [ofDriver offset frame]) (before ++ [call]) final ∧
        Linked ant after final.pending) :
    Repeatable ant pending after calls [frame] := by
  refine ⟨projected, ?_⟩
  intro outDir frames before state files reached link read
  cases read with
  | cons first rest =>
      cases rest
      rcases first with ⟨offset, rfl⟩
      rcases repeats offset reached link with ⟨final, exported, following, linked⟩
      refine ⟨final, [call], [settled], ?_, following, linked, ?_, ?_, written, .cons settles .nil⟩
      · rw [exportFrames, List.foldlM_cons, exported]
        rfl
      · intro other bytes member
        exact own other bytes (List.mem_singleton.mp member).symm
      · intro wrote
        rcases opens wrote with ⟨bytes, same⟩
        exact ⟨bytes, List.mem_singleton.mpr same.symm⟩

theorem Repeatable.append {middle : Pending} {later : List SinkCall} {held more : List Frame}
    (first : Repeatable ant pending middle calls held)
    (second : Repeatable ant middle after later more) :
    Repeatable ant pending after (calls ++ later) (held ++ more) := by
  refine ⟨by rw [projection_append, first.1, second.1, List.map_append], ?_⟩
  intro outDir frames before state files reached link read
  have readFirst := (List.forall₂_take_append files held more read.flip).flip
  have readSecond := (List.forall₂_drop_append files held more read.flip).flip
  rcases first.2 reached link readFirst with
    ⟨half, newCalls, settled, exported, halfReached, halfLinked, repeats⟩
  rcases second.2 halfReached halfLinked readSecond with
    ⟨final, newLater, moreSettled, exportedLater, following, linked, laterRepeats⟩
  rw [List.append_assoc, List.append_assoc, List.take_append_drop] at following
  refine ⟨final, newCalls ++ newLater, settled ++ moreSettled, ?_, following, linked,
    repeats.append laterRepeats⟩
  rw [← List.take_append_drop held.length files, exportFrames, List.foldlM_append,
    ← exportFrames, exported]
  exact exportedLater

/-! Every kind of frame can be repeated. -/

/-- No call for an antenna that is not among those of the calls. -/
theorem write_notMem {keys : List Nat} {piece : Nat → List Byte} (absent : ant ∉ keys)
    (bytes : List Byte) :
    SinkCall.write ant bytes ∉ keys.map fun key => SinkCall.write key (piece key) := by
  intro member
  rcases List.mem_map.mp member with ⟨key, among, same⟩
  cases same
  exact absent among

theorem projection_own (bytes : List Byte) : projection ant [.write ant bytes] = [bytes] := by
  simp [projection]

theorem length_positions (rows : List (Row ℚ)) (ant : Nat) :
    (positions rows ant).length = ((rowsByAntenna rows).getD ant []).length :=
  (forall₂_positions rows ant).length_eq.symm

variable {frame : SbfFrame} (rebuildable : frame.Rebuildable) (named : frame.Named)

include rebuildable

theorem repeatable_epoch (isEpoch : frame.rawId &&& 0x1FFF = 4027) {rows : List (Row ℚ)}
    (coherent : Coherent (epochHeader frame.body) rows) (splittable : Splittable rows)
    (isCalls : IsEpochCalls frame.rawId rows calls) :
    ∃ held, Repeatable ant pending (pendingAfter rows) calls held := by
  rcases isCalls with ⟨piece, pieces, rfl⟩
  have projected := projection_map_write (Dict.nodup_sortedKeys (rowsByAntenna rows)) piece ant
  by_cases present : ant ∈ (rowsByAntenna rows).sortedKeys
  · rw [if_pos present] at projected
    have isKey := Dict.mem_sortedKeys.mp present
    have nonempty := rowsByAntenna_ne_nil isKey
    have own : ∀ row ∈ (rowsByAntenna rows).getD ant [], row.antennaId = ant := by
      rw [rowsByAntenna_eq_filter]
      intro row member
      simpa using (List.mem_filter.mp member).2
    have valid := epochHeader_valid frame.body
    rcases exists_epochBody valid (coherent.rowsByAntenna ant) nonempty (splittable ant) own with
      ⟨blocks, length, written, built⟩
    rcases pieces ant isKey with ⟨body, built', rebuilt⟩
    rw [built] at built'
    cases built'
    rw [(intact_of_rebuildSbfFrame rebuilt).2.2] at projected
    have few : blocks.length ≤ 255 := by
      rw [length]
      exact splittable ant
    have someBlocks : blocks ≠ [] := by
      rintro rfl
      exact nonempty (List.eq_nil_of_length_eq_zero length.symm)
    have someRows : rows ≠ [] := by
      rintro rfl
      exact nonempty rfl
    refine ⟨_, repeatable_one projected (fun _ _ same => ?_) (fun _ => ⟨_, rfl⟩)
      (projection_own _) (.epoch rebuildable.1 isEpoch
        (fun fields member => (written fields member).1) few) ?_⟩
    · cases same
      rfl
    · intro outDir frames before state offset reached _
      rcases reexport_epoch reached rebuildable.1 isEpoch valid written someBlocks few offset rfl
        rfl with
        ⟨final, exported, following, alone⟩
      refine ⟨final, exported, following, .inr ⟨present, ?_⟩⟩
      have indices : (pendingAfter rows).extraIndices.getD ant [] = positions rows ant :=
        getD_extraIndices rows ant
      rw [indices, length_positions, ← length, epochTime_pendingAfter coherent someRows]
      exact alone
  · rw [if_neg present] at projected
    have noRows : ((rowsByAntenna rows).getD ant []).length = 0 := by
      by_contra some
      have isKey := mem_rowsByAntenna_of_length_pos (Nat.pos_of_ne_zero some)
      exact present (Dict.mem_sortedKeys.mpr isKey)
    rw [← length_positions] at noRows
    refine ⟨[], repeatable_nothing (write_notMem present) projected fun _ _ => .inl ⟨present, ?_⟩⟩
    exact (getD_extraIndices rows ant).trans (List.eq_nil_of_length_eq_zero noRows)

include named

/-- The number of a rebuilt block. -/
theorem blockId_rawId (body : List Byte) :
    (rebuiltFrame frame.rawId body).rawId.toNat &&& 0x1FFF = frame.blockId :=
  blockId_rebuilt rebuildable named body 0

theorem repeatable_extra (isExtra : frame.blockId = 4000)
    (sameTime : blockTime frame.body = pending.epochTime)
    (distinct : ∀ ant, (pending.extraIndices.getD ant []).Nodup) :
    ∃ held, Repeatable ant pending pending (extraCalls frame pending.extraIndices) held := by
  have projected := projection_extraCalls frame pending.extraIndices ant
  by_cases nothing : keptBlocks (extraBlocks frame.body) (pending.extraIndices.getD ant []) = []
  · rw [if_pos nothing] at projected
    refine ⟨[], repeatable_nothing ?_ projected fun _ linked => linked⟩
    apply write_notMem
    simp [nothing]
  · rw [if_neg nothing] at projected
    have fits := length_extraBody_kept (distinct ant) nothing
    have small := rebuildable.2
    have intact := rebuiltFrame_intact rebuildable.1 (show 8 + (extraBody frame.body (keptBlocks
      (extraBlocks frame.body) (pending.extraIndices.getD ant []))).length ≤ 8188 by omega)
    have notEpoch : (rebuiltFrame frame.rawId (extraBody frame.body (keptBlocks
        (extraBlocks frame.body) (pending.extraIndices.getD ant [])))).rawId.toNat &&& 0x1FFF ≠
          4027 := by
      rw [blockId_rawId rebuildable named, isExtra]
      norm_num
    refine ⟨_, repeatable_one projected (fun _ _ same => ?_) (fun _ => ⟨_, rfl⟩)
      (projection_own _) (.same intact notEpoch) ?_⟩
    · cases same
      rfl
    · intro outDir frames before state offset reached linked
      rcases linked with ⟨_, noIndices⟩ | ⟨present, alone⟩
      · rw [noIndices] at nothing
        exact absurd rfl nothing
      · rw [← sameTime] at alone
        rcases reexport_extra reached rebuildable named isExtra (distinct ant) nothing alone rfl
          offset with ⟨final, exported, following, same⟩
        refine ⟨final, exported, following, .inr ⟨present, ?_⟩⟩
        rw [same, ← sameTime]
        exact alone

theorem repeatable_end (isEnd : frame.blockId = 5922) (distinct : pending.epochAntennas.Nodup) :
    ∃ held, Repeatable ant pending ⟨∅, [], none⟩ (pending.epochAntennas.map fun ant =>
      .write ant (wireBytes (rebuiltFrame frame.rawId frame.body))) held := by
  have projected := projection_map_write distinct
    (fun _ => wireBytes (rebuiltFrame frame.rawId frame.body)) ant
  have cleared : ∀ again, Linked ant ⟨∅, [], none⟩ again :=
    fun _ => .inl ⟨List.not_mem_nil, rfl⟩
  by_cases present : ant ∈ pending.epochAntennas
  · rw [if_pos present] at projected
    have intact := rebuiltFrame_intact rebuildable.1 rebuildable.2
    have block := blockId_rawId rebuildable named frame.body
    refine ⟨_, repeatable_one projected (fun _ _ same => ?_) (fun _ => ⟨_, rfl⟩)
      (projection_own _) (.same intact (by omega)) ?_⟩
    · cases same
      rfl
    · intro outDir frames before state offset reached linked
      rcases linked with ⟨absent, _⟩ | ⟨_, alone⟩
      · exact absurd present absent
      · rcases reexport_end reached intact offset (block.trans isEnd) alone.antennas with
          ⟨final, exported, following⟩
        exact ⟨final, exported, following, cleared _⟩
  · rw [if_neg present] at projected
    exact ⟨[], repeatable_nothing (write_notMem present) projected fun again _ => cleared again⟩

theorem repeatable_common (isCommon : frame.blockId ∈ gnssCommonBlockIds) :
    ∃ held, Repeatable ant pending pending
      [.writeCommon (wireBytes (rebuiltFrame frame.rawId frame.body))] held := by
  have intact := rebuiltFrame_intact rebuildable.1 rebuildable.2
  have block := blockId_rawId rebuildable named frame.body
  have notEpoch : (rebuiltFrame frame.rawId frame.body).rawId.toNat &&& 0x1FFF ≠ 4027 := by
    rw [block]
    exact fun epoch => not_common (.inl epoch) isCommon
  have projected : projection ant [.writeCommon (wireBytes
      (rebuiltFrame frame.rawId frame.body))] =
        [wireBytes (rebuiltFrame frame.rawId frame.body)] := rfl
  refine ⟨_, repeatable_one projected (fun _ _ impossible => ?_) (fun ⟨_, member⟩ => ?_) projected
    (.same intact notEpoch) ?_⟩
  · cases impossible
  · cases List.mem_singleton.mp member
  · intro outDir frames before state offset reached linked
    have commonAgain : (ofDriver offset (rebuiltFrame frame.rawId frame.body)).blockId ∈
        gnssCommonBlockIds := by
      rw [blockId_rebuilt rebuildable named]
      exact isCommon
    rcases reexport_common reached intact offset commonAgain with
      ⟨final, exported, following, same⟩
    exact ⟨final, exported, following, same.symm ▸ linked⟩

/-- Every frame of the recording. -/
theorem Emits.repeatable (emits : Emits ℚ pending frame after calls)
    (distinct : pending.epochAntennas.Nodup) (ant : Nat) :
    ∃ held, Repeatable ant pending after calls held := by
  cases emits with
  | epoch isEpoch _ coherent splittable isCalls =>
      exact repeatable_epoch rebuildable (named ▸ isEpoch) coherent splittable isCalls
  | extra isExtra _ sameTime distinct =>
      exact repeatable_extra rebuildable named isExtra sameTime distinct
  | ended isEnd => exact repeatable_end rebuildable named isEnd distinct
  | common isCommon => exact repeatable_common rebuildable named isCommon
  | nothing =>
      exact ⟨[], repeatable_nothing (fun _ => List.not_mem_nil) rfl fun _ linked => linked⟩

end

/-! ## Whole recordings -/

theorem Emits.distinct {F : Type} [RoundedArithmetic F] {pending after : Pending}
    {frame : SbfFrame} {calls : List SinkCall} (emits : Emits F pending frame after calls)
    (distinct : pending.epochAntennas.Nodup) : after.epochAntennas.Nodup := by
  cases emits with
  | epoch => exact Dict.nodup_sortedKeys _
  | extra => exact distinct
  | ended => exact List.nodup_nil
  | common => exact distinct
  | nothing => exact distinct

/-- The first export of a recording can be repeated from the file of any antenna. -/
theorem repeatable_of_exportFrames {outDir : String} {before : List SbfFrame}
    {calls : List SinkCall} {state final : ExportState}
    (reached : Reached outDir before calls state)
    (distinct : state.pending.epochAntennas.Nodup) {frames : List SbfFrame}
    (good : ∀ frame ∈ frames, frame.Rebuildable ∧ frame.Named)
    (exported : exportFrames ℚ state frames = .ok final) (ant : Nat) :
    ∃ newCalls held, Reached outDir (before ++ frames) (calls ++ newCalls) final ∧
      Repeatable ant state.pending final.pending newCalls held := by
  induction frames generalizing before calls state with
  | nil =>
      cases exported
      refine ⟨[], [], by rwa [List.append_nil, List.append_nil], ?_⟩
      exact repeatable_nothing (fun _ => List.not_mem_nil) rfl fun _ linked => linked
  | cons frame later induction =>
      rcases List.forall_mem_cons.mp good with ⟨⟨rebuildable, named⟩, laterGood⟩
      rw [exportFrames, List.foldlM_cons] at exported
      rcases Checked.bind_eq_ok.mp exported with ⟨middle, first, rest⟩
      rcases emits_of_exportFrame reached rebuildable first with ⟨newCalls, following, emits⟩
      rcases emits.repeatable rebuildable named distinct ant with ⟨held, repeatable⟩
      rcases induction following (emits.distinct distinct) laterGood rest with
        ⟨laterCalls, more, allReached, laterRepeatable⟩
      rw [List.append_assoc, List.append_assoc] at allReached
      exact ⟨newCalls ++ laterCalls, held ++ more, allReached, repeatable.append laterRepeatable⟩

/-- The file of an antenna, if it has one. -/
def ExportSummary.file (summary : ExportSummary) (ant : Nat) : Option (List Byte) :=
  (summary.state.sbfSink.paths.lookup ant).map fun path =>
    summary.state.sbfSink.disk.getD path []

/-! ## Unchanged files -/

/-- A phase has a pseudorange to refer to. -/
def Type1Fields.Anchored (fields : Type1Fields) : Prop :=
  fields.misc = 0 ∧ fields.codeLsb = 0 → fields.carrierLsb = 0 ∧ fields.carrierMsb = -128

theorem Type1Fields.anchored_settled (fields : Type1Fields) : fields.settled.Anchored := by
  intro unknown
  by_cases gone : fields.misc = 0 ∧ fields.codeLsb = 0
  · rw [Type1Fields.settled, if_pos gone]
    exact ⟨rfl, rfl⟩
  · rw [Type1Fields.settled, if_neg gone] at unknown
    exact absurd unknown gone

theorem Type1Fields.Anchored.settled_eq {fields : Type1Fields} (anchored : fields.Anchored) :
    fields.settled = fields := by
  rw [Type1Fields.settled]
  split
  · rename_i unknown
    rw [← (anchored unknown).1, ← (anchored unknown).2]
  · rfl

/-- Every Type-1 sub-block of a body. -/
def AnchoredBody (body : List Byte) : Prop :=
  ∀ k, 12 + 20 * k + 20 ≤ body.length → (type1Fields (body.drop (12 + 20 * k))).Anchored

/-- Every measurement epoch of a file. -/
def AnchoredFile (file : List Byte) : Prop :=
  ∀ frame ∈ iterFrames file, frame.blockId = 4027 → AnchoredBody frame.body

theorem drop_blocks (blocks : List Type1Fields) (k : Nat) :
    (blocks.flatMap Type1Fields.block).drop (20 * k) =
      (blocks.drop k).flatMap Type1Fields.block := by
  induction k generalizing blocks with
  | zero => rfl
  | succ k induction =>
      cases blocks with
      | nil => rfl
      | cons fields later =>
          rw [List.flatMap_cons, Nat.mul_succ, Nat.add_comm, ← List.drop_drop,
            List.drop_left' fields.length_block, induction, List.drop_succ_cons]

theorem Type1Fields.Fits.settled {fields : Type1Fields} (fits : fields.Fits) :
    fields.settled.Fits := by
  unfold Type1Fields.settled
  split
  · exact { fits with carrierLsb := by norm_num, carrierMsb := by norm_num }
  · exact fits

section

variable (header : EpochHeader) {blocks : List Type1Fields}
  (fits : ∀ fields ∈ blocks, fields.Fits)

include fits

/-- The sub-blocks stand where they are expected. -/
theorem type1Fields_epochBody {k : Nat} (inside : k < blocks.length) :
    type1Fields ((epochBody header blocks).drop (12 + 20 * k)) = blocks[k] := by
  have front : (epochHeaderBytes header blocks.length).length = 12 := rfl
  rw [← List.drop_drop, epochBody, List.drop_left' front, drop_blocks,
    List.drop_eq_getElem_cons inside, List.flatMap_cons]
  exact (Type1Fields.type1Fields_block (fits _ (List.getElem_mem inside)) _).1

theorem anchoredBody_iff :
    AnchoredBody (epochBody header blocks) ↔ ∀ fields ∈ blocks, fields.Anchored := by
  unfold AnchoredBody
  rw [length_epochBody]
  constructor
  · intro anchored fields member
    rcases List.getElem_of_mem member with ⟨k, inside, rfl⟩
    rw [← type1Fields_epochBody header fits inside]
    exact anchored k (by omega)
  · intro anchored k inside
    rw [type1Fields_epochBody header fits (by omega)]
    exact anchored _ (List.getElem_mem _)

end

def AnchoredFrame (frame : Frame) : Prop :=
  frame.rawId.toNat &&& 0x1FFF = 4027 → AnchoredBody frame.body

theorem anchoredFile_iff {frames : List Frame} (intact : ∀ frame ∈ frames, Intact frame) :
    AnchoredFile (frames.flatMap wireBytes) ↔ ∀ frame ∈ frames, AnchoredFrame frame := by
  unfold AnchoredFile
  rw [iterFrames_wireBytes intact]
  conv_rhs => rw [← map_snd_contiguous 0 frames]
  simp only [List.forall_mem_map]
  rfl

/-- The body of a frame with written sub-blocks. -/
theorem body_epochFrame (rawId : Nat) (header : EpochHeader) (blocks : List Type1Fields) :
    (rebuiltFrame rawId (epochBody header blocks)).body = epochBody header blocks := by
  refine padded_of_mod ?_
  rw [length_epochBody]
  omega

section

variable {frame settled : Frame} (settles : Settles frame settled)

include settles

theorem Settles.intact : Intact frame ∧ Intact settled := by
  cases settles with
  | same intact => exact ⟨intact, intact⟩
  | @epoch rawId header blocks bound _ _ few =>
      have small : ∀ blocks' : List Type1Fields, blocks'.length = blocks.length →
          8 + (epochBody header blocks').length ≤ 8188 := by
        intro blocks' length
        rw [length_epochBody]
        omega
      exact ⟨rebuiltFrame_intact bound (small _ rfl),
        rebuiltFrame_intact bound (small _ (List.length_map _))⟩

/-- Nothing is left to settle. -/
theorem Settles.anchored : AnchoredFrame settled := by
  cases settles with
  | same _ notEpoch => exact fun isEpoch => absurd isEpoch notEpoch
  | epoch _ _ written =>
      intro _
      rw [body_epochFrame, anchoredBody_iff]
      · intro fields member
        rcases List.mem_map.mp member with ⟨before, _, rfl⟩
        exact before.anchored_settled
      · intro fields member
        rcases List.mem_map.mp member with ⟨before, inside, rfl⟩
        exact (written before inside).fits.settled

theorem Settles.eq_of_anchored (anchored : AnchoredFrame frame) : settled = frame := by
  cases settles with
  | same => rfl
  | @epoch rawId header blocks bound isEpoch written few =>
      have rawId : (rebuiltFrame rawId (epochBody header blocks)).rawId.toNat = rawId :=
        Nat.mod_eq_of_lt bound
      have all := anchored (by rw [rawId, isEpoch])
      rw [body_epochFrame, anchoredBody_iff _ fun fields member => (written fields member).fits]
        at all
      have unchanged : blocks.map Type1Fields.settled = blocks := by
        rw [List.map_congr_left fun fields member => (all fields member).settled_eq, List.map_id']
      rw [unchanged]

end

theorem intact_of_settles {held settled : List Frame}
    (settles : List.Forall₂ Settles held settled) :
    (∀ frame ∈ held, Intact frame) ∧ ∀ frame ∈ settled, Intact frame := by
  induction settles with
  | nil => exact ⟨List.forall_mem_nil _, List.forall_mem_nil _⟩
  | cons first _ induction =>
      exact ⟨List.forall_mem_cons.mpr ⟨first.intact.1, induction.1⟩,
        List.forall_mem_cons.mpr ⟨first.intact.2, induction.2⟩⟩

/-- All frames of a file. -/
theorem settled_file {held settled : List Frame} (settles : List.Forall₂ Settles held settled) :
    (settled.flatMap wireBytes = held.flatMap wireBytes ↔
      AnchoredFile (held.flatMap wireBytes)) ∧ AnchoredFile (settled.flatMap wireBytes) := by
  have each : (∀ frame ∈ settled, AnchoredFrame frame) ∧
      ((∀ frame ∈ held, AnchoredFrame frame) → settled = held) := by
    induction settles with
    | nil => exact ⟨List.forall_mem_nil _, fun _ => rfl⟩
    | cons first _ induction =>
        refine ⟨List.forall_mem_cons.mpr ⟨first.anchored, induction.1⟩, ?_⟩
        intro all
        rcases List.forall_mem_cons.mp all with ⟨firstAnchored, laterAnchored⟩
        rw [first.eq_of_anchored firstAnchored, induction.2 laterAnchored]
  rcases intact_of_settles settles with ⟨heldIntact, settledIntact⟩
  have after := (anchoredFile_iff settledIntact).mpr each.1
  refine ⟨⟨fun unchanged => unchanged ▸ after, fun before => ?_⟩, after⟩
  rw [each.2 ((anchoredFile_iff heldIntact).mp before)]

/-! ## The export of a file -/

/-- The frames that a file was written with are read from it. -/
theorem forall₂_read (start : Nat) (frames : List Frame) :
    List.Forall₂ (fun frame file => ∃ offset, file = ofDriver offset frame) frames
      ((contiguous start frames).map fun found => ofDriver found.1 found.2) := by
  induction frames generalizing start with
  | nil => exact .nil
  | cons frame later induction => exact .cons ⟨start, rfl⟩ (induction _)

section

variable {data : List Byte} {outDir : String} {disk : Dict String (List Byte)}
  {summary : ExportSummary} (completed : exportRecording ℚ data outDir disk = .ok summary)

/-- The file of an antenna after some calls. -/
theorem file_of_mirrors {summary : ExportSummary} {outDir : String} {calls : List SinkCall}
    (mirrors : summary.state.sbfSink.Mirrors outDir calls) (ant : Nat) :
    summary.file ant =
      if ant ∈ openOrder calls then some (projection ant calls).flatten else none := by
  rw [ExportSummary.file, mirrors.paths]
  by_cases isOpen : ant ∈ openOrder calls
  · rw [if_pos isOpen, if_pos isOpen, Option.map_some, ← (mirrors.holds ant isOpen).1,
      SbfSink.content, SbfSink.pathFor, mirrors.directory]
  · rw [if_neg isOpen, if_neg isOpen, Option.map_none]

include completed

/-- The frames in the file of an antenna, and their export. -/
theorem exists_repeatable (ant : Nat) :
    ∃ calls held final, summary.state.sbfSink.Mirrors outDir calls ∧
      Repeatable ant ⟨∅, [], none⟩ final calls held := by
  rcases Checked.bind_eq_ok.mp completed with ⟨state, exported, returned⟩
  cases returned
  have good : ∀ frame ∈ iterFrames data, frame.Rebuildable ∧ frame.Named :=
    fun frame member => ⟨rebuildable_of_mem_iterFrames member, named_of_mem_iterFrames member⟩
  rcases repeatable_of_exportFrames (.fresh outDir (cleanupGeneratedGnssOutputs outDir disk))
    List.nodup_nil good exported ant with ⟨calls, held, reached, repeatable⟩
  exact ⟨calls, held, _, reached.mirrors, repeatable⟩

/-- The export of an antenna's file has one file, and what is in it is settled. -/
theorem reexport {ant : Nat} {file : List Byte} (isFile : summary.file ant = some file)
    (outDir' : String) (disk' : Dict String (List Byte)) :
    ∃ again file', exportRecording ℚ file outDir' disk' = .ok again ∧
      again.file ant = some file' ∧ (∀ other, other ≠ ant → again.file other = none) ∧
      (file' = file ↔ AnchoredFile file) ∧ AnchoredFile file' := by
  rcases exists_repeatable completed ant with ⟨calls, held, after, mirrors, projected, repeats⟩
  rw [file_of_mirrors mirrors] at isFile
  split at isFile
  · rename_i isOpen
    have content : held.flatMap wireBytes = file := by
      rw [List.flatMap_def, ← projected]
      exact Option.some.inj isFile
    rcases repeats (.fresh outDir' (cleanupGeneratedGnssOutputs outDir' disk'))
      (.inl ⟨List.not_mem_nil, rfl⟩) (forall₂_read 0 held) with
      ⟨final, newCalls, settled, exported, reached, _, again⟩
    have read := iterFrames_wireBytes (intact_of_settles again.settles).1
    rw [content] at read
    rw [← read] at exported
    have result : ∃ summary, exportRecording ℚ file outDir' disk' = .ok summary ∧
        summary.state.sbfSink = final.sbfSink := by
      rw [exportRecording, exported]
      exact ⟨_, rfl, rfl⟩
    rcases result with ⟨againSummary, result, sameSink⟩
    have files := file_of_mirrors (sameSink ▸ reached.mirrors)
    rw [List.nil_append] at files
    rcases settled_file again.settles with ⟨unchanged, anchored⟩
    rw [content] at unchanged
    refine ⟨againSummary, settled.flatMap wireBytes, result, ?_, ?_, unchanged, anchored⟩
    · have opens := again.opens ((mem_openOrder_iff ant calls).mp isOpen)
      rw [files, if_pos ((mem_openOrder_iff ant newCalls).mpr opens), again.projected,
        List.flatMap_def]
    · intro other different
      rw [files, if_neg]
      intro opens
      rcases (mem_openOrder_iff other newCalls).mp opens with ⟨bytes, member⟩
      exact different (again.own other bytes member)
  · cases isFile

end

/-- The export of an antenna's file has this antenna only. It is the same file if and only
if no phase in it is without a pseudorange; the export of what it wrote is, in any case,
the same file. -/
theorem reexport_settles (data : List Byte) (outDir : String) (disk : Dict String (List Byte))
    (summary : ExportSummary) (completed : exportRecording ℚ data outDir disk = .ok summary)
    (ant : Nat) (file : List Byte) (isFile : summary.file ant = some file)
    (outDir' : String) (disk' : Dict String (List Byte)) :
    ∃ again file', exportRecording ℚ file outDir' disk' = .ok again ∧
      again.file ant = some file' ∧ (∀ other, other ≠ ant → again.file other = none) ∧
      (file' = file ↔ AnchoredFile file) ∧
      ∀ outDir'' disk'', ∃ third, exportRecording ℚ file' outDir'' disk'' = .ok third ∧
        third.file ant = some file' ∧ ∀ other, other ≠ ant → third.file other = none := by
  rcases reexport completed isFile outDir' disk' with
    ⟨again, file', result, isFile', alone, unchanged, anchored⟩
  refine ⟨again, file', result, isFile', alone, unchanged, ?_⟩
  intro outDir'' disk''
  rcases reexport result isFile' outDir'' disk'' with
    ⟨third, file'', thirdResult, isFile'', aloneAgain, same, _⟩
  rw [same.mpr anchored] at isFile''
  exact ⟨third, thirdResult, isFile'', aloneAgain⟩

/-- Two signals of one satellite, with extra measurements. -/
theorem partlyServed_settles :
    ∃ summary file, exportRecording ℚ partlyServedRecording "out" ∅ = .ok summary ∧
      summary.file 0 = some file ∧
      ∃ again file', exportRecording ℚ file "again" ∅ = .ok again ∧
        again.file 0 = some file' ∧ (file' = file ↔ AnchoredFile file) := by
  have evaluated : ((exportRecording ℚ partlyServedRecording "out" ∅).toOption.bind
      (·.file 0)).isSome = true := by
    decide +kernel
  rcases Option.isSome_iff_exists.mp evaluated with ⟨file, found⟩
  rcases Option.bind_eq_some_iff.mp found with ⟨summary, completed, isFile⟩
  have completed := Checked.toOption_eq_some.mp completed
  rcases reexport_settles _ _ _ summary completed 0 file isFile "again" ∅ with
    ⟨again, file', result, isFile', _, unchanged, _⟩
  exact ⟨summary, file, completed, isFile, again, file', result, isFile', unchanged⟩

end AsterxDriver.Parser
