import AsterxDriver.Parser.ExportRun

/-! # Exports that complete

An epoch is split by antenna unless one antenna has more rows than a block can
count. That is the only thing that stops the loop. -/

namespace AsterxDriver.Parser

open Foundation ByteString Sbf FloatArithmetic RoundedArithmetic

def tooManyObservations (count : Nat) : PyError :=
  .valueError s!"too many observations for one MeasEpoch: {count}"

section

variable {F : Type} [RoundedArithmetic F]

theorem buildMeasEpochBody_tooMany {rows : List (Row F)} (many : 255 < rows.length) :
    buildMeasEpochBody rows = .error (tooManyObservations rows.length) := by
  cases rows with
  | nil => exact absurd many (Nat.not_lt_zero 255)
  | cons first later => exact if_pos many

/-- The antennas before the crowded one are written, then the loop stops. -/
theorem foldlM_epochs_error {frame : SbfFrame} (rebuildable : frame.Rebuildable)
    {rows : List (Row F)} (coherent : Coherent (epochHeader frame.body) rows) {keys : List Nat}
    (present : ∀ ant ∈ keys, ant ∈ rowsByAntenna rows)
    (crowded : ∃ ant ∈ keys, 255 < ((rowsByAntenna rows).getD ant []).length)
    {sbfSink : SbfSink} {outDir : String} {calls : List SinkCall}
    (mirrors : sbfSink.Mirrors outDir calls) :
    ∃ count, 255 < count ∧ keys.foldlM (fun sbfSink ant => do
      let body ← buildMeasEpochBody ((rowsByAntenna rows).getD ant [])
      let frameBytes ← rebuildSbfFrame frame.rawId body
      sbfSink.write ant frameBytes) sbfSink = .error (tooManyObservations count) := by
  induction keys generalizing sbfSink calls with
  | nil =>
      rcases crowded with ⟨_, member, _⟩
      exact absurd member List.not_mem_nil
  | cons ant later induction =>
      rcases List.forall_mem_cons.mp present with ⟨first, others⟩
      by_cases many : 255 < ((rowsByAntenna rows).getD ant []).length
      · refine ⟨_, many, ?_⟩
        rw [List.foldlM_cons, buildMeasEpochBody_tooMany many]
        rfl
      · rcases exists_epochPiece (epochHeader_valid frame.body) coherent rebuildable.1 first
            (not_lt.mp many) with ⟨piece, body, built, rebuilt⟩
        rcases mirrors.call (.write ant piece) with ⟨after, written, afterMirrors⟩
        have stillCrowded : ∃ ant ∈ later, 255 < ((rowsByAntenna rows).getD ant []).length := by
          rcases crowded with ⟨other, member, crowd⟩
          rcases List.mem_cons.mp member with rfl | member
          · exact absurd crowd many
          · exact ⟨other, member, crowd⟩
        rcases induction others stillCrowded afterMirrors with ⟨count, more, result⟩
        refine ⟨count, more, ?_⟩
        rw [List.foldlM_cons, built, Checked.ok_bind, rebuilt, Checked.ok_bind]
        rw [SbfSink.call] at written
        rw [written]
        exact result

theorem exportFrame_error {outDir : String} {frames : List SbfFrame} {calls : List SinkCall}
    {state : ExportState} (reached : Reached outDir frames calls state) {frame : SbfFrame}
    (rebuildable : frame.Rebuildable) (epoch : frame.blockId = 4027)
    (crowded : ¬frame.Splits F) :
    ∃ count, 255 < count ∧ exportFrame F state frame = .error (tooManyObservations count) := by
  rcases decodeMeasEpoch_spec (F := F) frame with ⟨rows, decoded, coherent⟩
  have mirrors : (state.countBlock frame).sbfSink.Mirrors outDir calls := reached.mirrors
  have many : ∃ ant ∈ (rowsByAntenna rows).sortedKeys,
      255 < ((rowsByAntenna rows).getD ant []).length := by
    by_contra few
    push Not at few
    refine crowded fun other decoded' => ?_
    rw [decoded] at decoded'
    cases decoded'
    intro antenna
    by_contra big
    push Not at big
    have present := mem_rowsByAntenna_of_length_pos (Nat.zero_lt_of_lt big)
    exact absurd (few antenna (Dict.mem_sortedKeys.mpr present)) (by omega)
  rcases foldlM_epochs_error rebuildable coherent
      (fun ant member => Dict.mem_sortedKeys.mp member) many mirrors with ⟨count, more, result⟩
  refine ⟨count, more, ?_⟩
  rw [exportFrame, if_pos epoch]
  simp only [exportMeasEpoch, decoded, Checked.ok_bind, writeMeasEpochs, result]
  rfl

theorem exportFrames_error {outDir : String} {before : List SbfFrame} {calls : List SinkCall}
    {state : ExportState} (reached : Reached outDir before calls state) {frames : List SbfFrame}
    (rebuildable : ∀ frame ∈ frames, frame.Rebuildable)
    (crowded : ∃ frame ∈ frames, frame.blockId = 4027 ∧ ¬frame.Splits F) :
    ∃ count, 255 < count ∧
      exportFrames F state frames = .error (tooManyObservations count) := by
  induction frames generalizing before calls state with
  | nil =>
      rcases crowded with ⟨_, member, _⟩
      exact absurd member List.not_mem_nil
  | cons frame later induction =>
      rcases List.forall_mem_cons.mp rebuildable with ⟨firstRebuildable, laterRebuildable⟩
      by_cases stops : frame.blockId = 4027 ∧ ¬frame.Splits F
      · rcases exportFrame_error reached firstRebuildable stops.1 stops.2 with ⟨count, more, result⟩
        refine ⟨count, more, ?_⟩
        rw [exportFrames, List.foldlM_cons, result]
        rfl
      · have splits : frame.blockId = 4027 → frame.Splits F := by
          intro epoch
          by_contra refused
          exact stops ⟨epoch, refused⟩
        rcases exportFrame_ok reached firstRebuildable splits with
          ⟨middle, newCalls, first, _, middleReached⟩
        have stillCrowded : ∃ frame ∈ later, frame.blockId = 4027 ∧ ¬frame.Splits F := by
          rcases crowded with ⟨other, member, refused⟩
          rcases List.mem_cons.mp member with rfl | member
          · exact absurd refused stops
          · exact ⟨other, member, refused⟩
        rcases induction middleReached laterRebuildable stillCrowded with ⟨count, more, rest⟩
        refine ⟨count, more, ?_⟩
        rw [exportFrames, List.foldlM_cons, first, Checked.ok_bind]
        exact rest

/-- An export either handles every frame or stops at a crowded epoch. -/
theorem exportRecording_cases (data : List Byte) (outDir : String)
    (disk : Dict String (List Byte)) :
    ((∀ frame ∈ iterFrames data, frame.blockId = 4027 → frame.Splits F) ∧
      ∃ summary, exportRecording F data outDir disk = .ok summary) ∨
    ((∃ frame ∈ iterFrames data, frame.blockId = 4027 ∧ ¬frame.Splits F) ∧
      ∃ count, 255 < count ∧
        exportRecording F data outDir disk = .error (tooManyObservations count)) := by
  have reached := Reached.fresh outDir (cleanupGeneratedGnssOutputs outDir disk)
  have rebuildable : ∀ frame ∈ iterFrames data, frame.Rebuildable :=
    fun frame member => rebuildable_of_mem_iterFrames member
  by_cases splits : ∀ frame ∈ iterFrames data, frame.blockId = 4027 → frame.Splits F
  · rcases exportFrames_ok reached rebuildable splits with ⟨after, _, result, _⟩
    exact .inl ⟨splits, _, by rw [exportRecording, result]; rfl⟩
  · push Not at splits
    rcases exportFrames_error reached rebuildable splits with ⟨count, more, result⟩
    exact .inr ⟨splits, count, more, by rw [exportRecording, result]; rfl⟩

/-- The blocks of an antenna can be built exactly when it has at most 255 rows, and
the export handles every frame exactly when that is so for all epochs. -/
theorem export_completes_iff (data : List Byte) (outDir : String)
    (disk : Dict String (List Byte)) :
    (∀ frame ∈ iterFrames data, frame.blockId = 4027 →
      ∃ rows : List (Row F), decodeMeasEpoch frame = .ok rows ∧
        ∀ antenna ∈ rowsByAntenna rows,
          ((∃ body bytes, buildMeasEpochBody ((rowsByAntenna rows).getD antenna []) = .ok body ∧
            rebuildSbfFrame frame.rawId body = .ok bytes) ↔
          ((rowsByAntenna rows).getD antenna []).length ≤ 255)) ∧
    ((∃ summary, exportRecording F data outDir disk = .ok summary) ↔
      ∀ frame ∈ iterFrames data, frame.blockId = 4027 →
        ∀ rows : List (Row F), decodeMeasEpoch frame = .ok rows →
          ∀ antenna, ((rowsByAntenna rows).getD antenna []).length ≤ 255) ∧
    (∀ fault, exportRecording F data outDir disk = .error fault →
      ∃ count, 255 < count ∧ fault = tooManyObservations count) := by
  refine ⟨?_, ?_, ?_⟩
  · intro frame member _
    rcases decodeMeasEpoch_spec (F := F) frame with ⟨rows, decoded, coherent⟩
    refine ⟨rows, decoded, fun antenna present => ⟨?_, fun few => ?_⟩⟩
    · rintro ⟨body, bytes, built, _⟩
      by_contra many
      rw [buildMeasEpochBody_tooMany (not_le.mp many)] at built
      cases built
    · rcases exists_epochPiece (epochHeader_valid frame.body) coherent
          (rebuildable_of_mem_iterFrames member).1 present few with ⟨bytes, body, built, rebuilt⟩
      exact ⟨body, bytes, built, rebuilt⟩
  · constructor
    · rintro ⟨summary, completed⟩
      rcases exportRecording_cases (F := F) data outDir disk with ⟨splits, _⟩ | ⟨_, _, _, failed⟩
      · exact splits
      · rw [completed] at failed
        cases failed
    · intro splits
      rcases exportRecording_cases (F := F) data outDir disk with
        ⟨_, completed⟩ | ⟨⟨frame, member, epoch, refused⟩, _⟩
      · exact completed
      · exact absurd (splits frame member epoch) refused
  · intro fault failed
    rcases exportRecording_cases (F := F) data outDir disk with
      ⟨_, _, completed⟩ | ⟨_, count, more, stopped⟩
    · rw [completed] at failed
      cases failed
    · rw [stopped] at failed
      cases failed
      exact ⟨count, more, rfl⟩

/-! ## A crowded epoch -/

theorem Type1Fields.parse_antennaId {fields : Type1Fields} {epochIndex obsIndex : Nat}
    {frame : SbfFrame} {header : EpochHeader} {parsed : ParsedRow F}
    (result : fields.parse epochIndex obsIndex frame header = .ok parsed) :
    parsed.row.antennaId = antennaId fields.typeB := by
  rcases Checked.bind_eq_ok.mp result with ⟨_, _, result⟩
  cases result
  rfl

theorem Type2Fields.parse_antennaId {fields : Type2Fields} {parent : ParsedRow F}
    {epochIndex obsIndex : Nat} {frame : SbfFrame} {header : EpochHeader} {parsed : ParsedRow F}
    (result : fields.parse parent epochIndex obsIndex frame header = .ok parsed) :
    parsed.row.antennaId = antennaId fields.typeB := by
  rcases Checked.bind_eq_ok.mp result with ⟨_, _, result⟩
  rcases Checked.bind_eq_ok.mp result with ⟨_, _, result⟩
  cases result
  rfl

/-- Sub-blocks that all fit give one row each, of the antenna in their type byte. -/
theorem type2Loop_antennaIds {frame : SbfFrame} {header : EpochHeader} {sb2Len : Nat}
    (wide : 12 ≤ sb2Len) {parent : ParsedRow F} {epochIndex : Nat} {count off obsIndex : Nat}
    (fits : off + count * sb2Len ≤ frame.body.length) {rows : List (ParsedRow F)}
    (result : type2Loop frame header sb2Len parent epochIndex count off obsIndex = .ok rows) :
    rows.map (·.row.antennaId) =
      (List.range count).map fun k => antennaId (u8 frame.body (off + k * sb2Len)) := by
  induction count generalizing off obsIndex rows with
  | zero =>
      cases result
      rfl
  | succ count induction =>
      rw [Nat.succ_mul] at fits
      rw [type2Loop, if_neg (by omega)] at result
      rcases Checked.bind_eq_ok.mp result with ⟨child, parsed, result⟩
      rcases Checked.bind_eq_ok.mp result with ⟨later, rest, result⟩
      cases result
      rw [parseType2Measurement, readType2_eq (by omega), Checked.ok_bind] at parsed
      rw [List.map_cons, induction (by omega) rest, Type2Fields.parse_antennaId parsed,
        List.range_succ_eq_map, List.map_cons, List.map_map, Nat.zero_mul, Nat.add_zero]
      congr 1
      · rw [type2Fields, u8_drop, Nat.add_zero]
      · apply List.map_congr_left
        intro k _
        rw [Function.comp_apply, Nat.succ_mul, Nat.add_comm (k * sb2Len), Nat.add_assoc]

end

/-- One satellite of the main antenna with 255 more signals. -/
def crowdedBody : List Byte :=
  [0, 0, 0, 0, 0, 0, 1, 20, 12, 0, 0, 0, 0, 0, 0, 0, 0, 0, 0, 0, 0, 0, 0, 0, 0, 0, 0, 0, 0, 0,
    0, 255] ++ List.replicate 3060 0

def crowdedRecording : List Byte := wireBytes (rebuiltFrame 4027 crowdedBody)

theorem length_crowdedBody : crowdedBody.length = 3092 := by
  rw [crowdedBody, List.length_append, List.length_replicate]
  rfl

theorem u8_crowdedBody (offset : Nat) : u8 crowdedBody (32 + offset) = 0 :=
  (u8_append_right _ _ offset).trans (u8_replicate_zero 3060 offset)

theorem crowdedBody_antennaIds {frame : SbfFrame} (body : frame.body = crowdedBody)
    {rows : List (Row Binary64)} (decoded : decodeMeasEpoch frame = .ok rows) :
    rows.map Row.antennaId = List.replicate 256 0 := by
  have long : frame.body.length = 3092 := by rw [body, length_crowdedBody]
  have sizes : u8 frame.body 6 = 1 ∧ u8 frame.body 7 = 20 ∧ u8 frame.body 8 = 12 ∧
      u8 frame.body 13 = 0 ∧ u8 frame.body 31 = 255 := by
    rw [body]
    exact ⟨rfl, rfl, rfl, rfl, rfl⟩
  rw [decodeMeasEpoch_eq frame (by omega), sizes.1, sizes.2.1, sizes.2.2.1] at decoded
  rcases Checked.bind_eq_ok.mp decoded with ⟨parsedRows, loop, result⟩
  cases result
  rw [type1Loop, if_neg (by omega)] at loop
  rcases Checked.bind_eq_ok.mp loop with ⟨parent, parsed, loop⟩
  rcases Checked.bind_eq_ok.mp loop with ⟨n2, read, loop⟩
  rcases Checked.bind_eq_ok.mp loop with ⟨children, childrenLoop, loop⟩
  rcases Checked.bind_eq_ok.mp loop with ⟨later, laterLoop, loop⟩
  cases laterLoop
  cases loop
  rw [byteAt_eq (by omega), sizes.2.2.2.2] at read
  cases read
  rw [parseType1Measurement, readType1_eq (by omega), Checked.ok_bind] at parsed
  have own : parent.row.antennaId = 0 := by
    have typeByte : (type1Fields (frame.body.drop 12)).typeB = 0 :=
      (u8_drop frame.body 12 1).trans sizes.2.2.2.1
    rw [Type1Fields.parse_antennaId parsed, typeByte]
    rfl
  have others : children.map (·.row.antennaId) = List.replicate 255 0 := by
    have zero : ∀ k ∈ List.range 255, antennaId (u8 frame.body (12 + 20 + k * 12)) = 0 := by
      intro k _
      rw [body, u8_crowdedBody]
      rfl
    rw [type2Loop_antennaIds (by norm_num) (by omega) childrenLoop, List.map_congr_left zero,
      List.map_const', List.length_range]
  rw [List.append_nil, List.map_map, List.map_cons, Function.comp_apply, own]
  exact congrArg (0 :: ·) others

/-- A recording of one frame, at which the export stops. -/
theorem crowdedRecording_stops :
    ∃ frame, iterFrames crowdedRecording = [frame] ∧ frame.blockId = 4027 ∧
      (∃ rows : List (Row Binary64), decodeMeasEpoch frame = .ok rows ∧
        buildMeasEpochBody ((rowsByAntenna rows).getD 0 []) =
          .error (tooManyObservations 256)) ∧
      ∀ summary, exportRecording Binary64 crowdedRecording "out" ∅ ≠ .ok summary := by
  have body : (rebuiltFrame 4027 crowdedBody).body = crowdedBody :=
    padded_of_mod (by rw [length_crowdedBody])
  have read : iterFrames crowdedRecording = [ofDriver 0 (rebuiltFrame 4027 crowdedBody)] :=
    iterFrames_rebuilt (by norm_num) (by rw [length_crowdedBody]; norm_num)
  rcases decodeMeasEpoch_spec (F := Binary64) (ofDriver 0 (rebuiltFrame 4027 crowdedBody)) with
    ⟨rows, decoded, _⟩
  have antennas := crowdedBody_antennaIds body decoded
  have own : ((rowsByAntenna rows).getD 0 []).length = 256 := by
    have main : ∀ row ∈ rows, decide (row.antennaId = 0) = true := by
      intro row member
      have listed := List.mem_map_of_mem (f := Row.antennaId) member
      rw [antennas] at listed
      exact decide_eq_true (List.eq_of_mem_replicate listed)
    rw [rowsByAntenna_eq_filter, List.filter_eq_self.mpr main, ← List.length_map, antennas,
      List.length_replicate]
  refine ⟨_, read, rfl, ⟨rows, decoded, ?_⟩, ?_⟩
  · rw [buildMeasEpochBody_tooMany (by omega), own]
  · intro summary completed
    rcases exportRecording_cases (F := Binary64) crowdedRecording "out" ∅ with
      ⟨splits, _⟩ | ⟨_, _, _, failed⟩
    · have few := splits _ (by rw [read]; exact List.mem_singleton.mpr rfl) rfl rows decoded 0
      omega
    · rw [completed] at failed
      cases failed

end AsterxDriver.Parser
