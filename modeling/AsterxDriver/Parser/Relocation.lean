import AsterxDriver.Parser.CsvFiles

/-! # Frames at other places

The export of two inputs whose frames differ in their places only. Of what it
leaves, `frame_offset` in the rows of unknown blocks is the only thing that tells
them apart. -/

namespace AsterxDriver.Parser

open Foundation ByteString Sbf FloatArithmetic

def SbfFrame.movedTo (frame : SbfFrame) (offset : Nat) : SbfFrame := { frame with offset := offset }

@[simp] theorem body_movedTo (frame : SbfFrame) (offset : Nat) :
    (frame.movedTo offset).body = frame.body := rfl

section

variable {F : Type}

def Row.movedTo (offset : Nat) (row : Row F) : Row F := { row with frameOffset := offset }

def ParsedRow.movedTo (offset : Nat) (parsed : ParsedRow F) : ParsedRow F :=
  { parsed with row := parsed.row.movedTo offset }

/-! ## Rows -/

theorem rowsByAntenna_movedTo (offset : Nat) (rows : List (Row F)) :
    (rowsByAntenna (rows.map (Row.movedTo offset))).sortedKeys = (rowsByAntenna rows).sortedKeys ∧
      ∀ ant, (rowsByAntenna (rows.map (Row.movedTo offset))).getD ant [] =
        ((rowsByAntenna rows).getD ant []).map (Row.movedTo offset) := by
  have members : ∀ (rows : List (Row F)) (ant : Nat),
      ant ∈ rowsByAntenna rows ↔ ∃ row ∈ rows, row.antennaId = ant :=
    fun rows ant => @Dict.mem_group _ _ _ _ Row.antennaId id rows ant
  have values : ∀ (rows : List (Row F)) (ant : Nat),
      (rowsByAntenna rows).getD ant [] = rows.filter (·.antennaId = ant) := by
    intro rows ant
    refine (Dict.getD_group Row.antennaId id rows ant).trans ?_
    rw [List.map_id]
  constructor
  · refine Dict.sortedKeys_congr fun ant => ?_
    rw [members, members]
    simp only [List.mem_map, exists_exists_and_eq_and]
    rfl
  · intro ant
    rw [values, values, List.filter_map]
    rfl

theorem countRows_movedTo (counts : Dict Nat Nat) (offset : Nat) (rows : List (Row F)) :
    countRows counts (rows.map (Row.movedTo offset)) = countRows counts rows := by
  unfold countRows
  rw [List.foldl_map]
  rfl

theorem extraIndices_movedTo (offset : Nat) (rows : List (Row F)) :
    extraIndices (rows.map (Row.movedTo offset)) = extraIndices rows := by
  unfold extraIndices
  rw [List.zipIdx_map, List.foldl_map]
  rfl

/-! ## Measurement epochs -/

variable [FloatArithmetic F]

theorem parseType1_movedTo (body : List Byte) (off epochIndex obsIndex : Nat) (frame : SbfFrame)
    (header : EpochHeader) (offset : Nat) :
    parseType1Measurement (F := F) body off epochIndex obsIndex (frame.movedTo offset) header =
      (parseType1Measurement body off epochIndex obsIndex frame header).map
        (ParsedRow.movedTo offset) := by
  unfold parseType1Measurement
  cases readType1 body off with
  | error fault => rfl
  | ok fields =>
      rw [Checked.ok_bind, Checked.ok_bind]
      unfold Type1Fields.parse
      dsimp only
      cases carrierPhase (type1Pseudorange (F := F) (fields.misc &&& 0x0F) fields.codeLsb)
        (carrierFrequencyHz (signalType fields.typeB fields.obsInfo) fields.obsInfo
          (glonassFreqNumber (signalType fields.typeB fields.obsInfo) fields.obsInfo))
        fields.carrierMsb fields.carrierLsb with
      | error fault => rfl
      | ok phase => rfl

theorem parseType2_movedTo (body : List Byte) (off : Nat) (parent : ParsedRow F)
    (epochIndex obsIndex : Nat) (frame : SbfFrame) (header : EpochHeader) (offset : Nat) :
    parseType2Measurement body off (parent.movedTo offset) epochIndex obsIndex
        (frame.movedTo offset) header =
      (parseType2Measurement body off parent epochIndex obsIndex frame header).map
        (ParsedRow.movedTo offset) := by
  unfold parseType2Measurement
  cases readType2 body off with
  | error fault => rfl
  | ok fields =>
      rw [Checked.ok_bind, Checked.ok_bind]
      unfold Type2Fields.parse
      dsimp only [ParsedRow.movedTo, Row.movedTo]
      generalize type2Doppler (F := F) _ _ _ _ _ = doppler
      generalize carrierPhase (F := F) _ _ _ _ = phase
      cases doppler with
      | error fault => rfl
      | ok doppler =>
          cases phase with
          | error fault => rfl
          | ok phase => rfl

theorem type2Loop_movedTo (frame : SbfFrame) (header : EpochHeader) (sb2Len : Nat)
    (parent : ParsedRow F) (epochIndex offset count off obsIndex : Nat) :
    type2Loop (frame.movedTo offset) header sb2Len (parent.movedTo offset) epochIndex count off
        obsIndex =
      (type2Loop frame header sb2Len parent epochIndex count off obsIndex).map
        (List.map (ParsedRow.movedTo offset)) := by
  induction count generalizing off obsIndex with
  | zero => rfl
  | succ count induction =>
      rw [type2Loop, type2Loop]
      change (if sb2Len < 12 ∨ off + sb2Len > frame.body.length then _ else _) = _
      split
      · rfl
      · change (parseType2Measurement frame.body off _ epochIndex obsIndex _ header >>= _) = _
        rw [parseType2_movedTo, induction]
        cases parseType2Measurement frame.body off parent epochIndex obsIndex frame header with
        | error fault => rfl
        | ok child =>
            cases type2Loop frame header sb2Len parent epochIndex count (off + sb2Len)
              (obsIndex + 1) with
            | error fault => rfl
            | ok later => rfl

theorem type1Loop_movedTo (frame : SbfFrame) (header : EpochHeader)
    (sb1Len sb2Len offset count epochIndex off obsIndex : Nat) :
    type1Loop (F := F) (frame.movedTo offset) header sb1Len sb2Len count epochIndex off obsIndex =
      (type1Loop frame header sb1Len sb2Len count epochIndex off obsIndex).map
        (List.map (ParsedRow.movedTo offset)) := by
  induction count generalizing epochIndex off obsIndex with
  | zero => rfl
  | succ count induction =>
      rw [type1Loop, type1Loop]
      change (if sb1Len < 20 ∨ off + sb1Len > frame.body.length then _ else _) = _
      split
      · rfl
      · change (parseType1Measurement frame.body off epochIndex obsIndex _ header >>= _) = _
        rw [parseType1_movedTo]
        cases parseType1Measurement (F := F) frame.body off epochIndex obsIndex frame header with
        | error fault => rfl
        | ok parent =>
            change (byteAt frame.body (off + 19) >>= _) = _
            cases byteAt frame.body (off + 19) with
            | error fault => rfl
            | ok n2 =>
                rw [Checked.ok_bind, Checked.ok_bind, Checked.ok_bind, type2Loop_movedTo]
                cases type2Loop frame header sb2Len parent epochIndex n2 (off + sb1Len)
                  (obsIndex + 1) with
                | error fault => rfl
                | ok children =>
                    change (type1Loop (frame.movedTo offset) header sb1Len sb2Len count
                      (epochIndex + 1) (off + (sb1Len + n2 * sb2Len))
                      (obsIndex + 1 + (children.map (ParsedRow.movedTo offset)).length) >>= _) = _
                    rw [List.length_map, induction]
                    change _ = (type1Loop frame header sb1Len sb2Len count (epochIndex + 1)
                      (off + (sb1Len + n2 * sb2Len)) (obsIndex + 1 + children.length) >>=
                        fun later => Except.ok (parent :: (children ++ later))).map _
                    cases type1Loop (F := F) frame header sb1Len sb2Len count (epochIndex + 1)
                      (off + (sb1Len + n2 * sb2Len)) (obsIndex + 1 + children.length) with
                    | error fault => rfl
                    | ok later =>
                        refine congrArg Except.ok (congrArg (_ :: ·) ?_)
                        rw [List.map_append]

theorem decodeMeasEpoch_movedTo (frame : SbfFrame) (offset : Nat) :
    decodeMeasEpoch (F := F) (frame.movedTo offset) =
      (decodeMeasEpoch frame).map (List.map (Row.movedTo offset)) := by
  have through : ∀ {α β γ : Type} (change : β → γ) (action : Except PyError α)
      (next : α → Except PyError β),
      (action >>= next).map change = action >>= fun value => (next value).map change := by
    intro α β γ change action next
    cases action <;> rfl
  have rowsOnly : ∀ loop : Except PyError (List (ParsedRow F)),
      (loop.map (List.map (ParsedRow.movedTo offset)) >>= fun rows =>
        pure (rows.map ParsedRow.row)) =
      loop >>= fun rows => Except.map (List.map (Row.movedTo offset))
        (pure (rows.map ParsedRow.row)) := by
    intro loop
    cases loop with
    | error fault => rfl
    | ok rows =>
        refine congrArg Except.ok ?_
        rw [List.map_map, List.map_map]
        rfl
  unfold decodeMeasEpoch
  change (if frame.body.length < 12 then _ else _) = _
  split
  · rfl
  · simp only [body_movedTo, type1Loop_movedTo, through, rowsOnly]

/-! ## Their split by antenna -/

theorem buildMeasEpochBody_movedTo (offset : Nat) (rows : List (Row F)) :
    buildMeasEpochBody (rows.map (Row.movedTo offset)) = buildMeasEpochBody rows := by
  cases rows with
  | nil => rfl
  | cons first later =>
      unfold buildMeasEpochBody
      rw [List.map_cons]
      simp only [List.length_cons, List.length_map]
      split
      · rfl
      · have blocks : ∀ rows : List (Row F), (rows.map (Row.movedTo offset)).mapM
            encodeType1Observation = rows.mapM encodeType1Observation := by
          intro rows
          rw [List.mapM_map]
          rfl
        rw [← List.map_cons (f := Row.movedTo offset), blocks]
        rfl

theorem writeMeasEpochs_movedTo (rawId offset : Nat) (rows : List (Row F)) (sbfSink : SbfSink) :
    writeMeasEpochs rawId (rowsByAntenna (rows.map (Row.movedTo offset))) sbfSink =
      writeMeasEpochs rawId (rowsByAntenna rows) sbfSink := by
  rcases rowsByAntenna_movedTo offset rows with ⟨keys, values⟩
  unfold writeMeasEpochs
  rw [keys]
  simp only [values, buildMeasEpochBody_movedTo]

/-- The place of an epoch does not show in what it leaves. -/
theorem exportMeasEpoch_movedTo (state : ExportState) (frame : SbfFrame) (offset : Nat) :
    exportMeasEpoch F state (frame.movedTo offset) = exportMeasEpoch F state frame := by
  unfold exportMeasEpoch
  rw [decodeMeasEpoch_movedTo]
  cases decodeMeasEpoch (F := F) frame with
  | error fault => rfl
  | ok rows =>
      change (writeMeasEpochs frame.rawId (rowsByAntenna (rows.map (Row.movedTo offset)))
        state.sbfSink >>= _) = _
      rw [writeMeasEpochs_movedTo, Checked.ok_bind]
      have firsts : (rows.map (Row.movedTo offset)).filter (·.level = 1) =
          (rows.filter (·.level = 1)).map (Row.movedTo offset) := by
        rw [List.filter_map]
        rfl
      rw [firsts, countRows_movedTo, countRows_movedTo, extraIndices_movedTo,
        (rowsByAntenna_movedTo offset rows).1, List.head?_map, Option.map_map]
      rfl

/-! ## Rows of the CSV files -/

/-- The rows agree, but for the place of the frame. -/
def CsvRow.SameElsewhere (row other : CsvRow) : Prop :=
  ∀ key, key ≠ "frame_offset" → row.lookup key = other.lookup key

end

/-- The place of the frame is written behind everything else but the body. -/
theorem rawBlockRow_movedTo (frame : SbfFrame) : ∃ front : CsvRow, ∀ offset,
    rawBlockRow (frame.movedTo offset) = .ok ((front.insert "frame_offset" (.int offset)).insert
      "body_hex" (.text (hexDigits frame.body))) := by
  have splits : ∀ offset, rawBlockRow (frame.movedTo offset) =
      readFields (gpsTimeFields frame.body.length ++
        [.known "block_id" (.int frame.blockId),
          .known "block_name" (.text (blockName frame.blockId)),
          .known "revision" (.int frame.revision), .known "length" (.int frame.length)])
        frame.body 0 ∅ >>= fun front =>
      readFields [.known "frame_offset" (.int offset),
        .known "body_hex" (.text (hexDigits frame.body))] frame.body 0 front := by
    intro offset
    unfold readFields
    rw [← List.foldlM_append, List.append_assoc]
    rfl
  rcases rawBlockRow_ok frame with ⟨row, decoded⟩
  have here : frame.movedTo frame.offset = frame := rfl
  rw [← here, splits] at decoded
  rcases Checked.bind_eq_ok.mp decoded with ⟨front, found, _⟩
  refine ⟨front, fun offset => ?_⟩
  rw [splits, found]
  rfl

/-- Only the row of an unknown block names the place of the frame. -/
theorem csvRows_movedTo (frame : SbfFrame) (offset : Nat) :
    csvRows (frame.movedTo offset) = csvRows frame ∨
      ∃ row other, csvRows frame = .ok [("raw_blocks", rawBlockHeaders, [row])] ∧
        csvRows (frame.movedTo offset) = .ok [("raw_blocks", rawBlockHeaders, [other])] ∧
        row.SameElsewhere other := by
  have same : (frame.movedTo offset).blockId = frame.blockId := rfl
  unfold csvRows
  rw [same]
  split
  iterate 12 exact .inl rfl
  rcases rawBlockRow_movedTo frame with ⟨front, rows⟩
  refine .inr ⟨_, _, congrArg (· >>= _) (rows frame.offset), congrArg (· >>= _) (rows offset), ?_⟩
  intro key different
  by_cases body : key = "body_hex"
  · rw [body, AList.lookup_insert, AList.lookup_insert]
  · rw [AList.lookup_insert_ne body, AList.lookup_insert_ne body,
      AList.lookup_insert_ne different, AList.lookup_insert_ne different]

/-! ## Up to the CSV files -/

/-- Everything but the CSV files. -/
def ExportState.withoutCsv (state : ExportState) : ExportState := { state with sink := ∅ }

theorem eq_of_withoutCsv {state other : ExportState} (same : state.withoutCsv = other.withoutCsv) :
    state.sbfSink = other.sbfSink ∧ state.blockCounts = other.blockCounts ∧
      state.revisions = other.revisions := by
  rw [ExportState.withoutCsv, ExportState.withoutCsv, ExportState.mk.injEq] at same
  exact ⟨same.2.1, same.2.2.1, same.2.2.2.1⟩

theorem emit_withoutCsv {state other : ExportState} (same : state.withoutCsv = other.withoutCsv)
    (name : String) (headers : List String) {rows more : List CsvRow}
    (length : rows.length = more.length) :
    (state.emit name headers rows).withoutCsv = (other.emit name headers more).withoutCsv := by
  induction rows generalizing state other more with
  | nil =>
      rw [List.length_eq_zero_iff.mp length.symm]
      exact same
  | cons row later induction =>
      cases more with
      | nil => cases length
      | cons another rest =>
          have next : ExportState.withoutCsv { state with
                sink := state.sink.row (name ++ ".csv") headers row
                emitted := state.emitted.modify name 0 (· + 1) } =
              ExportState.withoutCsv { other with
                sink := other.sink.row (name ++ ".csv") headers another
                emitted := other.emitted.modify name 0 (· + 1) } :=
            congrArg (fun state : ExportState => { state with
              emitted := state.emitted.modify name 0 (· + 1) }) same
          exact induction next (by simpa using length)

theorem emitAll_withoutCsv {state other : ExportState}
    (same : state.withoutCsv = other.withoutCsv)
    (files : List (String × List String × List CsvRow)) :
    (files.foldl (fun state file => state.emit file.1 file.2.1 file.2.2) state).withoutCsv =
      (files.foldl (fun state file => state.emit file.1 file.2.1 file.2.2) other).withoutCsv := by
  induction files generalizing state other with
  | nil => exact same
  | cons file later induction => exact induction (emit_withoutCsv same _ _ rfl)

section

variable {F : Type} [FloatArithmetic F] {state other : ExportState}

def ExportState.withSink (sink : CsvSink) (state : ExportState) : ExportState :=
  { state with sink := sink }

/-- What leaves the CSV files alone does not read them either. -/
def SparesCsv (action : ExportState → Except PyError ExportState) : Prop :=
  ∀ state sink, action (state.withSink sink) = (action state).map (ExportState.withSink sink)

theorem SparesCsv.withoutCsv {action : ExportState → Except PyError ExportState}
    (spares : SparesCsv action) (same : state.withoutCsv = other.withoutCsv) :
    (action state).map ExportState.withoutCsv = (action other).map ExportState.withoutCsv := by
  have changed : other.withoutCsv.withSink other.sink = state.withoutCsv.withSink other.sink :=
    congrArg (ExportState.withSink other.sink) same.symm
  have changed : other = state.withSink other.sink := changed
  rw [changed, spares]
  cases action state with
  | error fault => rfl
  | ok after => rfl

theorem exportMeasEpoch_sparesCsv (frame : SbfFrame) :
    SparesCsv fun state => exportMeasEpoch F state frame := by
  intro state sink
  unfold exportMeasEpoch
  cases decodeMeasEpoch (F := F) frame with
  | error fault => rfl
  | ok rows =>
      simp only [Checked.ok_bind]
      change (writeMeasEpochs frame.rawId (rowsByAntenna rows) state.sbfSink >>= _) = _
      cases writeMeasEpochs frame.rawId (rowsByAntenna rows) state.sbfSink with
      | error fault => rfl
      | ok sbfSink => rfl

theorem exportMeasExtra_sparesCsv (frame : SbfFrame) :
    SparesCsv fun state => exportMeasExtra state frame := by
  intro state sink
  unfold exportMeasExtra
  cases readExtraTime frame.body with
  | error fault => rfl
  | ok extraTime =>
      simp only [Checked.ok_bind]
      change (if state.pendingExtraIndices.keys ≠ [] ∧ extraTime = state.pendingEpochTime
        then _ else _) = _
      split
      · change (writeMeasExtras frame state.pendingExtraIndices
          (state.sbfSink, state.extrasByAnt) >>= _) = _
        cases writeMeasExtras frame state.pendingExtraIndices
          (state.sbfSink, state.extrasByAnt) with
        | error fault => rfl
        | ok written => rfl
      · rfl

theorem exportEndOfMeas_sparesCsv (frame : SbfFrame) :
    SparesCsv fun state => exportEndOfMeas state frame := by
  intro state sink
  unfold exportEndOfMeas
  dsimp only [ExportState.withSink]
  generalize state.pendingEpochAntennas.foldlM (fun sbfSink ant => do
    let frameBytes ← rebuildSbfFrame frame.rawId frame.body
    sbfSink.write ant frameBytes) state.sbfSink = written
  cases written with
  | error fault => rfl
  | ok sbfSink => rfl

theorem exportCommon_sparesCsv (frame : SbfFrame) :
    SparesCsv fun state => exportCommon state frame := by
  intro state sink
  unfold exportCommon
  cases rebuildSbfFrame frame.rawId frame.body with
  | error fault => rfl
  | ok frameBytes =>
      simp only [Checked.ok_bind]
      change (state.sbfSink.writeCommon frameBytes >>= _) = _
      cases state.sbfSink.writeCommon frameBytes with
      | error fault => rfl
      | ok sbfSink => rfl

theorem exportCsv_movedTo (same : state.withoutCsv = other.withoutCsv) (frame : SbfFrame)
    (offset : Nat) :
    (exportCsv state frame).map ExportState.withoutCsv =
      (exportCsv other (frame.movedTo offset)).map ExportState.withoutCsv := by
  unfold exportCsv
  rcases csvRows_movedTo frame offset with unmoved | ⟨row, another, here, there, _⟩
  · rcases csvRows_ok frame with ⟨files, decoded⟩
    rw [unmoved, decoded]
    exact congrArg Except.ok (emitAll_withoutCsv same files)
  · rw [here, there]
    exact congrArg Except.ok (emit_withoutCsv same _ _ rfl)

/-- One frame, wherever it stands. -/
theorem exportFrame_movedTo (same : state.withoutCsv = other.withoutCsv) (frame : SbfFrame)
    (offset : Nat) :
    (exportFrame F state frame).map ExportState.withoutCsv =
      (exportFrame F other (frame.movedTo offset)).map ExportState.withoutCsv := by
  have counted : (state.countBlock frame).withoutCsv = (other.countBlock frame).withoutCsv :=
    congrArg (ExportState.countBlock · frame) same
  unfold exportFrame
  change (if frame.blockId = 4027 then exportMeasEpoch F (state.countBlock frame) frame
    else if frame.blockId = 4000 then exportMeasExtra (state.countBlock frame) frame
    else if frame.blockId = 5922 then exportEndOfMeas (state.countBlock frame) frame
    else if frame.blockId ∈ gnssCommonBlockIds then exportCommon (state.countBlock frame) frame
    else exportCsv (state.countBlock frame) frame).map _ =
    (if frame.blockId = 4027 then
        exportMeasEpoch F (other.countBlock frame) (frame.movedTo offset)
    else if frame.blockId = 4000 then exportMeasExtra (other.countBlock frame) frame
    else if frame.blockId = 5922 then exportEndOfMeas (other.countBlock frame) frame
    else if frame.blockId ∈ gnssCommonBlockIds then exportCommon (other.countBlock frame) frame
    else exportCsv (other.countBlock frame) (frame.movedTo offset)).map _
  split
  · rw [exportMeasEpoch_movedTo]
    exact (exportMeasEpoch_sparesCsv frame).withoutCsv counted
  split
  · exact (exportMeasExtra_sparesCsv frame).withoutCsv counted
  split
  · exact (exportEndOfMeas_sparesCsv frame).withoutCsv counted
  split
  · exact (exportCommon_sparesCsv frame).withoutCsv counted
  · exact exportCsv_movedTo counted frame offset

theorem exportFrames_movedTo (same : state.withoutCsv = other.withoutCsv)
    (frames : List SbfFrame) :
    (exportFrames F state frames).map ExportState.withoutCsv =
      (exportFrames F other (frames.map (·.movedTo 0))).map ExportState.withoutCsv := by
  induction frames generalizing state other with
  | nil => exact congrArg Except.ok same
  | cons frame later induction =>
      have first := exportFrame_movedTo (F := F) same frame 0
      unfold exportFrames
      rw [List.map_cons, List.foldlM_cons, List.foldlM_cons]
      cases here : exportFrame F state frame with
      | error fault =>
          cases there : exportFrame F other (frame.movedTo 0) with
          | error another =>
              rw [here, there] at first
              exact first
          | ok another =>
              rw [here, there] at first
              cases first
      | ok after =>
          cases there : exportFrame F other (frame.movedTo 0) with
          | error another =>
              rw [here, there] at first
              cases first
          | ok another =>
              rw [here, there] at first
              exact induction (Except.ok.inj first)

end

/-! ## Cells -/

/-- The cells of a CSV file that are not in this column. -/
def cellsWithout (column : String) (file : List String × List (List Cell)) :
    List (List (String × Cell)) :=
  file.2.map fun cells => (file.1.zip cells).filter (·.1 ≠ column)

theorem cellsWithout_csvFile (headers : List String) {rows others : List CsvRow}
    (same : List.Forall₂ CsvRow.SameElsewhere rows others) :
    (csvFile headers rows).map (cellsWithout "frame_offset") =
      (csvFile headers others).map (cellsWithout "frame_offset") := by
  have cells : ∀ row : CsvRow,
      (headers.zip (headers.map fun key => formatCsvValue (row.get key))).filter
        (·.1 ≠ "frame_offset") =
      (headers.filter (· ≠ "frame_offset")).map fun key =>
        (key, formatCsvValue (row.get key)) := by
    intro row
    rw [← List.map_prod_left_eq_zip, List.filter_map]
    rfl
  have equal : ∀ row other : CsvRow, row.SameElsewhere other →
      (headers.filter (· ≠ "frame_offset")).map (fun key =>
        (key, formatCsvValue (row.get key))) =
      (headers.filter (· ≠ "frame_offset")).map fun key =>
        (key, formatCsvValue (other.get key)) := by
    intro row other agree
    refine List.map_congr_left fun key member => ?_
    have elsewhere : key ≠ "frame_offset" := by simpa using (List.mem_filter.mp member).2
    rw [CsvRow.get, CsvRow.get, Dict.getD, Dict.getD, agree key elsewhere]
  have all : ∀ {rows others : List CsvRow}, List.Forall₂ CsvRow.SameElsewhere rows others →
      cellsWithout "frame_offset" (headers, rows.map fun row =>
        headers.map fun key => formatCsvValue (row.get key)) =
      cellsWithout "frame_offset" (headers, others.map fun row =>
        headers.map fun key => formatCsvValue (row.get key)) := by
    intro rows others same
    unfold cellsWithout
    induction same with
    | nil => rfl
    | @cons row other rows others agree _ induction =>
        simp only [List.map_cons, cells, equal row other agree] at induction ⊢
        rw [induction]
  cases same with
  | nil => rfl
  | cons agree later => exact congrArg some (all (.cons agree later))

theorem csvRowsFor_movedTo {name : String} (different : name ≠ "raw_blocks") (frame : SbfFrame)
    (offset : Nat) : csvRowsFor name (frame.movedTo offset) = csvRowsFor name frame := by
  unfold csvRowsFor
  change (if frame.IsGnss then _ else _) = _
  split
  · rfl
  · rcases csvRows_movedTo frame offset with unmoved | ⟨row, another, here, there, _⟩
    · rw [unmoved]
    · rw [here, there]
      simp [rowsOf, Ne.symm different]

theorem csvRowsFor_rawBlocks_movedTo (frame : SbfFrame) (offset : Nat) :
    List.Forall₂ CsvRow.SameElsewhere (csvRowsFor "raw_blocks" frame)
      (csvRowsFor "raw_blocks" (frame.movedTo offset)) := by
  have unchanged : ∀ rows : List CsvRow, List.Forall₂ CsvRow.SameElsewhere rows rows :=
    fun rows => List.forall₂_same.mpr fun _ _ _ _ => rfl
  unfold csvRowsFor
  change List.Forall₂ _ _ (if frame.IsGnss then _ else _)
  split
  · exact .nil
  · rcases csvRows_movedTo frame offset with unmoved | ⟨row, another, here, there, agree⟩
    · rw [unmoved]
      exact unchanged _
    · rw [here, there]
      exact .cons agree .nil

/-! ## Whole exports -/

/-- The exports leave the same, but for the places of the frames. -/
structure SameExport (first second : ExportSummary) : Prop where
  frames : first.frames = second.frames
  /-- The files of the antennas, all counts and the rest of the disk. -/
  state : first.state.withoutCsv = second.state.withoutCsv
  verified : first.gnssSbfVerify = second.gnssSbfVerify
  csv : ∀ name, name ≠ "raw_blocks" →
    first.state.sink.lookup (name ++ ".csv") = second.state.sink.lookup (name ++ ".csv")
  rawBlocks : (first.state.sink.lookup "raw_blocks.csv").map (cellsWithout "frame_offset") =
    (second.state.sink.lookup "raw_blocks.csv").map (cellsWithout "frame_offset")

theorem flatMap_csvRowsFor_movedTo {name : String} (different : name ≠ "raw_blocks")
    (frames : List SbfFrame) :
    (frames.map (·.movedTo 0)).flatMap (csvRowsFor name) = frames.flatMap (csvRowsFor name) := by
  rw [List.flatMap_map]
  exact List.flatMap_congr fun frame _ => csvRowsFor_movedTo different frame 0

theorem flatMap_rawBlocks_movedTo (frames : List SbfFrame) :
    List.Forall₂ CsvRow.SameElsewhere (frames.flatMap (csvRowsFor "raw_blocks"))
      ((frames.map (·.movedTo 0)).flatMap (csvRowsFor "raw_blocks")) := by
  induction frames with
  | nil => exact .nil
  | cons frame later induction =>
      exact List.rel_append (csvRowsFor_rawBlocks_movedTo frame 0) induction

/-- What `export_recording` makes of the final state. -/
def summarized (frames : Nat) (state : ExportState) : ExportSummary where
  frames := frames
  state := { state with
    sink := state.blockCounts.sortedKeys.foldl (fun sink blockId =>
      CsvSink.row sink "block_summary.csv" blockSummaryHeaders (blockSummaryRow state blockId))
      state.sink }
  gnssSbfVerify := state.sbfSink.paths.entries.foldl (fun verify entry =>
    verify.insert entry.1 (verifySbfBytes (state.sbfSink.disk.getD entry.2 []))) ∅

theorem exportRecording_eq {F : Type} [FloatArithmetic F] (data : List Byte) (outDir : String)
    (disk : Dict String (List Byte)) :
    exportRecording F data outDir disk =
      (exportFrames F (.fresh outDir (cleanupGeneratedGnssOutputs outDir disk))
        (iterFrames data)).map (summarized (iterFrames data).length) := by
  unfold exportRecording
  dsimp only
  cases exportFrames F (.fresh outDir (cleanupGeneratedGnssOutputs outDir disk))
      (iterFrames data) with
  | error fault => rfl
  | ok state => rfl

section

variable {F : Type} [FloatArithmetic F] {data other : List Byte}
  (same : (iterFrames data).map (·.movedTo 0) = (iterFrames other).map (·.movedTo 0))

include same

/-- The CSV files of two exports that found the same frames. -/
theorem CsvWritten.agrees {state another : ExportState} (written : CsvWritten data state)
    (alsoWritten : CsvWritten other another) (rest : state.withoutCsv = another.withoutCsv) :
    (∀ name, name ≠ "raw_blocks" →
      state.sink.lookup (name ++ ".csv") = another.sink.lookup (name ++ ".csv")) ∧
    (state.sink.lookup "raw_blocks.csv").map (cellsWithout "frame_offset") =
      (another.sink.lookup "raw_blocks.csv").map (cellsWithout "frame_offset") := by
  constructor
  · intro name different
    by_cases summary : name = "block_summary"
    · subst summary
      rcases eq_of_withoutCsv rest with ⟨_, counts, revisions⟩
      have row : blockSummaryRow state = blockSummaryRow another := by
        funext blockId
        rw [blockSummaryRow, counts, revisions]
        rfl
      have held := written.summary
      rw [counts, row] at held
      exact held.trans alsoWritten.summary.symm
    · rw [written.files name summary, alsoWritten.files name summary,
        ← flatMap_csvRowsFor_movedTo different (iterFrames data), same,
        flatMap_csvRowsFor_movedTo different]
  · have held := written.files "raw_blocks" (by decide)
    have alsoHeld := alsoWritten.files "raw_blocks" (by decide)
    have first := cellsWithout_csvFile (csvColumns "raw_blocks")
      (flatMap_rawBlocks_movedTo (iterFrames data))
    have second := cellsWithout_csvFile (csvColumns "raw_blocks")
      (flatMap_rawBlocks_movedTo (iterFrames other))
    rw [← same] at second
    refine (congrArg _ held).trans (first.trans (second.symm.trans (congrArg _ alsoHeld.symm)))

/-- Inputs with the same frames are exported alike. -/
theorem exportRecording_sameFrames (outDir : String) (disk : Dict String (List Byte)) :
    (∃ fault, exportRecording F data outDir disk = .error fault ∧
      exportRecording F other outDir disk = .error fault) ∨
    ∃ summary another, exportRecording F data outDir disk = .ok summary ∧
      exportRecording F other outDir disk = .ok another ∧ SameExport summary another := by
  have moved : ∀ frames, (exportFrames F
        (.fresh outDir (cleanupGeneratedGnssOutputs outDir disk)) frames).map
          ExportState.withoutCsv =
      (exportFrames F (.fresh outDir (cleanupGeneratedGnssOutputs outDir disk))
        (frames.map (·.movedTo 0))).map ExportState.withoutCsv :=
    fun frames => exportFrames_movedTo rfl frames
  have runs : (exportFrames F (.fresh outDir (cleanupGeneratedGnssOutputs outDir disk))
        (iterFrames data)).map ExportState.withoutCsv =
      (exportFrames F (.fresh outDir (cleanupGeneratedGnssOutputs outDir disk))
        (iterFrames other)).map ExportState.withoutCsv := by
    rw [moved, same, ← moved]
  have lengths : (iterFrames data).length = (iterFrames other).length := by
    simpa using congrArg List.length same
  rw [exportRecording_eq, exportRecording_eq]
  cases here : exportFrames F (.fresh outDir (cleanupGeneratedGnssOutputs outDir disk))
      (iterFrames data) with
  | error fault =>
      cases there : exportFrames F (.fresh outDir (cleanupGeneratedGnssOutputs outDir disk))
          (iterFrames other) with
      | error another =>
          rw [here, there] at runs
          cases runs
          exact .inl ⟨fault, rfl, rfl⟩
      | ok another =>
          rw [here, there] at runs
          cases runs
  | ok state =>
      cases there : exportFrames F (.fresh outDir (cleanupGeneratedGnssOutputs outDir disk))
          (iterFrames other) with
      | error another =>
          rw [here, there] at runs
          cases runs
      | ok another =>
          rw [here, there] at runs
          have rest : state.withoutCsv = another.withoutCsv := Except.ok.inj runs
          have completed : exportRecording F data outDir disk =
              .ok (summarized (iterFrames data).length state) := by
            rw [exportRecording_eq, here]
            rfl
          have alsoCompleted : exportRecording F other outDir disk =
              .ok (summarized (iterFrames other).length another) := by
            rw [exportRecording_eq, there]
            rfl
          rcases (csvWritten_of_completed completed).agrees same
            (csvWritten_of_completed alsoCompleted) rest with ⟨csv, rawBlocks⟩
          refine .inr ⟨_, _, rfl, rfl, lengths, rest, ?_, csv, rawBlocks⟩
          rw [summarized, summarized, (eq_of_withoutCsv rest).1]

end

end AsterxDriver.Parser
