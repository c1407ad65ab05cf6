import AsterxDriver.Parser.CsvFiles
import AsterxDriver.Parser.RotatedExport

/-! # Several exports into one directory

An export removes the files by antenna that an earlier one has left, and opens a CSV
file when it has a row for it. -/

namespace AsterxDriver.Parser

open Foundation ByteString Sbf FloatArithmetic RoundedArithmetic

/-- The output directory: the files by their paths, and the CSV files by their names. -/
structure OutputDirectory where
  disk : Dict String (List Byte)
  csv : CsvSink

/-- A CSV file that is opened loses what it had. -/
def exportInto (F : Type) [FloatArithmetic F] (outDir : String) (directory : OutputDirectory)
    (data : List Byte) : Except PyError OutputDirectory := do
  let summary ← exportRecording F data outDir directory.disk
  return ⟨summary.state.sbfSink.disk, summary.state.sink ∪ directory.csv⟩

/-! ## The cleanup -/

theorem lookup_foldl_erase {ν : Type} (dict : Dict String ν) (keys : List String) (key : String) :
    (keys.foldl (fun dict other => dict.erase other) dict).lookup key =
      if key ∈ keys then none else dict.lookup key := by
  induction keys generalizing dict with
  | nil => rfl
  | cons first later induction =>
      rw [List.foldl_cons, induction]
      by_cases erased : key ∈ later
      · rw [if_pos erased, if_pos (List.mem_cons_of_mem _ erased)]
      · rw [if_neg erased]
        by_cases same : key = first
        · rw [same, AList.lookup_erase, if_pos (List.mem_cons_self ..)]
        · rw [AList.lookup_erase_ne same, if_neg (by simp [same, erased])]

theorem lookup_cleanup (outDir : String) (disk : Dict String (List Byte)) (path : String) :
    (cleanupGeneratedGnssOutputs outDir disk).lookup path =
      if isGenerated outDir path = true then none else disk.lookup path := by
  rw [cleanupGeneratedGnssOutputs, lookup_foldl_erase]
  by_cases generated : isGenerated outDir path = true
  · rw [if_pos generated]
    split
    · rfl
    · rename_i absent
      rw [AList.lookup_eq_none]
      exact fun member => absent (List.mem_filter.mpr ⟨member, generated⟩)
  · rw [if_neg generated, if_neg fun member => generated (List.mem_filter.mp member).2]

theorem slash_notMem_digits (number : Nat) : '/' ∉ NumberedName.digits number := by
  intro member
  have isDigit := NumberedName.isDigit_of_mem_digits number '/' member
  exact absurd isDigit (by decide)

theorem slash_notMem_antennaName (ant : Nat) : '/' ∉ (antennaName ant).toList := by
  match ant with
  | 0 | 1 | 2 => decide
  | number + 3 =>
      have digits := slash_notMem_digits (number + 3)
      have name : antennaName (number + 3) = "Ant" ++ toString (number + 3) := rfl
      rw [NumberedName.digits] at digits
      rw [name]
      simpa using digits

theorem endsWith_append (front back : String) : (front ++ back).endsWith back = true := by
  refine String.Slice.endsWith_string_iff.mpr ?_
  simp

/-- The file of an antenna is one that the next cleanup removes. -/
theorem isGenerated_antennaPath (outDir : String) (ant : Nat) :
    isGenerated outDir (SbfSink.antennaPath outDir ant) = true := by
  have starts : (outDir ++ "/gnss-ant").isPrefixOf (SbfSink.antennaPath outDir ant) = true := by
    refine String.startsWith_string_iff.mpr ?_
    simp [SbfSink.antennaPath]
  have ends : (SbfSink.antennaPath outDir ant).endsWith ".sbf" = true := endsWith_append _ _
  have direct : ((SbfSink.antennaPath outDir ant).toList.drop (outDir.length + 1)).all
      (· ≠ '/') = true := by
    have shape : (SbfSink.antennaPath outDir ant).toList.drop (outDir.length + 1) =
        "gnss-ant".toList ++ NumberedName.digits ant ++ '-' :: (antennaName ant).toList ++
          ".sbf".toList := by
      have length : outDir.toList.length = outDir.length := String.length_toList
      have rest : outDir.length + 1 - outDir.toList.length = 1 := by omega
      simp [SbfSink.antennaPath, NumberedName.digits, List.drop_append, rest]
      omega
    rw [shape, List.all_eq_true]
    intro char member
    simp only [decide_eq_true_eq]
    rintro rfl
    simp [slash_notMem_digits, slash_notMem_antennaName] at member
  rw [isGenerated, starts, ends, direct]
  rfl

/-! ## The files of one export -/

/-- Only these files differ from what was on the disk, and they are there. -/
def Confined (start disk : Dict String (List Byte)) (paths : List String) : Prop :=
  ∀ path, disk.lookup path =
    if path ∈ paths then some (disk.getD path []) else start.lookup path

theorem Confined.insert {start disk : Dict String (List Byte)} {paths after : List String}
    (confined : Confined start disk paths) {path : String} (content : List Byte)
    (same : ∀ other, other ∈ after ↔ other = path ∨ other ∈ paths) :
    Confined start (disk.insert path content) after := by
  intro other
  by_cases here : other = path
  · rw [if_pos ((same other).mpr (.inl here)), here, Dict.getD_insert_self, AList.lookup_insert]
  · have elsewhere : other ∈ after ↔ other ∈ paths := by
      rw [same, or_iff_right here]
    rw [AList.lookup_insert_ne here, Dict.getD_insert_of_ne _ _ _ here, confined other]
    simp only [elsewhere]

namespace SbfSink

variable {start : Dict String (List Byte)} {sink after : SbfSink}

/-- What the sink has written is confined to its open files. -/
def Confines (sink : SbfSink) (start : Dict String (List Byte)) : Prop :=
  Confined start sink.disk (sink.files.map Prod.snd)

theorem Confines.writeOpen (confines : sink.Confines start) {ant : Nat} {frameBytes : List Byte}
    (written : sink.writeOpen ant frameBytes = .ok after) : after.Confines start := by
  unfold SbfSink.writeOpen at written
  split at written
  · cases written
  · rename_i path found
    cases written
    refine Confined.insert confines _ fun other => ?_
    have isOpen : path ∈ sink.files.map Prod.snd := by
      rcases List.lookup_eq_some_iff.mp found with ⟨front, back, shape, _⟩
      rw [shape]
      simp
    constructor
    · exact .inr
    · rintro (rfl | isMember)
      · exact isOpen
      · exact isMember

theorem Confines.foldlM {α : Type} (confines : sink.Confines start)
    {action : SbfSink → α → Except PyError SbfSink}
    (keeps : ∀ {sink after input}, sink.Confines start → action sink input = .ok after →
      after.Confines start) {inputs : List α}
    (written : inputs.foldlM action sink = .ok after) : after.Confines start := by
  induction inputs generalizing sink with
  | nil =>
      cases written
      exact confines
  | cons input later induction =>
      rw [List.foldlM_cons] at written
      rcases Checked.bind_eq_ok.mp written with ⟨middle, first, rest⟩
      exact induction (keeps confines first) rest

theorem Confines.openFile (confines : sink.Confines start) (ant : Nat) :
    (sink.openFile ant).Confines start := by
  refine Confined.insert confines [] fun other => ?_
  simp only [SbfSink.openFile, List.map_append, List.map_cons, List.map_nil, List.mem_append,
    List.mem_singleton]
  exact or_comm

theorem Confines.call (confines : sink.Confines start) {call : SinkCall}
    (written : sink.call call = .ok after) : after.Confines start := by
  cases call with
  | write ant frameBytes =>
      simp only [SbfSink.call, SbfSink.write] at written
      split at written
      · rcases Checked.bind_eq_ok.mp written with ⟨replayed, replays, writes⟩
        have replayedConfines : replayed.Confines start :=
          (confines.openFile ant).foldlM (fun confines wrote => confines.writeOpen wrote) replays
        exact replayedConfines.writeOpen writes
      · exact confines.writeOpen written
  | writeCommon frameBytes =>
      have recorded : Confines { sink with
          commonHistory := sink.commonHistory ++ [frameBytes]
          commonFrames := sink.commonFrames + 1 } start := confines
      exact recorded.foldlM (fun confines wrote => confines.writeOpen wrote) written

end SbfSink

section

variable {F : Type} [RoundedArithmetic F]

/-- The loop of an export writes through the sink only. -/
theorem confines_exportFrames {start : Dict String (List Byte)} {outDir : String}
    {before frames : List SbfFrame} {calls : List SinkCall} {state final : ExportState}
    (reached : Reached outDir before calls state) (confines : state.sbfSink.Confines start)
    (rebuildable : ∀ frame ∈ frames, frame.Rebuildable)
    (result : exportFrames F state frames = .ok final) : final.sbfSink.Confines start := by
  induction frames generalizing before calls state with
  | nil =>
      cases result
      exact confines
  | cons frame later induction =>
      rcases List.forall_mem_cons.mp rebuildable with ⟨first, rest⟩
      rw [exportFrames, List.foldlM_cons] at result
      rcases Checked.bind_eq_ok.mp result with ⟨middle, exported, laterExported⟩
      rcases exports_of_exportFrame reached first exported with ⟨newCalls, run, _⟩
      rcases emits_of_exportFrame reached first exported with ⟨_, following, _⟩
      exact induction following (confines.foldlM (fun confines wrote => confines.call wrote) run)
        rest laterExported

/-- What is on the disk after an export. -/
theorem disk_of_completed {data : List Byte} {outDir : String} {disk : Dict String (List Byte)}
    {summary : ExportSummary} (completed : exportRecording F data outDir disk = .ok summary)
    (path : String) :
    summary.state.sbfSink.disk.lookup path =
      if path ∈ (openOrder (callsOf F (iterFrames data))).map (SbfSink.antennaPath outDir) then
        some (summary.state.sbfSink.disk.getD path [])
      else (cleanupGeneratedGnssOutputs outDir disk).lookup path := by
  rcases Checked.bind_eq_ok.mp completed with ⟨state, exported, returned⟩
  cases returned
  have rebuildable : ∀ frame ∈ iterFrames data, frame.Rebuildable :=
    fun frame member => rebuildable_of_mem_iterFrames member
  have fresh := Reached.fresh outDir (cleanupGeneratedGnssOutputs outDir disk)
  have start : (SbfSink.fresh outDir (cleanupGeneratedGnssOutputs outDir disk)).Confines
      (cleanupGeneratedGnssOutputs outDir disk) := fun _ => rfl
  have confines := confines_exportFrames fresh start rebuildable exported
  have mirrors := (reached_emissions fresh rebuildable exported).mirrors
  have files : state.sbfSink.files.map Prod.snd =
      (openOrder (callsOf F (iterFrames data))).map (SbfSink.antennaPath outDir) := by
    rw [mirrors.files, List.map_map]
    rfl
  rw [← files]
  exact confines path

theorem disk_antennaPath {data : List Byte} {outDir : String} {disk : Dict String (List Byte)}
    {summary : ExportSummary} (completed : exportRecording F data outDir disk = .ok summary)
    {ant : Nat} (isOpen : ant ∈ openOrder (callsOf F (iterFrames data))) :
    summary.state.sbfSink.disk.lookup (SbfSink.antennaPath outDir ant) =
      some (projection ant (callsOf F (iterFrames data))).flatten := by
  rw [disk_of_completed completed, if_pos (List.mem_map_of_mem isOpen)]
  rcases Checked.bind_eq_ok.mp completed with ⟨state, exported, returned⟩
  cases returned
  have mirrors := (reached_emissions (.fresh outDir (cleanupGeneratedGnssOutputs outDir disk))
    (fun frame member => rebuildable_of_mem_iterFrames member) exported).mirrors
  have content := (mirrors.holds ant isOpen).1
  rw [SbfSink.content, SbfSink.pathFor, mirrors.directory] at content
  exact congrArg some content

/-- The files by antenna do not depend on what was in the directory, and no other file
changes. -/
theorem disk_alike {data : List Byte} {outDir : String} {disk other : Dict String (List Byte)}
    {summary another : ExportSummary} (completed : exportRecording F data outDir disk = .ok summary)
    (alone : exportRecording F data outDir other = .ok another) (path : String) :
    summary.state.sbfSink.disk.lookup path =
      if isGenerated outDir path = true then another.state.sbfSink.disk.lookup path
      else disk.lookup path := by
  by_cases isOpen : path ∈
      (openOrder (callsOf F (iterFrames data))).map (SbfSink.antennaPath outDir)
  · rcases List.mem_map.mp isOpen with ⟨ant, member, rfl⟩
    rw [if_pos (isGenerated_antennaPath outDir ant), disk_antennaPath completed member,
      disk_antennaPath alone member]
  · rw [disk_of_completed completed, disk_of_completed alone, if_neg isOpen, if_neg isOpen,
      lookup_cleanup, lookup_cleanup]
    split
    · rfl
    · rfl

theorem csv_alike {data : List Byte} {outDir : String} {disk other : Dict String (List Byte)}
    {summary another : ExportSummary} (completed : exportRecording F data outDir disk = .ok summary)
    (alone : exportRecording F data outDir other = .ok another) (name : String) :
    summary.state.sink.lookup (name ++ ".csv") = another.state.sink.lookup (name ++ ".csv") := by
  have here := csvWritten_of_completed completed
  have there := csvWritten_of_completed alone
  by_cases last : name = "block_summary"
  · rcases Prod.mk.inj (here.tables.trans there.tables.symm) with ⟨counts, revisions⟩
    have rows : blockSummaryRow summary.state = blockSummaryRow another.state := by
      funext blockId
      rw [blockSummaryRow, blockSummaryRow, counts, revisions]
    rw [last]
    change summary.state.sink.lookup "block_summary.csv" =
      another.state.sink.lookup "block_summary.csv"
    rw [here.summary, there.summary, counts, rows]
  · rw [here.files name last, there.files name last]

/-- An export does not depend on the directory to complete. -/
theorem completes_alone {data : List Byte} {outDir : String} {disk : Dict String (List Byte)}
    {summary : ExportSummary} (completed : exportRecording F data outDir disk = .ok summary)
    (other : Dict String (List Byte)) :
    ∃ another, exportRecording F data outDir other = .ok another :=
  completes_of_frames completed (fun frame member => ⟨frame, member, frame.offset, rfl⟩) outDir
    other

/-! ## Many exports -/

/-- The CSV file that the export of a recording leaves in an empty directory. -/
def csvLeft (F : Type) [FloatArithmetic F] (outDir : String) (data : List Byte) (name : String) :
    Option (List String × List (List Cell)) :=
  (exportRecording F data outDir ∅).toOption.bind fun summary =>
    summary.state.sink.lookup (name ++ ".csv")

theorem lookup_union_eq_or (newer older : CsvSink) (filename : String) :
    AList.lookup filename (newer ∪ older) =
      (newer.lookup filename).or (older.lookup filename) := by
  by_cases present : filename ∈ newer
  · rw [AList.lookup_union_left present]
    rcases Option.isSome_iff_exists.mp (AList.lookup_isSome.mpr present) with ⟨file, found⟩
    rw [found]
    rfl
  · rw [AList.lookup_union_right present, AList.lookup_eq_none.mpr present]
    rfl

end

end AsterxDriver.Parser
