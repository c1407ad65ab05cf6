import AsterxDriver.Foundation.NumberedName
import AsterxDriver.Parser.MeasEpoch

/-! # Files by antenna

`class SbfSink` of `scripts/parser.py`. A file is opened at the first frame of
its antenna and starts with the common frames so far. Opening and writing files
succeed; a handle is the path it was opened at. -/

namespace AsterxDriver.Parser

open Foundation ByteString

/-- `files` stands in the order in which the files were opened. -/
structure SbfSink where
  outDir : String
  files : List (Nat × String)
  paths : Dict Nat String
  frames : Dict Nat Nat
  bytes : Dict Nat Nat
  commonHistory : List (List Byte)
  commonFrames : Nat
  disk : Dict String (List Byte)

namespace SbfSink

def fresh (outDir : String) (disk : Dict String (List Byte)) : SbfSink :=
  ⟨outDir, [], ∅, ∅, ∅, [], 0, disk⟩

/-- The path of an antenna's file in the output directory. -/
def antennaPath (outDir : String) (ant : Nat) : String :=
  outDir ++ "/gnss-ant" ++ toString ant ++ "-" ++ antennaName ant ++ ".sbf"

def pathFor (sink : SbfSink) (ant : Nat) : String := antennaPath sink.outDir ant

def writeOpen (sink : SbfSink) (ant : Nat) (frameBytes : List Byte) :
    Except PyError SbfSink :=
  match sink.files.lookup ant with
  | none => .error .keyError
  | some path => .ok { sink with
      disk := sink.disk.modify path [] (· ++ frameBytes)
      frames := sink.frames.modify ant 0 (· + 1)
      bytes := sink.bytes.modify ant 0 (· + frameBytes.length) }

/-- The file is empty after `open("wb")`, also when it was there before. -/
def openFile (sink : SbfSink) (ant : Nat) : SbfSink :=
  { sink with
    paths := sink.paths.insert ant (sink.pathFor ant)
    files := sink.files ++ [(ant, sink.pathFor ant)]
    disk := sink.disk.insert (sink.pathFor ant) [] }

def write (sink : SbfSink) (ant : Nat) (frameBytes : List Byte) : Except PyError SbfSink := do
  if ant ∉ sink.files.map Prod.fst then
    let replayed ← sink.commonHistory.foldlM (·.writeOpen ant) (sink.openFile ant)
    replayed.writeOpen ant frameBytes
  else sink.writeOpen ant frameBytes

def writeCommon (sink : SbfSink) (frameBytes : List Byte) : Except PyError SbfSink :=
  (sink.files.map Prod.fst).foldlM (fun sink ant => sink.writeOpen ant frameBytes)
    { sink with
      commonHistory := sink.commonHistory ++ [frameBytes]
      commonFrames := sink.commonFrames + 1 }

/-- The bytes in the file of an antenna. -/
def content (sink : SbfSink) (ant : Nat) : List Byte := sink.disk.getD (sink.pathFor ant) []

end SbfSink

inductive SinkCall
  | write (ant : Nat) (frameBytes : List Byte)
  | writeCommon (frameBytes : List Byte)

def SinkCall.frameBytes : SinkCall → List Byte
  | .write _ frameBytes => frameBytes
  | .writeCommon frameBytes => frameBytes

def SbfSink.call (sink : SbfSink) : SinkCall → Except PyError SbfSink
  | .write ant frameBytes => sink.write ant frameBytes
  | .writeCommon frameBytes => sink.writeCommon frameBytes

def SbfSink.run (sink : SbfSink) (calls : List SinkCall) : Except PyError SbfSink :=
  calls.foldlM SbfSink.call sink

/-! ## Names -/

theorem SbfSink.antennaPath_injective (outDir : String) {first second : Nat}
    (same : antennaPath outDir first = antennaPath outDir second) : first = second := by
  have shape : ∀ ant, (antennaPath outDir ant).toList =
      (outDir ++ "/gnss-ant").toList ++
        (NumberedName.digits ant ++ '-' :: (antennaName ant ++ ".sbf").toList) := by
    intro ant
    simp [antennaPath, NumberedName.digits]
  have lists := congrArg String.toList same
  rw [shape, shape] at lists
  exact NumberedName.number_before_mark (by decide) (List.append_cancel_left lists)

end AsterxDriver.Parser
