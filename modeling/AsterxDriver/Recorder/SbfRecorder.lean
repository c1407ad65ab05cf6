import AsterxDriver.Foundation.Dict
import AsterxDriver.Sbf.FrameSync

/-! # SBF recorder

`sbf_recorder.hpp` and `sbf_recorder.cpp`. A file on the disk is the bytes
written to its stream; flushing and closing do not change them. The clocks and
the outcome of each file operation come from outside, one answer for each
question in the order in which the recorder asks. -/

namespace AsterxDriver.Recorder

open Foundation Sbf

structure Config where
  outputDir : String
  filePrefix : String
  rotateBytes : Nat
  /-- In seconds. -/
  rotateInterval : Int

/-- What the recorder asks of the system; the first argument numbers the
questions. -/
structure Environment where
  utcTimestampNow : Nat → String
  /-- In nanoseconds. -/
  steadyNow : Nat → Int
  /-- The error text when the file cannot be opened. -/
  fopen : Nat → String → Option String
  /-- The number of bytes written, out of the number asked for. -/
  fwrite : Nat → Nat → Nat

/-- Every file can be opened and every write is complete. -/
structure Environment.Reliable (environment : Environment) : Prop where
  fopen : ∀ question path, environment.fopen question path = none
  fwrite : ∀ question count, environment.fwrite question count = count

inductive RecorderError
  | runtimeError (message : String)
  | undefinedBehaviour (fault : Fault)
  deriving DecidableEq, Repr

structure RecorderStats where
  bytesWritten : Nat
  framesWritten : Nat
  filesRotated : Nat
  crcFailed : Nat
  lengthInvalid : Nat
  resyncs : Nat
  deriving DecidableEq, Repr

/-- `out_` is cleared before each use and `fp_` is only compared with null. -/
structure SbfRecorder where
  config : Config
  sync : SbfFrameSync
  prevResyncs : Nat
  prevCrcFailed : Nat
  prevLengthInvalid : Nat
  isOpen : Bool
  currentPath : String
  currentSize : Nat
  fileStart : Int
  seq : Nat
  stats : RecorderStats
  disk : Dict String (List Byte)
  /-- How many questions were asked so far. -/
  questions : Nat

/-- `operator/` of a directory and a file name. -/
def joinPath (directory name : String) : String :=
  if name.startsWith "/" then name
  else if directory = "" ∨ directory.endsWith "/" then directory ++ name
  else directory ++ "/" ++ name

def Config.filePath (config : Config) (timestamp : String) (seq : Nat) : String :=
  joinPath config.outputDir
    (config.filePrefix ++ "-" ++ timestamp ++ "-" ++ toString seq ++ ".sbf")

/-- The header that `write_frame_` builds from the decoded fields. -/
def headerBytes (frame : Frame) : List Byte :=
  [0x24, 0x40,
    (frame.crc &&& 0xFF).setWidth 8, ((frame.crc >>> 8) &&& 0xFF).setWidth 8,
    (frame.rawId &&& 0xFF).setWidth 8, ((frame.rawId >>> 8) &&& 0xFF).setWidth 8,
    (frame.length &&& 0xFF).setWidth 8, ((frame.length >>> 8) &&& 0xFF).setWidth 8]

namespace SbfRecorder

/-- A recorder for a disk on which its output directory exists. -/
def fresh (config : Config) (disk : Dict String (List Byte)) : SbfRecorder where
  config := config
  sync := .fresh
  prevResyncs := 0
  prevCrcFailed := 0
  prevLengthInvalid := 0
  isOpen := false
  currentPath := ""
  currentSize := 0
  fileStart := 0
  seq := 0
  stats := ⟨0, 0, 0, 0, 0, 0⟩
  disk := disk
  questions := 0

def close (recorder : SbfRecorder) : SbfRecorder :=
  if recorder.isOpen then { recorder with isOpen := false, currentSize := 0 }
  else recorder

variable (environment : Environment)

/-- Opening for writing empties a file that exists. -/
def openNewFile (recorder : SbfRecorder) : Except RecorderError SbfRecorder :=
  let stats := if recorder.isOpen then
      { recorder.stats with filesRotated := recorder.stats.filesRotated + 1 }
    else recorder.stats
  let seq := recorder.seq + 1
  let path := recorder.config.filePath
    (environment.utcTimestampNow recorder.questions) seq
  match environment.fopen recorder.questions path with
  | some reason =>
      .error (.runtimeError ("cannot open output file '" ++ path ++ "': " ++ reason))
  | none => .ok { recorder with
      isOpen := true
      stats := stats
      seq := seq
      currentPath := path
      currentSize := 0
      fileStart := environment.steadyNow recorder.questions
      disk := recorder.disk.insert path []
      questions := recorder.questions + 1 }

def rotateIfNeeded (recorder : SbfRecorder) : Except RecorderError SbfRecorder :=
  if ¬ recorder.isOpen then .ok recorder
  else
    let now := environment.steadyNow recorder.questions
    let bySize := recorder.currentSize ≥ recorder.config.rotateBytes
    let byTime := now - recorder.fileStart ≥ recorder.config.rotateInterval * 10 ^ 9
    let asked := { recorder with questions := recorder.questions + 1 }
    if bySize ∨ byTime then asked.openNewFile environment else .ok asked

/-- A short write leaves the bytes that it did write in the file. -/
def fwrite (recorder : SbfRecorder) (bytes : List Byte) : Nat × SbfRecorder :=
  let written := environment.fwrite recorder.questions bytes.length
  (written, { recorder with
    disk := recorder.disk.modify recorder.currentPath [] (· ++ bytes.take written)
    questions := recorder.questions + 1 })

def writeFrame (recorder : SbfRecorder) (frame : Frame) :
    Except RecorderError SbfRecorder := do
  let (written, recorder) := recorder.fwrite environment (headerBytes frame)
  if written ≠ 8 then .error (.runtimeError "fwrite(header) failed")
  else
    let recorder ←
      if frame.body = [] then .ok recorder
      else
        let (written, recorder) := recorder.fwrite environment frame.body
        if written ≠ frame.body.length then .error (.runtimeError "fwrite(body) failed")
        else .ok recorder
    return { recorder with
      currentSize := recorder.currentSize + frame.length.toNat
      stats := { recorder.stats with
        bytesWritten := recorder.stats.bytesWritten + frame.length.toNat
        framesWritten := recorder.stats.framesWritten + 1 } }

def writeAndRotate (recorder : SbfRecorder) (frame : Frame) :
    Except RecorderError SbfRecorder := do
  let recorder ← recorder.writeFrame environment frame
  recorder.rotateIfNeeded environment

/-- The drop counters of the synchronizer, added by their differences. -/
def addDrops (recorder : SbfRecorder) (sync : SbfFrameSync) : SbfRecorder :=
  { recorder with
    sync := sync
    stats := { recorder.stats with
      crcFailed := recorder.stats.crcFailed +
        (sync.stats.crcFailed - recorder.prevCrcFailed)
      lengthInvalid := recorder.stats.lengthInvalid +
        (sync.stats.lengthInvalid - recorder.prevLengthInvalid)
      resyncs := recorder.stats.resyncs + (sync.stats.resyncs - recorder.prevResyncs) }
    prevCrcFailed := sync.stats.crcFailed
    prevLengthInvalid := sync.stats.lengthInvalid
    prevResyncs := sync.stats.resyncs }

def ensureOpen (recorder : SbfRecorder) : Except RecorderError SbfRecorder :=
  if recorder.isOpen then .ok recorder else recorder.openNewFile environment

def feed (recorder : SbfRecorder) (bytes : List Byte) :
    Except RecorderError SbfRecorder := do
  let recorder ← recorder.ensureOpen environment
  let (sync, out) ← (recorder.sync.feed bytes).mapError .undefinedBehaviour
  out.foldlM (writeAndRotate environment) (recorder.addDrops sync)

end SbfRecorder

/-! ## Runs -/

inductive Call
  | feed (bytes : List Byte)
  | close

/-- The chunks that a sequence of calls hands to the recorder. -/
def fedChunks (calls : List Call) : List (List Byte) :=
  calls.filterMap fun
    | .feed bytes => some bytes
    | .close => none

namespace SbfRecorder

variable (environment : Environment)

def apply (recorder : SbfRecorder) : Call → Except RecorderError SbfRecorder
  | .feed bytes => recorder.feed environment bytes
  | .close => .ok recorder.close

def run (recorder : SbfRecorder) (calls : List Call) :
    Except RecorderError SbfRecorder :=
  calls.foldlM (apply environment) recorder

end SbfRecorder

end AsterxDriver.Recorder
