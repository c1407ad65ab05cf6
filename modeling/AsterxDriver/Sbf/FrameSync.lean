import AsterxDriver.Foundation.Checked
import AsterxDriver.Sbf.Crc16Xmodem

/-! # SBF frame synchronizer

`frame_sync.hpp` and `frame_sync.cpp`. Every deque read, every erase, both
asserts and the two `size_t` subtractions are checked: what would be undefined
behaviour or an overflow in the source is a `Fault` here. -/

namespace AsterxDriver.Sbf

open Foundation

def kMaxSbfLength : BitVec 16 := 8188

/-- The counters are 64-bit in the source and do not wrap in any run that can
be made. -/
structure FrameSyncStats where
  bytesConsumed : Nat
  framesEmitted : Nat
  crcFailed : Nat
  lengthInvalid : Nat
  resyncs : Nat
  deriving DecidableEq, Repr

def FrameSyncStats.zero : FrameSyncStats := ⟨0, 0, 0, 0, 0⟩

structure Frame where
  crc : BitVec 16
  rawId : BitVec 16
  length : BitVec 16
  body : List Byte
  deriving DecidableEq, Repr

inductive State
  | idle
  | gotDollar
  | readingHeader
  | readingBody
  deriving DecidableEq, Repr

inductive Fault
  | indexOutOfRange (index : Nat)
  | eraseOutOfRange (count : Nat)
  | assertFailed (expression : String)
  | sizeUnderflow
  deriving DecidableEq, Repr

structure SbfFrameSync where
  buf : List Byte
  state : State
  stats : FrameSyncStats
  frameDrain : Nat
  deriving DecidableEq, Repr

namespace SbfFrameSync

def fresh : SbfFrameSync := ⟨[], .idle, .zero, 0⟩

/-- `stats_` is cumulative and survives a reset. -/
def reset (sync : SbfFrameSync) : SbfFrameSync :=
  { sync with buf := [], state := .idle, frameDrain := 0 }

end SbfFrameSync

/-! ## Checked operations -/

def byteAt (buf : List Byte) (index : Nat) : Except Fault Byte :=
  match buf[index]? with
  | some byte => .ok byte
  | none => .error (.indexOutOfRange index)

def bufU16le (buf : List Byte) (offset : Nat) : Except Fault (BitVec 16) := do
  let low ← byteAt buf offset
  let high ← byteAt buf (offset + 1)
  return low.setWidth 16 ||| (high.setWidth 16 <<< 8)

/-- The element-by-element copy out of the deque. -/
def copyBytes (buf : List Byte) (offset : Nat) : Nat → Except Fault (List Byte)
  | 0 => .ok []
  | count + 1 => do
      let byte ← byteAt buf offset
      let later ← copyBytes buf (offset + 1) count
      return byte :: later

def eraseFront (buf : List Byte) (count : Nat) : Except Fault (List Byte) :=
  if count ≤ buf.length then .ok (buf.drop count)
  else .error (.eraseOutOfRange count)

def checkedSub (left right : Nat) : Except Fault Nat :=
  if right ≤ left then .ok (left - right) else .error .sizeUnderflow

/-! ## The state machine -/

/-- The variables of the loop in `feed`. `buf_` does not change inside it. -/
structure Loop where
  state : State
  pos : Nat
  frameStart : Nat
  frameDrain : Nat
  stats : FrameSyncStats
  out : List Frame
  deriving DecidableEq, Repr

def Loop.resync (loop : Loop) : Loop :=
  { loop with pos := loop.frameStart + 1, frameStart := 0, state := .idle }

def stepIdle (buf : List Byte) (loop : Loop) : Bool × Loop :=
  let pos := loop.pos + ((buf.drop loop.pos).takeWhile (· != 0x24)).length
  if pos < buf.length then
    (true, { loop with pos := pos, frameStart := pos, state := .gotDollar })
  else
    (false, { loop with pos := pos })

def stepGotDollar (buf : List Byte) (loop : Loop) : Except Fault (Bool × Loop) := do
  if loop.frameStart + 1 ≥ buf.length then
    return (false, loop)
  else
    let next ← byteAt buf (loop.frameStart + 1)
    if next = 0x40 then
      return (true, { loop with pos := loop.frameStart + 2, state := .readingHeader })
    else if next = 0x24 then
      return (true, { loop with
        frameStart := loop.frameStart + 1, pos := loop.frameStart + 1 })
    else
      return (true, loop.resync)

def stepReadingHeader (buf : List Byte) (loop : Loop) :
    Except Fault (Bool × Loop) := do
  if loop.frameStart + 8 > buf.length then
    return (false, loop)
  else
    let lenField ← bufU16le buf (loop.frameStart + 6)
    if lenField % 4 ≠ 0 ∨ lenField < 8 ∨ lenField > kMaxSbfLength then
      return (true, { loop.resync with stats := { loop.stats with
        lengthInvalid := loop.stats.lengthInvalid + 1
        resyncs := loop.stats.resyncs + 1 } })
    else
      return (true, { loop with pos := loop.frameStart + 8, state := .readingBody })

/-- The CRC input is copied to the stack or to the heap depending on its size;
both copies hold the same bytes. -/
def stepReadingBody (buf : List Byte) (loop : Loop) :
    Except Fault (Bool × Loop) := do
  let lenField ← bufU16le buf (loop.frameStart + 6)
  let total := lenField.toNat
  if loop.frameStart + total > buf.length then
    return (false, loop)
  else
    let crcDataLen ← checkedSub total 4
    let tmp ← copyBytes buf (loop.frameStart + 4) crcDataLen
    let headerCrc ← bufU16le buf (loop.frameStart + 2)
    let idField ← bufU16le buf (loop.frameStart + 4)
    if crcCcittXmodem tmp ≠ headerCrc then
      return (true, { loop.resync with stats := { loop.stats with
        crcFailed := loop.stats.crcFailed + 1
        resyncs := loop.stats.resyncs + 1 } })
    else
      let bodySize ← checkedSub total 8
      let bodyBytes ← copyBytes buf (loop.frameStart + 8) bodySize
      return (true,
        { state := .idle
          pos := loop.frameStart + total
          frameStart := 0
          frameDrain := loop.frameStart + total
          stats := { loop.stats with framesEmitted := loop.stats.framesEmitted + 1 }
          out := loop.out ++ [⟨headerCrc, idField, lenField, bodyBytes⟩] })

/-- One iteration of `while (progress)`; the flag is the new `progress`. -/
def step (buf : List Byte) (loop : Loop) : Except Fault (Bool × Loop) :=
  match loop.state with
  | .idle => .ok (stepIdle buf loop)
  | .gotDollar => stepGotDollar buf loop
  | .readingHeader => stepReadingHeader buf loop
  | .readingBody => stepReadingBody buf loop

/-- The first byte that is not yet committed to a decision. -/
def Loop.cursor (loop : Loop) : Nat :=
  match loop.state with
  | .idle => loop.pos
  | _ => loop.frameStart

theorem Loop.cursor_of_busy {loop : Loop} (busy : loop.state ≠ .idle) :
    loop.cursor = loop.frameStart := by
  unfold cursor
  split
  · contradiction
  · rfl

def State.rank : State → Nat
  | .idle => 3
  | .gotDollar => 2
  | .readingHeader => 1
  | .readingBody => 0

/-- The candidate start only moves forward; at one start the machine only moves
on through its states. -/
def Loop.measure (buf : List Byte) (loop : Loop) : Nat :=
  4 * (buf.length - loop.cursor) + loop.state.rank

theorem checkedSub_eq_ok {left right difference : Nat} :
    checkedSub left right = .ok difference ↔
      right ≤ left ∧ left - right = difference := by
  unfold checkedSub
  split <;> simp_all

def FrameSyncStats.rejections (stats : FrameSyncStats) : Nat :=
  stats.crcFailed + stats.lengthInvalid

/-- What one iteration does to the cursor and to the counters of rejections. The
flag is `progress`. -/
inductive Moves (buf : List Byte) (loop : Loop) : Bool → Loop → Prop
  | stalls {next : Loop} (forward : loop.cursor ≤ next.cursor)
      (stats : next.stats = loop.stats) : Moves buf loop false next
  | advances {next : Loop} (forward : loop.cursor ≤ next.cursor)
      (nearer : next.measure buf < loop.measure buf)
      (rejections : next.stats.rejections = loop.stats.rejections)
      (resyncs : next.stats.resyncs = loop.stats.resyncs) : Moves buf loop true next
  | rejects {next : Loop} (candidate : loop.cursor = loop.frameStart)
      (inside : loop.frameStart < buf.length) (passes : next.cursor = loop.frameStart + 1)
      (rejections : next.stats.rejections = loop.stats.rejections + 1)
      (resyncs : next.stats.resyncs = loop.stats.resyncs + 1) : Moves buf loop true next

section

variable {buf : List Byte} {loop next : Loop} {progress : Bool}

theorem stepIdle_moves (idle : loop.state = .idle)
    (steps : stepIdle buf loop = (progress, next)) : Moves buf loop progress next := by
  simp only [stepIdle] at steps
  split at steps
  · rename_i inside
    cases steps
    refine .advances ?_ ?_ rfl rfl
    · simp only [Loop.cursor, idle]
      omega
    · simp only [Loop.measure, Loop.cursor, idle, State.rank]
      omega
  · cases steps
    refine .stalls ?_ rfl
    simp only [Loop.cursor, idle]
    omega

theorem stepGotDollar_moves (gotDollar : loop.state = .gotDollar)
    (steps : stepGotDollar buf loop = .ok (progress, next)) : Moves buf loop progress next := by
  have cursor := loop.cursor_of_busy (by simp [gotDollar])
  simp only [stepGotDollar] at steps
  split at steps
  · cases steps
    exact .stalls (Nat.le_refl _) rfl
  · rename_i inside
    rcases Checked.bind_eq_ok.mp steps with ⟨byte, _, steps⟩
    split at steps
    · cases steps
      refine .advances (Nat.le_of_eq cursor) ?_ rfl rfl
      simp only [Loop.measure, Loop.cursor, gotDollar, State.rank]
      omega
    · split at steps
      · cases steps
        refine .advances ?_ ?_ rfl rfl
        · simp only [Loop.cursor, gotDollar]
          omega
        · simp only [Loop.measure, Loop.cursor, gotDollar, State.rank]
          omega
      · cases steps
        refine .advances ?_ ?_ rfl rfl
        · rw [cursor]
          exact Nat.le_succ _
        · simp only [Loop.measure, Loop.cursor, Loop.resync, gotDollar, State.rank]
          omega

theorem stepReadingHeader_moves (readingHeader : loop.state = .readingHeader)
    (steps : stepReadingHeader buf loop = .ok (progress, next)) :
    Moves buf loop progress next := by
  have cursor := loop.cursor_of_busy (by simp [readingHeader])
  simp only [stepReadingHeader] at steps
  split at steps
  · cases steps
    exact .stalls (Nat.le_refl _) rfl
  · rcases Checked.bind_eq_ok.mp steps with ⟨lenField, _, steps⟩
    split at steps
    · cases steps
      exact .rejects cursor (by omega) rfl (Nat.add_assoc _ _ 1).symm rfl
    · cases steps
      refine .advances (Nat.le_of_eq cursor) ?_ rfl rfl
      simp only [Loop.measure, Loop.cursor, readingHeader, State.rank]
      omega

theorem stepReadingBody_moves (readingBody : loop.state = .readingBody)
    (steps : stepReadingBody buf loop = .ok (progress, next)) : Moves buf loop progress next := by
  have cursor := loop.cursor_of_busy (by simp [readingBody])
  simp only [stepReadingBody] at steps
  rcases Checked.bind_eq_ok.mp steps with ⟨lenField, _, steps⟩
  split at steps
  · cases steps
    exact .stalls (Nat.le_refl _) rfl
  · rcases Checked.bind_eq_ok.mp steps with ⟨crcDataLen, crcRange, steps⟩
    rcases Checked.bind_eq_ok.mp steps with ⟨tmp, _, steps⟩
    rcases Checked.bind_eq_ok.mp steps with ⟨headerCrc, _, steps⟩
    rcases Checked.bind_eq_ok.mp steps with ⟨idField, _, steps⟩
    have large := (checkedSub_eq_ok.mp crcRange).1
    split at steps
    · cases steps
      exact .rejects cursor (by omega) rfl (Nat.add_right_comm _ 1 _) rfl
    · rcases Checked.bind_eq_ok.mp steps with ⟨bodySize, _, steps⟩
      rcases Checked.bind_eq_ok.mp steps with ⟨bodyBytes, _, steps⟩
      cases steps
      refine .advances ?_ ?_ rfl rfl
      · rw [cursor]
        exact Nat.le_add_right _ _
      · simp only [Loop.measure, Loop.cursor, readingBody, State.rank]
        omega

theorem step_moves (steps : step buf loop = .ok (progress, next)) :
    Moves buf loop progress next := by
  simp only [step] at steps
  split at steps
  · rename_i idle
    injection steps with steps
    exact stepIdle_moves idle steps
  · rename_i gotDollar
    exact stepGotDollar_moves gotDollar steps
  · rename_i readingHeader
    exact stepReadingHeader_moves readingHeader steps
  · rename_i readingBody
    exact stepReadingBody_moves readingBody steps

end

theorem State.rank_le (state : State) : state.rank ≤ 3 := by
  cases state <;> decide

/-- Every iteration that makes progress shrinks the measure, from any values of
the loop variables. -/
theorem step_measure {buf : List Byte} {loop next : Loop}
    (progress : step buf loop = .ok (true, next)) :
    next.measure buf < loop.measure buf := by
  cases step_moves progress with
  | advances forward nearer rejections resyncs => exact nearer
  | rejects candidate inside passes rejections resyncs =>
      have rank := next.state.rank_le
      rw [Loop.measure, Loop.measure, candidate, passes]
      omega

/-- `while (progress)`. -/
def runLoop (buf : List Byte) (loop : Loop) : Except Fault Loop :=
  match progress : step buf loop with
  | .error fault => .error fault
  | .ok (false, final) => .ok final
  | .ok (true, next) =>
      have := step_measure progress
      runLoop buf next
termination_by loop.measure buf

theorem runLoop_of_stall {buf : List Byte} {loop final : Loop}
    (stall : step buf loop = .ok (false, final)) :
    runLoop buf loop = .ok final := by
  rw [runLoop]
  split <;> simp_all

theorem runLoop_of_progress {buf : List Byte} {loop next : Loop}
    (progress : step buf loop = .ok (true, next)) :
    runLoop buf loop = runLoop buf next := by
  rw [runLoop]
  split <;> simp_all

/-! ## Feeding -/

/-- Step 1 of `feed`: drop the frames emitted by the previous call. -/
def drainEmitted (sync : SbfFrameSync) : Except Fault (List Byte) :=
  if sync.frameDrain > 0 then
    if sync.frameDrain ≤ sync.buf.length then eraseFront sync.buf sync.frameDrain
    else .error (.assertFailed "frame_drain_ <= buf_.size()")
  else .ok sync.buf

/-- Step 5 of `feed`: trim the buffer and decide what is drained later. -/
def persist (buf : List Byte) (loop : Loop) : Except Fault SbfFrameSync := do
  if loop.state ≠ .idle then
    if loop.frameStart > 0 then
      if loop.frameDrain ≤ loop.frameStart then
        let buf ← eraseFront buf loop.frameStart
        return ⟨buf, loop.state, loop.stats, 0⟩
      else .error (.assertFailed "frame_drain_ <= frame_start")
    else return ⟨buf, loop.state, loop.stats, loop.frameDrain⟩
  else if loop.frameDrain = 0 then
    if loop.pos > 0 ∧ loop.pos ≤ buf.length then
      let buf ← eraseFront buf loop.pos
      return ⟨buf, loop.state, loop.stats, loop.frameDrain⟩
    else return ⟨buf, loop.state, loop.stats, loop.frameDrain⟩
  else return ⟨buf, loop.state, loop.stats, loop.frameDrain⟩

namespace SbfFrameSync

/-- The new synchronizer and the frames appended to `out`. -/
def feed (sync : SbfFrameSync) (bytes : List Byte) :
    Except Fault (SbfFrameSync × List Frame) := do
  let drained ← drainEmitted sync
  let stats := { sync.stats with
    bytesConsumed := sync.stats.bytesConsumed + bytes.length }
  let buf := drained ++ bytes
  let final ← runLoop buf
    { state := sync.state, pos := 0, frameStart := 0, frameDrain := 0,
      stats := stats, out := [] }
  let next ← persist buf final
  return (next, final.out)

/-- Feeding chunks one after another; the frames are those of all calls. -/
def feedAll (sync : SbfFrameSync) :
    List (List Byte) → Except Fault (SbfFrameSync × List Frame)
  | [] => .ok (sync, [])
  | chunk :: chunks => do
      let (next, frames) ← sync.feed chunk
      let (final, later) ← next.feedAll chunks
      return (final, frames ++ later)

end SbfFrameSync

end AsterxDriver.Sbf
