import AsterxDriver.Foundation.WhileLoop
import AsterxDriver.Sbf.Session

/-! # Iterations of the loop in `feed`

`pos` moves back when a candidate is rejected, but the cursor never does, and a
rejection moves it past the rejected `$`. So the loop ends, and one call rejects
each offset at most once. -/

namespace AsterxDriver.Sbf

open Foundation ByteString

/-- The iteration entered with these variables counts a rejected candidate. -/
def Loop.rejects (buf : List Byte) (loop : Loop) : Bool :=
  match step buf loop with
  | .ok (_, next) => loop.stats.rejections < next.stats.rejections
  | .error _ => false

variable {buf : List Byte} {loop next : Loop} {progress : Bool}

theorem rejects_eq (steps : step buf loop = .ok (progress, next)) :
    loop.rejects buf = decide (loop.stats.rejections < next.stats.rejections) := by
  rw [Loop.rejects, steps]

theorem step_rejections (steps : step buf loop = .ok (progress, next)) :
    next.stats.rejections = loop.stats.rejections + (if loop.rejects buf then 1 else 0) := by
  rw [rejects_eq steps]
  cases step_moves steps with
  | stalls forward stats => simp [stats]
  | advances forward nearer rejections resyncs => simp [rejections]
  | rejects candidate inside passes rejections resyncs => simp [rejections]

theorem step_resyncs (steps : step buf loop = .ok (progress, next)) :
    next.stats.resyncs = loop.stats.resyncs + (if loop.rejects buf then 1 else 0) := by
  rw [rejects_eq steps]
  cases step_moves steps with
  | stalls forward stats => simp [stats]
  | advances forward nearer rejections resyncs => simp [rejections, resyncs]
  | rejects candidate inside passes rejections resyncs => simp [rejections, resyncs]

theorem step_cursor_le (steps : step buf loop = .ok (progress, next)) :
    loop.cursor ≤ next.cursor := by
  cases step_moves steps with
  | stalls forward stats => exact forward
  | advances forward nearer rejections resyncs => exact forward
  | rejects candidate inside passes rejections resyncs => omega

/-- A step that rejects has a candidate at the cursor, and moves on from it. -/
theorem candidate_of_step (steps : step buf loop = .ok (progress, next))
    (rejected : loop.rejects buf = true) :
    loop.cursor = loop.frameStart ∧ loop.frameStart < buf.length ∧ loop.cursor < next.cursor := by
  rw [rejects_eq steps, decide_eq_true_eq] at rejected
  cases step_moves steps with
  | stalls forward stats =>
      rw [stats] at rejected
      omega
  | advances forward nearer rejections resyncs => omega
  | rejects candidate inside passes rejections resyncs => omega

theorem candidate_of_rejects (rejected : loop.rejects buf = true) :
    loop.cursor = loop.frameStart ∧ loop.frameStart < buf.length := by
  have steps : ∃ progress next, step buf loop = .ok (progress, next) := by
    unfold Loop.rejects at rejected
    split at rejected
    · exact ⟨_, _, ‹_›⟩
    · cases rejected
  rcases steps with ⟨progress, next, steps⟩
  have candidate := candidate_of_step steps rejected
  exact ⟨candidate.1, candidate.2.1⟩

theorem cursor_lt_of_rejects (steps : step buf loop = .ok (progress, next))
    (rejected : loop.rejects buf = true) : loop.cursor < next.cursor :=
  (candidate_of_step steps rejected).2.2

/-! ## Whole loops -/

theorem iterations_of_runLoop {final : Loop} (runs : runLoop buf loop = .ok final) :
    ∃ visited, Iterations (step buf) loop visited final := by
  fun_induction runLoop buf loop with
  | case1 loop fault fails => cases runs
  | case2 loop stalled stalls =>
      cases runs
      exact ⟨[loop], .last stalls⟩
  | case3 loop after progresses smaller induction =>
      rcases induction runs with ⟨visited, iterations⟩
      exact ⟨loop :: visited, .next progresses iterations⟩

theorem measure_start (buf : List Byte) {loop : Loop} (front : loop.cursor = 0) :
    loop.measure buf ≤ 4 * buf.length + 3 := by
  have rank := loop.state.rank_le
  rw [Loop.measure, front]
  omega

/-- The rejected candidates start one behind the other. -/
theorem pairwise_rejected {final : Loop} {visited : List Loop}
    (iterations : Iterations (step buf) loop visited final) :
    (visited.filter (Loop.rejects buf)).Pairwise (·.frameStart < ·.frameStart) := by
  have ordered := iterations.pairwise_position_lt step_cursor_le cursor_lt_of_rejects
  apply ordered.imp_of_mem
  intro first second firstMember secondMember apart
  have firstCandidate := candidate_of_rejects (List.mem_filter.mp firstMember).2
  have secondCandidate := candidate_of_rejects (List.mem_filter.mp secondMember).2
  rwa [firstCandidate.1, secondCandidate.1] at apart

theorem length_rejected_le {final : Loop} {visited : List Loop}
    (iterations : Iterations (step buf) loop visited final) :
    (visited.filter (Loop.rejects buf)).length ≤ buf.length :=
  iterations.length_marked_le step_cursor_le cursor_lt_of_rejects
    (fun rejected => by
      have candidate := candidate_of_rejects rejected
      omega)

/-! ## Calls -/

/-- The loop variables when a call enters the loop. -/
def SbfFrameSync.loopStart (sync : SbfFrameSync) (bytes : List Byte) : Loop :=
  { state := sync.state, pos := 0, frameStart := 0, frameDrain := 0,
    stats := count sync.stats bytes, out := [] }

theorem SbfFrameSync.cursor_loopStart (sync : SbfFrameSync) (bytes : List Byte) :
    (sync.loopStart bytes).cursor = 0 := by
  simp only [Loop.cursor]
  split <;> rfl

theorem persist_stats {final : Loop} {sync : SbfFrameSync}
    (persists : persist buf final = .ok sync) : sync.stats = final.stats := by
  simp only [persist] at persists
  split at persists
  · split at persists
    · split at persists
      · rcases Checked.bind_eq_ok.mp persists with ⟨kept, _, persists⟩
        cases persists
        rfl
      · cases persists
    · cases persists
      rfl
  · split at persists
    · split at persists
      · rcases Checked.bind_eq_ok.mp persists with ⟨kept, _, persists⟩
        cases persists
        rfl
      · cases persists
        rfl
    · cases persists
      rfl

/-- A call that returns has run the loop to its end. -/
theorem iterations_of_feed {sync next : SbfFrameSync} {bytes drained : List Byte}
    {frames : List Frame} (drains : drainEmitted sync = .ok drained)
    (fed : sync.feed bytes = .ok (next, frames)) :
    ∃ visited final,
      Iterations (step (drained ++ bytes)) (sync.loopStart bytes) visited final ∧
      final.stats = next.stats ∧ final.out = frames := by
  rw [SbfFrameSync.feed, drains, Checked.ok_bind] at fed
  rcases Checked.bind_eq_ok.mp fed with ⟨final, runs, fed⟩
  rcases Checked.bind_eq_ok.mp fed with ⟨persisted, persists, fed⟩
  cases fed
  rcases iterations_of_runLoop runs with ⟨visited, iterations⟩
  exact ⟨visited, final, iterations, (persist_stats persists).symm, rfl⟩

/-- The offsets at which the iterations entered with `visited` reject a
candidate, in a stream in which the buffer starts at `position`. -/
def rejectedOffsets (position : Nat) (buf : List Byte) (visited : List Loop) : List Nat :=
  (visited.filter (Loop.rejects buf)).map fun loop => position + loop.frameStart

theorem length_rejectedOffsets (position : Nat) (buf : List Byte) (visited : List Loop) :
    (rejectedOffsets position buf visited).length =
      (visited.filter (Loop.rejects buf)).length :=
  List.length_map _

theorem nodup_rejectedOffsets {final : Loop} {visited : List Loop} (position : Nat)
    (iterations : Iterations (step buf) loop visited final) :
    (rejectedOffsets position buf visited).Nodup := by
  rw [rejectedOffsets, List.Nodup, List.pairwise_map]
  apply (pairwise_rejected iterations).imp
  intro first second apart
  omega

/-- In every state a run can reach, the loop of a call on any chunk ends after a
bounded number of iterations. The stream offsets it rejects are all different,
and each of them is counted once as a failure and once as a resync. -/
theorem feed_rejects_offsets_once (ops : List Op) (bytes : List Byte) :
    ∃ session drained position visited final next frames,
      Session.fresh.run ops = .ok session ∧
      drainEmitted session.sync = .ok drained ∧
      (session.received ++ bytes).drop position = drained ++ bytes ∧
      Iterations (step (drained ++ bytes)) (session.sync.loopStart bytes) visited final ∧
      visited.length ≤ 4 * (drained ++ bytes).length + 4 ∧
      session.sync.feed bytes = .ok (next, frames) ∧
      final.stats = next.stats ∧ final.out = frames ∧
      (rejectedOffsets position (drained ++ bytes) visited).Nodup ∧
      next.stats.rejections = session.sync.stats.rejections +
        (rejectedOffsets position (drained ++ bytes) visited).length ∧
      next.stats.resyncs = session.sync.stats.resyncs +
        (rejectedOffsets position (drained ++ bytes) visited).length ∧
      next.stats.resyncs ≤ session.sync.stats.resyncs + (drained ++ bytes).length := by
  rcases Session.run_sound Session.sound_fresh ops with ⟨session, result, sound⟩
  have drains := SbfFrameSync.drainEmitted_eq sound.tracks.consistent
  have fed := SbfFrameSync.feed_eq sound.tracks.consistent bytes
  rcases sound.tracks.tokens bytes with ⟨_, position, stands, _⟩
  rcases iterations_of_feed drains fed with ⟨visited, final, iterations, stats, out⟩
  have bounded := iterations.length_le step_measure
  have start := measure_start (session.sync.pending ++ bytes)
    (session.sync.cursor_loopStart bytes)
  have rejections := iterations.count_eq step_rejections
  have resyncs := iterations.count_eq step_resyncs
  have few := length_rejected_le iterations
  rw [stats] at rejections resyncs
  refine ⟨session, session.sync.pending, position, visited, final, _, _, result, drains, stands,
    iterations, by omega, fed, stats, out, nodup_rejectedOffsets position iterations, ?_, ?_, ?_⟩
  · rw [length_rejectedOffsets, rejections]
    rfl
  · rw [length_rejectedOffsets, resyncs]
    rfl
  · rw [resyncs]
    exact Nat.add_le_add_left few _

end AsterxDriver.Sbf
