import Mathlib.Data.List.Perm.Subperm
import Mathlib.Data.List.Range
import Mathlib.Tactic.Common

/-! # Loops that run while they make progress

The body of the loop returns whether it made progress and the new loop
variables. A loop that ends is given by the states its body was entered in. -/

namespace Foundation

variable {σ ε : Type} {step : σ → Except ε (Bool × σ)} {start final : σ} {visited : List σ}

/-- From `start` the loop body is entered in the states of `visited`, one after
another, and the loop ends with `final`. -/
inductive Iterations (step : σ → Except ε (Bool × σ)) : σ → List σ → σ → Prop
  | last {state final : σ} (stalls : step state = .ok (false, final)) :
      Iterations step state [state] final
  | next {state after final : σ} {visited : List σ} (progresses : step state = .ok (true, after))
      (later : Iterations step after visited final) :
      Iterations step state (state :: visited) final

/-- A measure that progress lowers bounds the number of iterations. -/
theorem Iterations.length_le {measure : σ → Nat}
    (decreases : ∀ {state after}, step state = .ok (true, after) →
      measure after < measure state)
    (iterations : Iterations step start visited final) :
    visited.length ≤ measure start + 1 := by
  induction iterations with
  | last stalls => exact Nat.le_add_left 1 _
  | next progresses later induction =>
      have lower := decreases progresses
      rw [List.length_cons]
      omega

/-- What grows by one in the marked states only, counts them. -/
theorem Iterations.count_eq {count : σ → Nat} {marked : σ → Bool}
    (counts : ∀ {state progress after}, step state = .ok (progress, after) →
      count after = count state + (if marked state then 1 else 0))
    (iterations : Iterations step start visited final) :
    count final = count start + (visited.filter marked).length := by
  induction iterations with
  | last stalls =>
      rw [counts stalls, ← List.countP_eq_length_filter, List.countP_singleton]
  | next progresses later induction =>
      rw [induction, counts progresses, ← List.countP_eq_length_filter,
        ← List.countP_eq_length_filter, List.countP_cons]
      omega

section

variable {position : σ → Nat} (forward : ∀ {state after}, step state = .ok (true, after) →
  position state ≤ position after)

include forward

theorem Iterations.position_le (iterations : Iterations step start visited final) :
    ∀ state ∈ visited, position start ≤ position state := by
  induction iterations with
  | last stalls => simp
  | next progresses later induction =>
      intro state member
      rcases List.mem_cons.mp member with rfl | member
      · exact Nat.le_refl _
      · exact Nat.le_trans (forward progresses) (induction state member)

variable {marked : σ → Bool}
  (leaves : ∀ {state after}, step state = .ok (true, after) → marked state = true →
    position state < position after)

include leaves

/-- A position that never moves back, and moves on from each marked state, is
marked at most once. -/
theorem Iterations.pairwise_position_lt
    (iterations : Iterations step start visited final) :
    (visited.filter marked).Pairwise (position · < position ·) := by
  induction iterations with
  | @last state final stalls =>
      cases isMarked : marked state with
      | false => simp [isMarked]
      | true => simp [isMarked]
  | @next state after final visited progresses later induction =>
      cases isMarked : marked state with
      | false =>
          rw [List.filter_cons, isMarked, if_neg Bool.false_ne_true]
          exact induction
      | true =>
          rw [List.filter_cons, isMarked, if_pos rfl, List.pairwise_cons]
          refine ⟨?_, induction⟩
          intro other member
          have behind := later.position_le forward other (List.mem_filter.mp member).1
          exact Nat.lt_of_lt_of_le (leaves progresses isMarked) behind

/-- So there are no more marked states than positions. -/
theorem Iterations.length_marked_le {bound : Nat}
    (inside : ∀ {state}, marked state = true → position state < bound)
    (iterations : Iterations step start visited final) :
    (visited.filter marked).length ≤ bound := by
  have ordered := iterations.pairwise_position_lt forward leaves
  have distinct : ((visited.filter marked).map position).Nodup := by
    rw [List.Nodup, List.pairwise_map]
    exact ordered.imp Nat.ne_of_lt
  have positions : (visited.filter marked).map position ⊆ List.range bound := by
    intro found member
    rcases List.mem_map.mp member with ⟨state, kept, rfl⟩
    exact List.mem_range.mpr (inside (List.mem_filter.mp kept).2)
  have fits := (distinct.subperm positions).length_le
  rwa [List.length_map, List.length_range] at fits

end

end Foundation
