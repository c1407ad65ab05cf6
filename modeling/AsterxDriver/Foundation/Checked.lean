import Mathlib.Data.List.Forall2

/-! # Computations that may fail

Taking a successful `Except` computation apart, one bind at a time. -/

namespace Foundation.Checked

theorem bind_eq_ok {action : Except ε α} {next : α → Except ε β} {result : β} :
    (action >>= next) = .ok result ↔
      ∃ value, action = .ok value ∧ next value = .ok result := by
  cases action with
  | error fault =>
      constructor
      · intro impossible
        cases impossible
      · rintro ⟨value, impossible, _⟩
        cases impossible
  | ok value =>
      constructor
      · intro succeeds
        exact ⟨value, rfl, succeeds⟩
      · rintro ⟨_, equal, succeeds⟩
        cases equal
        exact succeeds

@[simp] theorem ok_bind (value : α) (next : α → Except ε β) :
    (Except.ok value >>= next) = next value := rfl

@[simp] theorem pure_eq_ok (value : α) : (pure value : Except ε α) = .ok value := rfl

theorem toOption_eq_some {action : Except ε α} {value : α} :
    action.toOption = some value ↔ action = .ok value := by
  cases action with
  | error fault => simp [Except.toOption]
  | ok other => simp [Except.toOption]

/-- The last step that may fail decides. -/
theorem exists_return_eq_ok {action : Except ε α} (succeeds : ∃ value, action = .ok value)
    (next : α → β) :
    ∃ result, (action >>= fun value => pure (next value) : Except ε β) = .ok result := by
  rcases succeeds with ⟨value, rfl⟩
  exact ⟨next value, rfl⟩

theorem forM_eq_ok_iff {action : α → Except ε PUnit} {inputs : List α} :
    inputs.forM action = .ok ⟨⟩ ↔ ∀ input ∈ inputs, action input = .ok ⟨⟩ := by
  induction inputs with
  | nil => simp [List.forM]
  | cons input later induction =>
      rw [List.forM, bind_eq_ok, List.forall_mem_cons, induction]
      constructor
      · rintro ⟨⟨⟩, first, rest⟩
        exact ⟨first, rest⟩
      · rintro ⟨first, rest⟩
        exact ⟨⟨⟩, first, rest⟩

/-- A list whose entries all succeed. -/
theorem mapM_eq_ok {action : α → Except ε β} {relation : α → β → Prop} {inputs : List α}
    (succeeds : ∀ input ∈ inputs, ∃ output, action input = .ok output ∧ relation input output) :
    ∃ outputs, inputs.mapM action = .ok outputs ∧ List.Forall₂ relation inputs outputs := by
  induction inputs with
  | nil => exact ⟨[], rfl, .nil⟩
  | cons input later induction =>
      rcases succeeds input (List.mem_cons_self ..) with ⟨output, first, related⟩
      rcases induction fun other member => succeeds other (List.mem_cons_of_mem _ member) with
        ⟨outputs, result, allRelated⟩
      refine ⟨output :: outputs, ?_, .cons related allRelated⟩
      rw [List.mapM_cons, first, ok_bind, result]
      rfl

theorem forall₂_of_mapM_eq_ok {action : α → Except ε β} {inputs : List α} {outputs : List β}
    (succeeds : inputs.mapM action = .ok outputs) :
    List.Forall₂ (fun input output => action input = .ok output) inputs outputs := by
  induction inputs generalizing outputs with
  | nil =>
      cases succeeds
      exact .nil
  | cons input later induction =>
      rw [List.mapM_cons] at succeeds
      rcases bind_eq_ok.mp succeeds with ⟨output, first, rest⟩
      rcases bind_eq_ok.mp rest with ⟨others, result, same⟩
      cases same
      exact .cons first (induction result)

/-- A list fails at its first entry that does. -/
theorem exists_of_mapM_eq_error {action : α → Except ε β} {inputs : List α} {fault : ε}
    (fails : inputs.mapM action = .error fault) :
    ∃ front input back, inputs = front ++ input :: back ∧
      (∀ earlier ∈ front, ∃ output, action earlier = .ok output) ∧
      action input = .error fault := by
  induction inputs with
  | nil => cases fails
  | cons input later induction =>
      rw [List.mapM_cons] at fails
      cases first : action input with
      | error other =>
          rw [first] at fails
          cases fails
          exact ⟨[], input, later, rfl, by simp, first⟩
      | ok output =>
          rw [first, ok_bind] at fails
          cases rest : later.mapM action with
          | ok others =>
              rw [rest] at fails
              cases fails
          | error other =>
              rw [rest] at fails
              cases fails
              rcases induction rest with ⟨front, failing, back, rfl, before, failed⟩
              refine ⟨input :: front, failing, back, rfl, ?_, failed⟩
              intro earlier member
              rcases List.mem_cons.mp member with rfl | behind
              · exact ⟨output, first⟩
              · exact before earlier behind

theorem foldlM_congr {step step' : β → α → Except ε β} {inputs : List α}
    (same : ∀ state, ∀ input ∈ inputs, step state input = step' state input) (start : β) :
    inputs.foldlM step start = inputs.foldlM step' start := by
  induction inputs generalizing start with
  | nil => rfl
  | cons input later induction =>
      rw [List.foldlM_cons, List.foldlM_cons, same start input (List.mem_cons_self ..)]
      congr 1
      funext next
      exact induction (fun state other member =>
        same state other (List.mem_cons_of_mem _ member)) next

/-- A loop whose rounds succeed wherever those of another loop do. -/
theorem foldlM_mono {step step' : β → α → Except ε β}
    (succeeds : ∀ state input next, step state input = .ok next → step' state input = .ok next)
    {inputs : List α} {start final : β} (ran : inputs.foldlM step start = .ok final) :
    inputs.foldlM step' start = .ok final := by
  induction inputs generalizing start with
  | nil => exact ran
  | cons input later induction =>
      rw [List.foldlM_cons] at ran ⊢
      rcases bind_eq_ok.mp ran with ⟨next, first, rest⟩
      exact bind_eq_ok.mpr ⟨next, succeeds start input next first, induction rest⟩

end Foundation.Checked
