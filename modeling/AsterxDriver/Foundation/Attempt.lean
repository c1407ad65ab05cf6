import Mathlib.Data.List.Basic
import Mathlib.Tactic.Common

/-! # Attempts

A computation that changes a state, may throw and may wait for ever. A thrown
exception leaves the state as it is at that moment. -/

namespace Foundation

abbrev Attempt (σ ε α : Type) := ExceptT ε (StateT σ Option) α

namespace Attempt

variable {σ ε α β : Type}

/-- The computation does not end. -/
def wait : Attempt σ ε α := ExceptT.mk fun _ => none

/-- Started in one state, the computation ends with this outcome in another. -/
def Ends (program : Attempt σ ε α) (start : σ) (outcome : Except ε α) (final : σ) : Prop :=
  program.run start = some (outcome, final)

theorem ends_bind_iff {program : Attempt σ ε α} {next : α → Attempt σ ε β} {start final : σ}
    {outcome : Except ε β} :
    Ends (program >>= next) start outcome final ↔
      (∃ fault, Ends program start (.error fault) final ∧ outcome = .error fault) ∨
      ∃ value middle, Ends program start (.ok value) middle ∧
        Ends (next value) middle outcome final := by
  have unfolded : (program >>= next).run start = (program.run start).bind fun result =>
      match result with
      | (.ok value, middle) => (next value).run middle
      | (.error fault, middle) => some (.error fault, middle) := by
    change (program.run start).bind _ = _
    congr 1
    funext result
    rcases result with ⟨fault | value, middle⟩ <;> rfl
  unfold Ends
  rw [unfolded]
  cases program.run start with
  | none => simp
  | some result =>
      rcases result with ⟨fault | value, middle⟩
      · constructor
        · intro ends
          cases ends
          exact .inl ⟨fault, rfl, rfl⟩
        · rintro (⟨other, same, rfl⟩ | ⟨value, other, impossible, _⟩)
          · cases same
            rfl
          · cases impossible
      · constructor
        · intro ends
          exact .inr ⟨value, middle, rfl, ends⟩
        · rintro (⟨other, impossible, _⟩ | ⟨other, state, same, rest⟩)
          · cases impossible
          · cases same
            exact rest

theorem ends_pure_iff {value : α} {start final : σ} {outcome : Except ε α} :
    Ends (pure value) start outcome final ↔ outcome = .ok value ∧ final = start := by
  constructor
  · intro ends
    cases ends
    exact ⟨rfl, rfl⟩
  · rintro ⟨rfl, rfl⟩
    rfl

theorem ends_throw_iff {fault : ε} {start final : σ} {outcome : Except ε α} :
    Ends (throw fault : Attempt σ ε α) start outcome final ↔
      outcome = .error fault ∧ final = start := by
  constructor
  · intro ends
    cases ends
    exact ⟨rfl, rfl⟩
  · rintro ⟨rfl, rfl⟩
    rfl

theorem ends_get_bind_iff {next : σ → Attempt σ ε β} {start final : σ}
    {outcome : Except ε β} :
    Ends (get >>= next) start outcome final ↔ Ends (next start) start outcome final :=
  Iff.rfl

theorem ends_modify_bind_iff {change : σ → σ} {next : PUnit → Attempt σ ε β} {start final : σ}
    {outcome : Except ε β} :
    Ends (modify change >>= next) start outcome final ↔
      Ends (next ⟨⟩) (change start) outcome final :=
  Iff.rfl

/-- A computation that goes one of two ways. -/
theorem ends_ite {condition : Prop} [Decidable condition] {yes no : Attempt σ ε α}
    {start final : σ} {outcome : Except ε α}
    (ends : Ends (if condition then yes else no) start outcome final) :
    condition ∧ Ends yes start outcome final ∨ ¬condition ∧ Ends no start outcome final := by
  by_cases holds : condition
  · rw [if_pos holds] at ends
    exact .inl ⟨holds, ends⟩
  · rw [if_neg holds] at ends
    exact .inr ⟨holds, ends⟩

/-! ## Computations that end -/

/-- From a state with this property the computation ends in such a state. -/
def EndsWithin (invariant : σ → Prop) (program : Attempt σ ε α) : Prop :=
  ∀ start, invariant start → ∃ outcome final, Ends program start outcome final ∧ invariant final

section

variable {invariant : σ → Prop}

theorem endsWithin_pure (value : α) : EndsWithin invariant (pure value : Attempt σ ε α) :=
  fun start holds => ⟨_, start, rfl, holds⟩

theorem endsWithin_throw (fault : ε) : EndsWithin invariant (throw fault : Attempt σ ε α) :=
  fun start holds => ⟨_, start, rfl, holds⟩

theorem endsWithin_modify {change : σ → σ}
    (kept : ∀ state, invariant state → invariant (change state)) :
    EndsWithin invariant (modify change : Attempt σ ε PUnit) :=
  fun start holds => ⟨_, change start, rfl, kept start holds⟩

theorem endsWithin_get_bind {next : σ → Attempt σ ε β}
    (rest : ∀ state, invariant state → EndsWithin invariant (next state)) :
    EndsWithin invariant (get >>= next) :=
  fun start holds => rest start holds start holds

theorem EndsWithin.bind {program : Attempt σ ε α} {next : α → Attempt σ ε β}
    (first : EndsWithin invariant program) (rest : ∀ value, EndsWithin invariant (next value)) :
    EndsWithin invariant (program >>= next) := by
  intro start holds
  rcases first start holds with ⟨fault | value, middle, ends, kept⟩
  · exact ⟨_, middle, ends_bind_iff.mpr (.inl ⟨fault, ends, rfl⟩), kept⟩
  · rcases rest value middle kept with ⟨outcome, final, goesOn, kept⟩
    exact ⟨outcome, final, ends_bind_iff.mpr (.inr ⟨value, middle, ends, goesOn⟩), kept⟩

theorem EndsWithin.ite {condition : Prop} [Decidable condition] {yes no : Attempt σ ε α}
    (first : EndsWithin invariant yes) (second : EndsWithin invariant no) :
    EndsWithin invariant (if condition then yes else no) := by
  split
  · exact first
  · exact second

end

theorem not_ends_wait {start final : σ} {outcome : Except ε α} :
    ¬Ends (wait : Attempt σ ε α) start outcome final := by
  intro ends
  cases ends

/-! ## Loops -/

section

variable {action : α → Attempt σ ε PUnit} {inputs : List α} {start final : σ}

theorem EndsWithin.forM {invariant : σ → Prop}
    (each : ∀ input, EndsWithin invariant (action input)) (inputs : List α) :
    EndsWithin invariant (inputs.forM action) := by
  induction inputs with
  | nil => exact endsWithin_pure _
  | cons input later induction => exact (each input).bind fun _ => induction

/-- A loop that succeeds, as a fold over the states. -/
theorem foldlM_of_ends_forM {step : σ → α → Except ε σ}
    (each : ∀ input start final, Ends (action input) start (.ok ⟨⟩) final →
      step start input = .ok final)
    (ends : Ends (inputs.forM action) start (.ok ⟨⟩) final) :
    inputs.foldlM step start = .ok final := by
  induction inputs generalizing start with
  | nil =>
      cases ends
      rfl
  | cons input later induction =>
      rcases ends_bind_iff.mp ends with ⟨_, _, impossible⟩ | ⟨_, middle, first, rest⟩
      · cases impossible
      · rw [List.foldlM_cons, each input start middle first]
        exact induction rest

/-- A loop that fails does so in one of its rounds, after rounds that succeed. -/
theorem ends_forM_error {fault : ε}
    (ends : Ends (inputs.forM action) start (.error fault) final) :
    ∃ front input back middle, inputs = front ++ input :: back ∧
      Ends (front.forM action) start (.ok ⟨⟩) middle ∧
      Ends (action input) middle (.error fault) final := by
  induction inputs generalizing start with
  | nil => cases ends
  | cons input later induction =>
      rcases ends_bind_iff.mp ends with ⟨other, failed, same⟩ | ⟨value, middle, first, rest⟩
      · cases same
        exact ⟨[], input, later, start, rfl, rfl, failed⟩
      · rcases induction rest with ⟨front, last, back, state, rfl, before, failed⟩
        exact ⟨input :: front, last, back, state, rfl,
          ends_bind_iff.mpr (.inr ⟨value, middle, first, before⟩), failed⟩

end

end Attempt

end Foundation
