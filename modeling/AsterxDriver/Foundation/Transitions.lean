import Mathlib.Data.List.Induction
import Mathlib.Data.Option.Basic
import Mathlib.Tactic.Common

/-! # Transitions

A system with a step function that says which events can occur in a state. -/

namespace Foundation

variable {σ ε : Type} {step : σ → ε → Option σ} {allowed : σ → ε → Prop}

/-- The states to which allowed events lead. -/
inductive Reached (step : σ → ε → Option σ) (allowed : σ → ε → Prop) (start : σ) : σ → Prop
  | start : Reached step allowed start start
  | next {state final : σ} (event : ε) (reached : Reached step allowed start state)
      (isAllowed : allowed state event) (steps : step state event = some final) :
      Reached step allowed start final

/-- What the start has and each allowed event keeps, every reached state has. -/
theorem Reached.invariant {start final : σ} {Invariant : σ → Prop}
    (initially : Invariant start)
    (kept : ∀ {state final event}, Invariant state → allowed state event →
      step state event = some final → Invariant final)
    (reached : Reached step allowed start final) : Invariant final := by
  induction reached with
  | start => exact initially
  | next event _ isAllowed steps induction => exact kept induction isAllowed steps

/-- The state after some events, if each of them can occur. -/
def runEvents (step : σ → ε → Option σ) : σ → List ε → Option σ
  | state, [] => some state
  | state, event :: later => (step state event).bind fun next => runEvents step next later

theorem Reached.of_runEvents {start state final : σ} {events : List ε}
    (reached : Reached step allowed start state)
    (areAllowed : ∀ event ∈ events, ∀ state, allowed state event)
    (runs : runEvents step state events = some final) : Reached step allowed start final := by
  induction events generalizing state with
  | nil =>
      cases runs
      exact reached
  | cons event later induction =>
      rcases Option.bind_eq_some_iff.mp runs with ⟨next, steps, runs⟩
      have isAllowed := areAllowed event (List.mem_cons_self ..) state
      exact induction (reached.next event isAllowed steps)
        (fun event member => areAllowed event (List.mem_cons_of_mem _ member)) runs

theorem runEvents_append (state : σ) (first second : List ε) :
    runEvents step state (first ++ second) =
      (runEvents step state first).bind fun next => runEvents step next second := by
  induction first generalizing state with
  | nil => rfl
  | cons event later induction =>
      rw [List.cons_append, runEvents, runEvents, Option.bind_assoc]
      exact congrArg (Option.bind _) (funext induction)

theorem runEvents_concat {start final : σ} {events : List ε} {event : ε} :
    runEvents step start (events ++ [event]) = some final ↔
      ∃ state, runEvents step start events = some state ∧ step state event = some final := by
  rw [runEvents_append, Option.bind_eq_some_iff]
  simp [runEvents]

/-- If every step of a system keeps the relation to another one, which may take a step
too or none, then its runs are runs of the other. -/
theorem exists_run_of_simulation {τ δ : Type} {other : τ → δ → Option τ}
    {Related : σ → τ → Prop}
    (simulates : ∀ {state final event image}, Related state image →
      step state event = some final →
      Related final image ∨ ∃ action next, other image action = some next ∧ Related final next)
    {start final : σ} {image : τ} {events : List ε} (related : Related start image)
    (runs : runEvents step start events = some final) :
    ∃ actions result, runEvents other image actions = some result ∧ Related final result := by
  induction events generalizing start image with
  | nil =>
      cases runs
      exact ⟨[], image, rfl, related⟩
  | cons event later induction =>
      rcases Option.bind_eq_some_iff.mp runs with ⟨middle, steps, rest⟩
      rcases simulates related steps with still | ⟨action, next, follows, moved⟩
      · exact induction still rest
      · rcases induction moved rest with ⟨actions, result, run, finally_⟩
        refine ⟨action :: actions, result, ?_, finally_⟩
        rw [runEvents, follows, Option.bind_some, run]

/-! ## What events set and reset -/

/-- One of the events sets something in its state, and no later one resets it. -/
def Since (step : σ → ε → Option σ) (Sets Resets : σ → ε → Prop) (start : σ)
    (events : List ε) : Prop :=
  ∃ before event later state next, events = before ++ event :: later ∧
    runEvents step start before = some state ∧ step state event = some next ∧
    Sets state event ∧ ∀ first other rest middle, later = first ++ other :: rest →
      runEvents step next first = some middle → ¬Resets middle other

section

variable {Sets Resets : σ → ε → Prop} {start state final : σ} {events : List ε} {event : ε}

theorem since_concat (runs : runEvents step start events = some state)
    (steps : step state event = some final) :
    Since step Sets Resets start (events ++ [event]) ↔
      Sets state event ∨ Since step Sets Resets start events ∧ ¬Resets state event := by
  constructor
  · rintro ⟨before, setting, later, earlier, next, same, reaches, sets, isSet, unreset⟩
    rcases List.eq_nil_or_concat later with rfl | ⟨later, last, rfl⟩
    · rcases List.append_inj' same rfl with ⟨rfl, lastSame⟩
      cases lastSame
      rw [runs] at reaches
      cases reaches
      exact .inl isSet
    · rw [List.concat_eq_append, ← List.cons_append, ← List.append_assoc] at same
      rcases List.append_inj' same rfl with ⟨rfl, lastSame⟩
      cases lastSame
      rw [runEvents_append, reaches, Option.bind_some, runEvents, sets, Option.bind_some] at runs
      refine .inr ⟨⟨before, setting, later, earlier, next, rfl, reaches, sets, isSet, ?_⟩, ?_⟩
      · intro first other rest middle split
        refine unreset first other (rest ++ [event]) middle ?_
        rw [split, List.concat_eq_append, List.append_assoc, List.cons_append]
      · exact unreset later event [] state List.concat_eq_append runs
  · rintro (isSet | ⟨⟨before, setting, later, earlier, next, rfl, reaches, sets, isSet, unreset⟩,
      notReset⟩)
    · refine ⟨events, event, [], state, final, rfl, runs, steps, isSet, ?_⟩
      intro first other rest middle impossible
      simp at impossible
    · refine ⟨before, setting, later ++ [event], earlier, next, by simp, reaches, sets, isSet, ?_⟩
      intro first other rest middle split passes
      rcases List.eq_nil_or_concat rest with rfl | ⟨rest, last, rfl⟩
      · rcases List.append_inj' split rfl with ⟨rfl, lastSame⟩
        cases lastSame
        rw [runEvents_append, reaches, Option.bind_some, runEvents, sets, Option.bind_some,
          passes] at runs
        cases runs
        exact notReset
      · rw [List.concat_eq_append, ← List.cons_append, ← List.append_assoc] at split
        rcases List.append_inj' split rfl with ⟨rfl, _⟩
        exact unreset first other rest middle rfl passes

/-- What only these events set and reset holds exactly since it has been set. -/
theorem since_of_steps {Status : σ → Prop} (initially : ¬Status start)
    (changes : ∀ {before state event next}, runEvents step start before = some state →
      step state event = some next →
      (Status next ↔ Sets state event ∨ Status state ∧ ¬Resets state event))
    (runs : runEvents step start events = some final) :
    Status final ↔ Since step Sets Resets start events := by
  induction events using List.reverseRecOn generalizing final with
  | nil =>
      cases runs
      refine iff_of_false initially ?_
      rintro ⟨before, event, later, _, _, impossible, _⟩
      simp at impossible
  | append_singleton events event induction =>
      rcases runEvents_concat.mp runs with ⟨state, reaches, steps⟩
      rw [changes reaches steps, since_concat reaches steps, induction reaches]

end

end Foundation
