import Mathlib.Data.List.Basic
import Mathlib.Tactic.Linarith

/-! # Incremental scanners

A scanner looks at the unread part of a stream and either decides how many
symbols to consume and what they are, or waits for more input. A decision once
taken does not change when more input arrives, so the tokens of a stream do not
depend on how the stream is delivered. -/

namespace Foundation

/-- A decision procedure on unread input. `none` asks for more input. -/
structure Scanner (α : Type u) (ω : Type v) where
  verdict : List α → Option (Nat × ω)
  positive : ∀ {input size event}, verdict input = some (size, event) → 0 < size
  bounded : ∀ {input size event}, verdict input = some (size, event) →
    size ≤ input.length
  stable : ∀ {input decision} (more : List α), verdict input = some decision →
    verdict (input ++ more) = some decision

/-- A decided piece of the stream and its position. -/
structure Token (ω : Type v) where
  start : Nat
  size : Nat
  event : ω
  deriving DecidableEq, Repr

namespace Token

def stop (token : Token ω) : Nat := token.start + token.size

def shift (distance : Nat) (token : Token ω) : Token ω :=
  { token with start := distance + token.start }

@[simp] theorem shift_event (distance : Nat) (token : Token ω) :
    (token.shift distance).event = token.event := rfl

@[simp] theorem shift_stop (distance : Nat) (token : Token ω) :
    (token.shift distance).stop = distance + token.stop :=
  Nat.add_assoc _ _ _

end Token

namespace Scanner

variable {α : Type u} {ω : Type v} (scanner : Scanner α ω)

/-- Every token that can be decided, numbered from `start`, and the input left
waiting. -/
def run (start : Nat) (input : List α) : List (Token ω) × List α :=
  match found : scanner.verdict input with
  | none => ([], input)
  | some (size, event) =>
      have := scanner.positive found
      have := scanner.bounded found
      let later := run (start + size) (input.drop size)
      (⟨start, size, event⟩ :: later.1, later.2)
termination_by input.length
decreasing_by
  simp only [List.length_drop]
  omega

def tokens (input : List α) : List (Token ω) := (scanner.run 0 input).1

def rest (input : List α) : List α := (scanner.run 0 input).2

theorem run_of_none (start : Nat) {input : List α}
    (waiting : scanner.verdict input = none) :
    scanner.run start input = ([], input) := by
  rw [run]
  split
  · rfl
  · rename_i decided
    rw [waiting] at decided
    cases decided

theorem tokens_of_none {input : List α} (waiting : scanner.verdict input = none) :
    scanner.tokens input = [] :=
  congrArg Prod.fst (scanner.run_of_none 0 waiting)

theorem rest_of_none {input : List α} (waiting : scanner.verdict input = none) :
    scanner.rest input = input :=
  congrArg Prod.snd (scanner.run_of_none 0 waiting)

theorem run_of_some (start : Nat) {size : Nat} {input : List α} {event : ω}
    (decided : scanner.verdict input = some (size, event)) :
    scanner.run start input =
      (⟨start, size, event⟩ :: (scanner.run (start + size) (input.drop size)).1,
        (scanner.run (start + size) (input.drop size)).2) := by
  rw [run]
  split
  · rename_i waiting
    rw [decided] at waiting
    cases waiting
  · rename_i size' event' decided'
    rw [decided] at decided'
    cases decided'
    rfl

/-- Induction along the tokens of a stream. -/
theorem run_induction {motive : Nat → List α → Prop}
    (waiting : ∀ start input, scanner.verdict input = none → motive start input)
    (decided : ∀ start input size event,
      scanner.verdict input = some (size, event) → 0 < size →
      size ≤ input.length → motive (start + size) (input.drop size) →
      motive start input) :
    ∀ start input, motive start input := by
  intro start input
  induction length : input.length using Nat.strong_induction_on
    generalizing start input with
  | _ length induction =>
      cases found : scanner.verdict input with
      | none => exact waiting start input found
      | some decision =>
          have positive := scanner.positive found
          have bounded := scanner.bounded found
          refine decided start input decision.1 decision.2 found positive
            bounded (induction _ ?_ _ _ rfl)
          simp only [List.length_drop]
          omega

theorem verdict_rest (start : Nat) (input : List α) :
    scanner.verdict (scanner.run start input).2 = none := by
  induction start, input using scanner.run_induction with
  | waiting start input waiting => simpa [scanner.run_of_none _ waiting]
  | decided start input size event decided _ _ induction =>
      simpa [scanner.run_of_some _ decided] using induction

theorem length_rest_le (start : Nat) (input : List α) :
    (scanner.run start input).2.length ≤ input.length := by
  induction start, input using scanner.run_induction with
  | waiting start input waiting => simp [scanner.run_of_none _ waiting]
  | decided start input size event decided _ _ induction =>
      simp only [scanner.run_of_some _ decided]
      simp only [List.length_drop] at induction
      omega

theorem rest_eq_of_tokens_eq_nil {start : Nat} {input : List α}
    (none : (scanner.run start input).1 = []) : (scanner.run start input).2 = input := by
  cases found : scanner.verdict input with
  | none => rw [scanner.run_of_none _ found]
  | some decision => simp [scanner.run_of_some _ found] at none

/-- Scanning a longer stream continues from the waiting input. -/
theorem run_append (start : Nat) (input more : List α) :
    scanner.run start (input ++ more) =
      ((scanner.run start input).1 ++
        (scanner.run (start + (input.length - (scanner.run start input).2.length))
          ((scanner.run start input).2 ++ more)).1,
        (scanner.run (start + (input.length - (scanner.run start input).2.length))
          ((scanner.run start input).2 ++ more)).2) := by
  induction start, input using scanner.run_induction with
  | waiting start input waiting => simp [scanner.run_of_none _ waiting]
  | decided start input size event decided positive bounded induction =>
      have shorter := scanner.length_rest_le (start + size) (input.drop size)
      rw [scanner.run_of_some _ (scanner.stable more decided),
        List.drop_append_of_le_length bounded, induction]
      simp only [scanner.run_of_some _ decided, List.cons_append]
      simp only [List.length_drop] at shorter ⊢
      have position : start + size + (input.length - size -
          (scanner.run (start + size) (input.drop size)).2.length) =
          start + (input.length -
            (scanner.run (start + size) (input.drop size)).2.length) := by
        omega
      rw [position]

theorem tokens_append_of_decided {input : List α} (decided : scanner.rest input = [])
    (more : List α) :
    scanner.tokens (input ++ more) =
      scanner.tokens input ++ (scanner.run input.length more).1 := by
  have whole : (scanner.run 0 input).2 = [] := decided
  have split := congrArg Prod.fst (scanner.run_append 0 input more)
  rw [whole, List.length_nil, Nat.sub_zero, Nat.zero_add, List.nil_append] at split
  exact split

/-- The numbering of the tokens follows the start. -/
theorem run_shift (distance start : Nat) (input : List α) :
    scanner.run (distance + start) input =
      ((scanner.run start input).1.map (Token.shift distance),
        (scanner.run start input).2) := by
  induction start, input using scanner.run_induction with
  | waiting start input waiting => simp [scanner.run_of_none _ waiting]
  | decided start input size event decided _ _ induction =>
      simp only [scanner.run_of_some _ decided, Nat.add_assoc, induction, List.map_cons]
      rfl

theorem run_eq_shift (start : Nat) (input : List α) :
    scanner.run start input =
      ((scanner.tokens input).map (Token.shift start), scanner.rest input) :=
  scanner.run_shift start 0 input

/-- Each token was decided on the stream from its own start. -/
theorem verdict_of_mem (start : Nat) (input : List α) :
    ∀ token ∈ (scanner.run start input).1, start ≤ token.start ∧
      token.stop + (scanner.run start input).2.length ≤ start + input.length ∧
      scanner.verdict (input.drop (token.start - start)) =
        some (token.size, token.event) := by
  induction start, input using scanner.run_induction with
  | waiting start input waiting => simp [scanner.run_of_none _ waiting]
  | decided start input size event decided positive bounded induction =>
      have shorter := scanner.length_rest_le (start + size) (input.drop size)
      simp only [List.length_drop] at shorter
      simp only [scanner.run_of_some _ decided]
      intro token member
      rcases List.mem_cons.mp member with equal | member
      · subst equal
        simp only [Token.stop, Nat.sub_self, List.drop_zero]
        exact ⟨Nat.le_refl _, by omega, decided⟩
      · have later := induction token member
        simp only [List.length_drop, List.drop_drop] at later
        have position : size + (token.start - (start + size)) =
            token.start - start := by omega
        rw [position] at later
        exact ⟨by omega, by omega, later.2.2⟩

/-- Tokens follow one another without overlap. -/
theorem tokens_pairwise (start : Nat) (input : List α) :
    (scanner.run start input).1.Pairwise
      fun first second => first.stop ≤ second.start := by
  induction start, input using scanner.run_induction with
  | waiting start input waiting => simp [scanner.run_of_none _ waiting]
  | decided start input size event decided _ _ induction =>
      simp only [scanner.run_of_some _ decided]
      refine List.Pairwise.cons ?_ induction
      intro token member
      exact (scanner.verdict_of_mem _ _ token member).1

/-- Every position before the waiting input lies in a token. -/
theorem exists_token_of_lt (start : Nat) (input : List α) :
    ∀ position, start ≤ position →
      position + (scanner.run start input).2.length < start + input.length →
      ∃ token ∈ (scanner.run start input).1,
        token.start ≤ position ∧ position < token.stop := by
  induction start, input using scanner.run_induction with
  | waiting start input waiting =>
      intro position after before
      simp only [scanner.run_of_none _ waiting] at before
      omega
  | decided start input size event decided _ bounded induction =>
      simp only [scanner.run_of_some _ decided, List.length_drop] at induction ⊢
      intro position after before
      by_cases inside : position < start + size
      · exact ⟨⟨start, size, event⟩, List.mem_cons_self, after, inside⟩
      · have bound : position +
            (scanner.run (start + size) (input.drop size)).2.length <
              start + size + (input.length - size) := by omega
        rcases induction position (by omega) bound with ⟨token, member, range⟩
        exact ⟨token, List.mem_cons_of_mem _ member, range⟩

/-! ## Decided prefixes -/

/-- The first tokens of the scan of `input` are `front`, and the next one would
start at `position`. -/
inductive Decides : Nat → List α → List (Token ω) → Nat → Prop
  | nil (start : Nat) (input : List α) : Decides start input [] start
  | cons {start size position : Nat} {input : List α} {event : ω}
      {front : List (Token ω)} :
      scanner.verdict input = some (size, event) →
      Decides (start + size) (input.drop size) front position →
      Decides start input (⟨start, size, event⟩ :: front) position

namespace Decides

variable {scanner} {start middle position : Nat} {input : List α}
  {front back : List (Token ω)}

theorem start_le (decides : scanner.Decides start input front position) :
    start ≤ position := by
  induction decides with
  | nil => exact Nat.le_refl _
  | cons _ _ induction => omega

theorem le_length (decides : scanner.Decides start input front position) :
    position - start ≤ input.length := by
  induction decides with
  | nil => simp
  | cons decided _ induction =>
      have bounded := scanner.bounded decided
      simp only [List.length_drop] at induction
      omega

theorem run_eq (decides : scanner.Decides start input front position) :
    scanner.run start input =
      (front ++ (scanner.run position (input.drop (position - start))).1,
        (scanner.run position (input.drop (position - start))).2) := by
  induction decides with
  | nil => simp
  | @cons start size position input event front decided later induction =>
      have after := later.start_le
      rw [scanner.run_of_some _ decided, induction, List.drop_drop,
        show size + (position - (start + size)) = position - start by omega]
      rfl

theorem append (decides : scanner.Decides start input front position)
    (more : List α) : scanner.Decides start (input ++ more) front position := by
  induction decides with
  | nil => exact .nil _ _
  | cons decided _ induction =>
      refine .cons (scanner.stable more decided) ?_
      rwa [List.drop_append_of_le_length (scanner.bounded decided)]

theorem shift (decides : scanner.Decides start input front position) (distance : Nat) :
    scanner.Decides (distance + start) input (front.map (Token.shift distance))
      (distance + position) := by
  induction decides with
  | nil => exact .nil _ _
  | cons decided _ induction =>
      refine .cons decided ?_
      rwa [Nat.add_assoc]

theorem trans (first : scanner.Decides start input front middle)
    (second : scanner.Decides middle (input.drop (middle - start)) back position) :
    scanner.Decides start input (front ++ back) position := by
  induction first with
  | nil => simpa using second
  | @cons start size middle input event front decided later induction =>
      have after := later.start_le
      refine .cons decided (induction ?_)
      rwa [List.drop_drop, show size + (middle - (start + size)) = middle - start by omega]

end Decides

/-- The tokens of a scan can be cut anywhere. -/
theorem decides_of_run {start : Nat} {input : List α} {front back : List (Token ω)}
    (cut : (scanner.run start input).1 = front ++ back) :
    ∃ position, scanner.Decides start input front position ∧
      scanner.run position (input.drop (position - start)) =
        (back, (scanner.run start input).2) := by
  induction front generalizing start input with
  | nil =>
      refine ⟨start, .nil _ _, ?_⟩
      rw [Nat.sub_self, List.drop_zero]
      exact Prod.ext cut rfl
  | cons head tail induction =>
      cases found : scanner.verdict input with
      | none => simp [scanner.run_of_none _ found] at cut
      | some decision =>
          rw [scanner.run_of_some _ found] at cut ⊢
          injection cut with headEqual tailEqual
          rcases induction tailEqual with ⟨position, decides, later⟩
          have after := decides.start_le
          rw [List.drop_drop, show decision.1 + (position - (start + decision.1)) =
            position - start by omega] at later
          exact ⟨position, headEqual ▸ .cons found decides, later⟩

theorem Decides.position_eq_stop {start position : Nat} {input : List α}
    {front : List (Token ω)} {token : Token ω}
    (decides : scanner.Decides start input (front ++ [token]) position) :
    position = token.stop := by
  induction front generalizing start input with
  | nil =>
      cases decides with
      | cons _ later =>
          cases later
          rfl
  | cons head tail induction =>
      cases decides with
      | cons _ later => exact induction later

end Scanner

end Foundation
