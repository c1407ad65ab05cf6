import Mathlib.Data.List.Basic
import Mathlib.Tactic.Common

/-! # Interactive programs

A program that asks questions and goes on with the answers. What it asks may
depend on every answer before. -/

namespace Foundation

inductive Interaction (Q A α : Type)
  | done (result : α)
  | ask (question : Q) (next : A → Interaction Q A α)

namespace Interaction

variable {Q A α β ε σ : Type}

def bind (program : Interaction Q A α) (next : α → Interaction Q A β) : Interaction Q A β :=
  match program with
  | .done result => next result
  | .ask question later => .ask question fun answer => (later answer).bind next

instance : Monad (Interaction Q A) where
  pure := .done
  bind := bind

/-- The questions that the program may come to ask. -/
inductive Asks : Interaction Q A α → Q → Prop
  | here : Asks (.ask question next) question
  | later (answer : A) (asks : Asks (next answer) question) : Asks (.ask other next) question

/-- The program may go through these questions and answers to this result. -/
inductive Transcript : Interaction Q A α → List (Q × A) → α → Prop
  | done : Transcript (.done result) [] result
  | ask (answer : A) (rest : Transcript (next answer) entries result) :
      Transcript (.ask question next) ((question, answer) :: entries) result

/-- The program with a partner whose state is a `σ`. There is no result when the
partner does not answer. -/
def run (partner : Q → σ → Option (A × σ)) :
    Interaction Q A α → σ → Option ((α × List (Q × A)) × σ)
  | .done result, state => some ((result, []), state)
  | .ask question next, state =>
      (partner question state).bind fun answered =>
        (run partner (next answered.1) answered.2).map fun rest =>
          ((rest.1.1, (question, answered.1) :: rest.1.2), rest.2)

theorem Transcript.asks {program : Interaction Q A α} {entries : List (Q × A)} {result : α}
    (transcript : Transcript program entries result) :
    ∀ entry ∈ entries, Asks program entry.1 := by
  induction transcript with
  | done => simp
  | ask answer rest induction =>
      intro entry member
      rcases List.mem_cons.mp member with rfl | later
      · exact .here
      · exact .later answer (induction entry later)

theorem transcript_done_iff {value : α} {entries : List (Q × A)} {result : α} :
    Transcript (.done value) entries result ↔ entries = [] ∧ value = result := by
  constructor
  · intro transcript
    cases transcript
    exact ⟨rfl, rfl⟩
  · rintro ⟨rfl, rfl⟩
    exact .done

theorem transcript_ask_iff {question : Q} {next : A → Interaction Q A α}
    {entries : List (Q × A)} {result : α} :
    Transcript (.ask question next) entries result ↔
      ∃ answer later, entries = (question, answer) :: later ∧
        Transcript (next answer) later result := by
  constructor
  · intro transcript
    cases transcript with
    | ask answer rest => exact ⟨answer, _, rfl, rest⟩
  · rintro ⟨answer, later, rfl, rest⟩
    exact .ask answer rest

theorem transcript_bind_iff {program : Interaction Q A α} {next : α → Interaction Q A β}
    {entries : List (Q × A)} {result : β} :
    Transcript (program.bind next) entries result ↔
      ∃ value front back, entries = front ++ back ∧ Transcript program front value ∧
        Transcript (next value) back result := by
  induction program generalizing entries with
  | done value =>
      constructor
      · intro transcript
        exact ⟨value, [], entries, rfl, .done, transcript⟩
      · rintro ⟨other, front, back, rfl, first, second⟩
        rcases transcript_done_iff.mp first with ⟨rfl, rfl⟩
        exact second
  | ask question later induction =>
      rw [bind, transcript_ask_iff]
      constructor
      · rintro ⟨answer, rest, rfl, transcript⟩
        rcases (induction answer).mp transcript with ⟨value, front, back, rfl, first, second⟩
        exact ⟨value, (question, answer) :: front, back, rfl, .ask answer first, second⟩
      · rintro ⟨value, front, back, rfl, first, second⟩
        rcases transcript_ask_iff.mp first with ⟨answer, rest, rfl, remaining⟩
        exact ⟨answer, rest ++ back, rfl,
          (induction answer).mpr ⟨value, rest, back, rfl, remaining, second⟩⟩

theorem asks_bind {program : Interaction Q A α} {next : α → Interaction Q A β} {question : Q}
    (asks : Asks (program.bind next) question) :
    Asks program question ∨ ∃ value, Asks (next value) question := by
  induction program with
  | done value => exact .inr ⟨value, asks⟩
  | ask other later induction =>
      cases asks with
      | here => exact .inl .here
      | later answer asks =>
          rcases induction answer asks with first | second
          · exact .inl (.later answer first)
          · exact .inr second

theorem run_bind (partner : Q → σ → Option (A × σ)) (program : Interaction Q A α)
    (next : α → Interaction Q A β) (state : σ) :
    run partner (program.bind next) state =
      (run partner program state).bind fun first =>
        (run partner (next first.1.1) first.2).map fun second =>
          ((second.1.1, first.1.2 ++ second.1.2), second.2) := by
  induction program generalizing state with
  | done value => simp [bind, run]
  | ask question later induction =>
      rw [bind, run, run]
      cases partner question state with
      | none => rfl
      | some answered =>
          simp only [Option.bind_some, induction]
          cases run partner (later answered.1) answered.2 with
          | none => rfl
          | some first => simp [Function.comp_def]

/-- A conversation with a partner is one that the program may go through. -/
theorem transcript_of_run {partner : Q → σ → Option (A × σ)} {program : Interaction Q A α}
    {state state' : σ} {result : α} {entries : List (Q × A)}
    (ran : run partner program state = some ((result, entries), state')) :
    Transcript program entries result := by
  induction program generalizing state entries with
  | done value =>
      cases ran
      exact .done
  | ask question next induction =>
      rcases Option.bind_eq_some_iff.mp ran with ⟨answered, _, rest⟩
      rcases Option.map_eq_some_iff.mp rest with ⟨⟨⟨value, later⟩, final⟩, finished, same⟩
      cases same
      exact .ask answered.1 (induction answered.1 finished)

/-- The rule of invariants: a property of the entries so far and the state of
the partner that every answer keeps, kept for the whole conversation. -/
theorem run_induction {partner : Q → σ → Option (A × σ)}
    (Invariant : List (Q × A) → σ → Prop) {program : Interaction Q A α}
    (step : ∀ entries state question, Invariant entries state → Asks program question →
      ∃ answer state', partner question state = some (answer, state') ∧
        Invariant (entries ++ [(question, answer)]) state')
    {entries : List (Q × A)} {state : σ} (start : Invariant entries state) :
    ∃ result later state', run partner program state = some ((result, later), state') ∧
      Invariant (entries ++ later) state' := by
  induction program generalizing entries state with
  | done result => exact ⟨result, [], state, rfl, by simpa using start⟩
  | ask question next induction =>
      rcases step entries state question start .here with ⟨answer, state', answered, kept⟩
      have step' : ∀ entries state other, Invariant entries state → Asks (next answer) other →
          ∃ answer state', partner other state = some (answer, state') ∧
            Invariant (entries ++ [(other, answer)]) state' :=
        fun entries state other holds asks => step entries state other holds (.later answer asks)
      rcases induction answer step' kept with ⟨result, later, final, ran, holds⟩
      refine ⟨result, (question, answer) :: later, final, ?_, ?_⟩
      · simp [run, answered, ran]
      · rw [List.append_cons]
        exact holds

/-! ## With exceptions -/

section Exceptions

variable {program : ExceptT ε (Interaction Q A) α} {next : α → ExceptT ε (Interaction Q A) β}

theorem transcript_bind_ok {entries : List (Q × A)} {result : β}
    (transcript : Transcript (program >>= next).run entries (.ok result)) :
    ∃ value front back, entries = front ++ back ∧ Transcript program.run front (.ok value) ∧
      Transcript (next value).run back (.ok result) := by
  rcases transcript_bind_iff.mp transcript with ⟨value, front, back, split, first, second⟩
  cases value with
  | error fault =>
      rcases transcript_done_iff.mp second with ⟨_, impossible⟩
      cases impossible
  | ok value => exact ⟨value, front, back, split, first, second⟩

/-- A program that fails, or succeeds and goes on. -/
theorem transcript_bind_cases {entries : List (Q × A)} {outcome : Except ε β}
    (transcript : Transcript (program >>= next).run entries outcome) :
    (∃ fault, outcome = .error fault ∧ Transcript program.run entries (.error fault)) ∨
      ∃ value front back, entries = front ++ back ∧ Transcript program.run front (.ok value) ∧
        Transcript (next value).run back outcome := by
  rcases transcript_bind_iff.mp transcript with ⟨value, front, back, rfl, first, second⟩
  cases value with
  | error fault =>
      rcases transcript_done_iff.mp second with ⟨rfl, rfl⟩
      rw [List.append_nil]
      exact .inl ⟨fault, rfl, first⟩
  | ok value => exact .inr ⟨value, front, back, rfl, first, second⟩

theorem transcript_bind_error {entries : List (Q × A)} {fault : ε}
    (transcript : Transcript program.run entries (.error fault)) :
    Transcript (program >>= next).run entries (.error fault) :=
  transcript_bind_iff.mpr ⟨.error fault, entries, [], by simp, transcript, .done⟩

theorem asks_bind_cases {question : Q} (asks : Asks (program >>= next).run question) :
    Asks program.run question ∨ ∃ value, Asks (next value).run question := by
  rcases asks_bind asks with first | ⟨value, second⟩
  · exact .inl first
  · cases value with
    | error fault => cases second
    | ok value => exact .inr ⟨value, second⟩

theorem run_bind_ok {partner : Q → σ → Option (A × σ)} {state state' : σ} {value : α}
    {entries : List (Q × A)}
    (ran : run partner program.run state = some ((.ok value, entries), state')) :
    run partner (program >>= next).run state =
      (run partner (next value).run state').map fun second =>
        ((second.1.1, entries ++ second.1.2), second.2) := by
  change run partner (Interaction.bind program.run _) state = _
  rw [run_bind, ran]
  rfl

end Exceptions

end Interaction

end Foundation
