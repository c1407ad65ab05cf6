import AsterxDriver.Foundation.DecimalText

/-! # Fields of a text

Values with blanks around them, between separators. -/

namespace Foundation

section

variable {α : Type} {blank : α → Bool}

/-! ## Blanks -/

theorem rdropWhile_append (blank : α → Bool) (earlier later : List α) :
    (earlier ++ later).rdropWhile blank =
      if later.rdropWhile blank = [] then earlier.rdropWhile blank
      else earlier ++ later.rdropWhile blank := by
  simp only [List.rdropWhile, List.reverse_append, List.dropWhile_append, List.isEmpty_iff,
    List.reverse_eq_nil_iff]
  split
  · rfl
  · rw [List.reverse_append, List.reverse_reverse]

/-- A text that does not start and does not end with a blank. -/
structure Tight (blank : α → Bool) (value : List α) : Prop where
  nonempty : value ≠ []
  start : value.dropWhile blank = value
  finish : value.rdropWhile blank = value

theorem Tight.of_forall {value : List α} (nonempty : value ≠ [])
    (solid : ∀ char ∈ value, blank char = false) : Tight blank value where
  nonempty := nonempty
  start := by
    rcases List.exists_cons_of_ne_nil nonempty with ⟨first, later, rfl⟩
    exact List.dropWhile_cons_of_neg (by simp [solid first List.mem_cons_self])
  finish := by
    rw [List.rdropWhile_eq_self_iff]
    intro nonempty
    simp [solid _ (List.getLast_mem nonempty)]

theorem Tight.of_all {value : List α} (nonempty : value ≠ [])
    (solid : value.all (fun char => !blank char) = true) : Tight blank value := by
  refine .of_forall nonempty ?_
  intro char member
  have charSolid := List.all_eq_true.mp solid char member
  rwa [Bool.not_eq_true'] at charSolid

theorem Tight.dropWhile_append {value : List α} (tight : Tight blank value) (later : List α) :
    (value ++ later).dropWhile blank = value ++ later := by
  rw [List.dropWhile_append, tight.start, if_neg]
  rw [List.isEmpty_iff]
  exact tight.nonempty

theorem Tight.rdropWhile_append {value : List α} (tight : Tight blank value)
    (earlier : List α) : (earlier ++ value).rdropWhile blank = earlier ++ value := by
  rw [Foundation.rdropWhile_append, tight.finish, if_neg tight.nonempty]

/-- A value with blanks around it. -/
def Padded (blank : α → Bool) (value part : List α) : Prop :=
  ∃ before after, (∀ char ∈ before, blank char = true) ∧ (∀ char ∈ after, blank char = true) ∧
    part = before ++ value ++ after

theorem Padded.not_mem {value part : List α} {char : α} (padded : Padded blank value part)
    (solid : blank char = false) (absent : char ∉ value) : char ∉ part := by
  rcases padded with ⟨before, after, beforeBlank, afterBlank, rfl⟩
  have notBlank (blanks : List α) (areBlank : ∀ char ∈ blanks, blank char = true) :
      char ∉ blanks := by
    intro member
    rw [areBlank char member] at solid
    cases solid
  simp only [List.mem_append, not_or]
  exact ⟨⟨notBlank before beforeBlank, absent⟩, notBlank after afterBlank⟩

theorem Padded.nonempty {value part : List α} (padded : Padded blank value part)
    (tight : Tight blank value) : part ≠ [] := by
  rcases padded with ⟨before, after, -, -, rfl⟩
  simp [tight.nonempty]

theorem Padded.dropWhile {value part : List α} (padded : Padded blank value part)
    (tight : Tight blank value) (later : List α) :
    ∃ started, Padded blank value started ∧
      (part ++ later).dropWhile blank = started ++ later := by
  rcases padded with ⟨before, after, beforeBlank, afterBlank, rfl⟩
  refine ⟨value ++ after, ⟨[], after, by simp, afterBlank, rfl⟩, ?_⟩
  rw [List.append_assoc, List.append_assoc, List.dropWhile_append_of_pos beforeBlank,
    tight.dropWhile_append, List.append_assoc]

theorem Padded.rdropWhile {value part : List α} (padded : Padded blank value part)
    (tight : Tight blank value) :
    ∃ finished, Padded blank value finished ∧ finished ≠ [] ∧
      part.rdropWhile blank = finished := by
  rcases padded with ⟨before, after, beforeBlank, afterBlank, rfl⟩
  refine ⟨before ++ value, ⟨before, [], beforeBlank, by simp, (List.append_nil _).symm⟩,
    by simp [tight.nonempty], ?_⟩
  rw [rdropWhile_append, if_pos (List.rdropWhile_eq_nil_iff.mpr afterBlank),
    tight.rdropWhile_append]

theorem Padded.strip {value part : List α} (padded : Padded blank value part)
    (tight : Tight blank value) : (part.dropWhile blank).rdropWhile blank = value := by
  rcases padded with ⟨before, after, beforeBlank, afterBlank, rfl⟩
  rw [List.append_assoc, List.dropWhile_append_of_pos beforeBlank, tight.dropWhile_append,
    rdropWhile_append, if_pos (List.rdropWhile_eq_nil_iff.mpr afterBlank), tight.finish]

/-! ## Separated parts -/

/-- Blanks in front of the parts belong to the first one. -/
theorem exists_dropWhile_intercalate (separator : α) {values parts : List (List α)}
    (tight : ∀ value ∈ values, Tight blank value)
    (padded : List.Forall₂ (Padded blank) values parts) :
    ∃ started, List.Forall₂ (Padded blank) values started ∧
      ([separator].intercalate parts).dropWhile blank = [separator].intercalate started := by
  cases padded with
  | nil => exact ⟨[], .nil, rfl⟩
  | @cons value part values parts first rest =>
      have firstTight := tight value List.mem_cons_self
      cases parts with
      | nil =>
          rcases first.dropWhile firstTight [] with ⟨started, startedPadded, dropped⟩
          refine ⟨[started], .cons startedPadded rest, ?_⟩
          simpa using dropped
      | cons second parts =>
          rcases first.dropWhile firstTight
            (separator :: [separator].intercalate (second :: parts))
            with ⟨started, startedPadded, dropped⟩
          refine ⟨started :: second :: parts, .cons startedPadded rest, ?_⟩
          rw [List.intercalate_cons_cons, List.intercalate_cons_cons]
          simpa using dropped

/-- Blanks behind the parts belong to the last one. -/
theorem exists_rdropWhile_intercalate (separator : α) {values parts : List (List α)}
    (tight : ∀ value ∈ values, Tight blank value) (nonempty : values ≠ [])
    (padded : List.Forall₂ (Padded blank) values parts) :
    ∃ finished, List.Forall₂ (Padded blank) values finished ∧
      [separator].intercalate finished ≠ [] ∧
      ([separator].intercalate parts).rdropWhile blank = [separator].intercalate finished := by
  induction padded with
  | nil => exact absurd rfl nonempty
  | @cons value part values parts first rest induction =>
      cases rest with
      | nil =>
          rcases first.rdropWhile (tight value List.mem_cons_self)
            with ⟨finished, finishedPadded, finishedNonempty, dropped⟩
          refine ⟨[finished], .cons finishedPadded .nil, ?_, ?_⟩
          · rwa [List.intercalate_singleton]
          · rwa [List.intercalate_singleton, List.intercalate_singleton]
      | @cons second secondPart later laterParts secondPadded laterPadded =>
          rcases induction (fun value member => tight value (List.mem_cons_of_mem _ member))
            (List.cons_ne_nil _ _) with ⟨finished, finishedPadded, finishedNonempty, dropped⟩
          refine ⟨part :: finished, .cons first finishedPadded, ?_, ?_⟩
          · cases finishedPadded with
            | cons _ _ => simp [List.intercalate_cons_cons]
          · cases finishedPadded with
            | cons _ _ =>
                rw [List.intercalate_cons_cons, List.intercalate_cons_cons, rdropWhile_append,
                  dropped, if_neg finishedNonempty]

end

/-! ## Lines -/

theorem getlines_append_cons {separator : Char} {part : Text} (absent : separator ∉ part)
    (later : Text) :
    getlines separator (part ++ separator :: later) = part :: getlines separator later := by
  induction part with
  | nil => simp [getlines]
  | cons first rest induction =>
      have different : first ≠ separator := fun same => absent (same ▸ List.mem_cons_self)
      have restAbsent : separator ∉ rest := fun member => absent (List.mem_cons_of_mem _ member)
      rw [List.cons_append, getlines, if_neg different, induction restAbsent]

theorem getlines_single {separator : Char} {part : Text} (absent : separator ∉ part)
    (nonempty : part ≠ []) : getlines separator part = [part] := by
  induction part with
  | nil => exact absurd rfl nonempty
  | cons first rest induction =>
      have different : first ≠ separator := fun same => absent (same ▸ List.mem_cons_self)
      rw [getlines, if_neg different]
      cases rest with
      | nil => rfl
      | cons second later =>
          rw [induction (fun member => absent (List.mem_cons_of_mem _ member))
            (List.cons_ne_nil _ _)]

/-- The parts between separators come back. -/
theorem getlines_intercalate {separator : Char} {parts : List Text}
    (clean : ∀ part ∈ parts, separator ∉ part ∧ part ≠ []) :
    getlines separator ([separator].intercalate parts) = parts := by
  induction parts with
  | nil => rfl
  | cons part parts induction =>
      have first := clean part List.mem_cons_self
      cases parts with
      | nil => rw [List.intercalate_singleton, getlines_single first.1 first.2]
      | cons second parts =>
          rw [List.intercalate_cons_cons, List.append_assoc, List.singleton_append,
            getlines_append_cons first.1,
            induction fun part member => clean part (List.mem_cons_of_mem _ member)]

theorem getlines_flatMap_append {separator : Char} {lines : List Text}
    (clean : ∀ line ∈ lines, separator ∉ line) (later : Text) :
    getlines separator (lines.flatMap (· ++ [separator]) ++ later) =
      lines ++ getlines separator later := by
  induction lines with
  | nil => rfl
  | cons line lines induction =>
      rw [List.flatMap_cons, List.append_assoc, List.append_assoc, List.singleton_append,
        getlines_append_cons (clean line List.mem_cons_self),
        induction fun line member => clean line (List.mem_cons_of_mem _ member),
        List.cons_append]

end Foundation
