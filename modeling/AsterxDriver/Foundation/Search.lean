import Mathlib.Data.List.Infix

/-! # Searching a list

The first place at which a pattern occurs. -/

namespace Foundation

variable {α : Type u} [DecidableEq α]

/-- The index of the first occurrence of `pattern`. -/
def search (pattern : List α) : List α → Option ℕ
  | [] => if pattern = [] then some 0 else none
  | first :: later =>
      if pattern <+: first :: later then some 0 else (search pattern later).map (· + 1)

/-- Whether `pattern` occurs. -/
def occurs (pattern text : List α) : Bool := (search pattern text).isSome

theorem search_eq_none_iff {pattern text : List α} :
    search pattern text = none ↔ ¬pattern <:+: text := by
  induction text with
  | nil =>
      rw [search, List.infix_nil]
      split <;> simp [*]
  | cons first later induction =>
      rw [search, List.infix_cons_iff]
      split
      · rename_i here
        simp [here]
      · rename_i notHere
        rw [Option.map_eq_none_iff, induction]
        simp [notHere]

/-- The index is the first at which the pattern stands. -/
theorem search_eq_some_iff {pattern text : List α} {index : ℕ} :
    search pattern text = some index ↔
      pattern <+: text.drop index ∧ ∀ earlier < index, ¬pattern <+: text.drop earlier := by
  induction text generalizing index with
  | nil =>
      rw [search, List.drop_nil, List.prefix_nil]
      split
      · rename_i empty
        cases index with
        | zero => simp [empty]
        | succ index =>
            simp only [empty, Option.some_inj, Nat.zero_ne_add_one, false_iff, true_and]
            intro none
            exact none 0 (Nat.succ_pos index) (List.nil_prefix ..)
      · rename_i nonempty
        simp [nonempty]
  | cons first later induction =>
      rw [search]
      split
      · rename_i here
        cases index with
        | zero => simp [here]
        | succ index =>
            simp only [Option.some_inj, Nat.zero_ne_add_one, false_iff, not_and]
            intro _ none
            exact none 0 (Nat.succ_pos index) here
      · rename_i notHere
        cases index with
        | zero => simp [notHere]
        | succ index =>
            simp only [Option.map_eq_some_iff, Nat.add_right_cancel_iff, exists_eq_right,
              List.drop_succ_cons]
            rw [induction]
            constructor
            · rintro ⟨found, none⟩
              refine ⟨found, ?_⟩
              intro earlier less
              cases earlier with
              | zero => exact notHere
              | succ earlier => exact none earlier (Nat.lt_of_succ_lt_succ less)
            · rintro ⟨found, none⟩
              exact ⟨found, fun earlier less => none (earlier + 1) (Nat.succ_lt_succ less)⟩

/-- Where the pattern was found there is room for it. -/
theorem le_of_search_eq_some {pattern text : List α} {index : ℕ}
    (found : search pattern text = some index) (nonempty : pattern ≠ []) :
    index + pattern.length ≤ text.length := by
  have fits := (search_eq_some_iff.mp found).1.length_le
  have positive := List.length_pos_iff.mpr nonempty
  rw [List.length_drop] at fits
  omega

theorem search_append {pattern text : List α} {index : ℕ}
    (found : search pattern text = some index) (nonempty : pattern ≠ []) (rest : List α) :
    search pattern (text ++ rest) = some index := by
  have room := le_of_search_eq_some found nonempty
  rcases search_eq_some_iff.mp found with ⟨here, none⟩
  rw [search_eq_some_iff]
  constructor
  · rw [List.drop_append_of_le_length (by omega)]
    exact here.trans (List.prefix_append ..)
  · intro earlier less there
    apply none earlier less
    rw [List.drop_append_of_le_length (by omega)] at there
    apply List.prefix_of_prefix_length_le there (List.prefix_append ..)
    rw [List.length_drop]
    omega

/-- There is nothing to find in a part that ends before the first place. -/
theorem search_eq_none_of_prefix {pattern text part : List α} {index : ℕ}
    (found : search pattern text = some index) (inside : part <+: text)
    (short : part.length < index + pattern.length) : search pattern part = none := by
  rw [search_eq_none_iff]
  rintro ⟨before, after, split⟩
  have there : pattern <+: text.drop before.length := by
    rcases inside with ⟨rest, rfl⟩
    rw [← split, List.append_assoc, List.append_assoc, List.drop_left]
    exact List.prefix_append ..
  have lengths := congrArg List.length split
  simp only [List.length_append] at lengths
  exact (search_eq_some_iff.mp found).2 before.length (by omega) there

theorem occurs_iff {pattern text : List α} : occurs pattern text = true ↔ pattern <:+: text := by
  rw [occurs, Option.isSome_iff_ne_none, ne_eq, search_eq_none_iff, not_not]

end Foundation
