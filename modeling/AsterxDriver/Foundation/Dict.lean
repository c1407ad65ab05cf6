import Mathlib.Data.List.AList
import Mathlib.Data.List.Induction
import Mathlib.Data.List.Sort

/-! # Dictionaries

Finite maps with a default for absent keys. The order of the entries carries no
meaning; a user that iterates sorts first. -/

namespace Foundation

abbrev Dict (κ : Type u) (ν : Type v) := AList fun _ : κ => ν

namespace Dict

variable {κ : Type u} {ν : Type v} [DecidableEq κ]

def getD (dict : Dict κ ν) (key : κ) (default : ν) : ν :=
  (dict.lookup key).getD default

/-- Replace the value of `key`, or of its default when it is absent. -/
def modify (dict : Dict κ ν) (key : κ) (default : ν) (change : ν → ν) : Dict κ ν :=
  dict.insert key (change (dict.getD key default))

/-- The keys in the order of `sorted`. -/
def sortedKeys (dict : Dict ℕ ν) : List ℕ := dict.keys.insertionSort (· ≤ ·)

@[simp] theorem getD_empty (key : κ) (default : ν) :
    getD (∅ : Dict κ ν) key default = default := rfl

@[simp] theorem getD_insert_self (dict : Dict κ ν) (key : κ) (value default : ν) :
    getD (dict.insert key value) key default = value := by
  simp [getD, AList.lookup_insert]

theorem getD_insert_of_ne (dict : Dict κ ν) {key other : κ} (value default : ν)
    (different : other ≠ key) :
    getD (dict.insert key value) other default = getD dict other default := by
  simp [getD, AList.lookup_insert_ne different]

theorem getD_modify (dict : Dict κ ν) (key other : κ) (default : ν) (change : ν → ν) :
    getD (dict.modify key default change) other default =
      if other = key then change (getD dict key default) else getD dict other default := by
  unfold modify
  split
  · rename_i same
    rw [same, getD_insert_self]
  · rename_i different
    rw [getD_insert_of_ne _ _ _ different]

theorem modify_modify (dict : Dict κ ν) (key : κ) (default : ν) (first second : ν → ν) :
    (dict.modify key default first).modify key default second =
      dict.modify key default (second ∘ first) := by
  rw [modify, modify, getD_insert_self, AList.insert_insert]
  rfl

theorem mem_modify {dict : Dict κ ν} {key other : κ} {default : ν} {change : ν → ν} :
    other ∈ dict.modify key default change ↔ other = key ∨ other ∈ dict :=
  AList.mem_insert _

/-! ## Grouping -/

/-- The values of the items by their key, in the order of the items. -/
def group {ι : Type w} (key : ι → κ) (value : ι → ν) (items : List ι) : Dict κ (List ν) :=
  items.foldl (fun grouped item => grouped.modify (key item) [] (· ++ [value item])) ∅

theorem getD_group {ι : Type w} (key : ι → κ) (value : ι → ν) (items : List ι) (wanted : κ) :
    (group key value items).getD wanted [] =
      (items.filter (key · = wanted)).map value := by
  induction items using List.reverseRecOn with
  | nil => rfl
  | append_singleton items item induction =>
      rw [group, List.foldl_concat, ← group, getD_modify, List.filter_append, List.map_append,
        List.filter_singleton]
      by_cases same : key item = wanted
      · rw [if_pos same.symm, same, induction]
        simp
      · rw [if_neg (Ne.symm same), induction]
        simp [same]

theorem mem_group {ι : Type w} {key : ι → κ} {value : ι → ν} {items : List ι} {wanted : κ} :
    wanted ∈ group key value items ↔ ∃ item ∈ items, key item = wanted := by
  induction items using List.reverseRecOn with
  | nil => simp [group, AList.notMem_empty]
  | append_singleton items item induction =>
      rw [group, List.foldl_concat, ← group, mem_modify, induction]
      simp only [List.mem_append, List.mem_singleton, or_and_right, exists_or, exists_eq_left]
      rw [or_comm, eq_comm]

/-! ## Sorted keys -/

theorem mem_sortedKeys {dict : Dict ℕ ν} {key : ℕ} : key ∈ dict.sortedKeys ↔ key ∈ dict := by
  rw [sortedKeys, List.mem_insertionSort]
  rfl

theorem nodup_sortedKeys (dict : Dict ℕ ν) : dict.sortedKeys.Nodup :=
  (List.perm_insertionSort _ _).nodup_iff.mpr dict.keys_nodup

theorem sortedKeys_congr {ξ : Type w} {first : Dict ℕ ν} {second : Dict ℕ ξ}
    (same : ∀ key, key ∈ first ↔ key ∈ second) : first.sortedKeys = second.sortedKeys := by
  have permuted : first.sortedKeys.Perm second.sortedKeys := by
    rw [List.perm_ext_iff_of_nodup (nodup_sortedKeys first) (nodup_sortedKeys second)]
    intro key
    rw [mem_sortedKeys, mem_sortedKeys]
    exact same key
  exact permuted.eq_of_pairwise' (List.pairwise_insertionSort _ _)
    (List.pairwise_insertionSort _ _)

end Dict

end Foundation
