import Mathlib.Data.List.Nodup
import Mathlib.Tactic.Common

/-! # Queues that drop the oldest item

The history of a queue with a limit, whose items are numbered in the order in
which they arrive. -/

namespace Foundation

variable {α : Type u}

/-- An item that had to go, and the queue at that moment. -/
structure Removal (α : Type u) where
  item : α × ℕ
  queued : List (α × ℕ)

structure QueueHistory (α : Type u) where
  arrived : List α := []
  taken : List (α × ℕ) := []
  queued : List (α × ℕ) := []
  removals : List (Removal α) := []

namespace QueueHistory

/-- Some items arrive at an empty queue. -/
def ofArrived (items : List α) : QueueHistory α := { arrived := items, queued := items.zipIdx }

def push (limit : ℕ) (history : QueueHistory α) (item : α) : QueueHistory α where
  arrived := history.arrived ++ [item]
  taken := history.taken
  queued :=
    (if limit ≤ history.queued.length then history.queued.tail else history.queued) ++
      [(item, history.arrived.length)]
  removals :=
    if limit ≤ history.queued.length then
      history.removals ++ history.queued.head?.toList.map (⟨·, history.queued⟩)
    else history.removals

def pop (history : QueueHistory α) : QueueHistory α where
  arrived := history.arrived
  taken := history.taken ++ history.queued.head?.toList
  queued := history.queued.tail
  removals := history.removals

/-- The numbers of the items that are gone. -/
def removed (history : QueueHistory α) : List ℕ := history.removals.map (·.item.2)

/-- The items that arrived, except the removed ones, each of which was the oldest. -/
structure Sound (limit : ℕ) (history : QueueHistory α) : Prop where
  bounded : history.queued.length ≤ limit
  kept : history.taken ++ history.queued =
    history.arrived.zipIdx.filter (·.2 ∉ history.removed)
  removed_lt : ∀ number ∈ history.removed, number < history.arrived.length
  counted : history.taken.length + history.queued.length + history.removals.length =
    history.arrived.length
  oldest : ∀ removal ∈ history.removals, removal.queued.head? = some removal.item ∧
    ∀ other ∈ removal.queued, removal.item.2 ≤ other.2

theorem pairwise_zipIdx (items : List α) :
    items.zipIdx.Pairwise (fun first second => first.2 < second.2) := by
  rw [← List.pairwise_map (f := Prod.snd) (R := (· < ·)), List.zipIdx_map_snd]
  exact List.pairwise_lt_range'

variable {limit : ℕ} {history : QueueHistory α}

theorem Sound.ordered (sound : history.Sound limit) :
    (history.taken ++ history.queued).Pairwise (fun first second => first.2 < second.2) := by
  rw [sound.kept]
  exact (pairwise_zipIdx _).filter _

theorem Sound.number_lt (sound : history.Sound limit) {item : α × ℕ}
    (member : item ∈ history.queued) : item.2 < history.arrived.length := by
  have kept : item ∈ history.taken ++ history.queued := List.mem_append_right _ member
  rw [sound.kept] at kept
  have bound := List.snd_lt_of_mem_zipIdx (List.mem_of_mem_filter kept)
  omega

/-- Without its number an item disappears from an ordered list. -/
theorem filter_ne_of_ordered {before after : List (α × ℕ)} {item : α × ℕ}
    (ordered : (before ++ item :: after).Pairwise (fun first second => first.2 < second.2)) :
    (before ++ item :: after).filter (·.2 ≠ item.2) = before ++ after := by
  rcases List.pairwise_append.mp ordered with ⟨_, later, across⟩
  have below : ∀ other ∈ before, other.2 ≠ item.2 := fun other member =>
    Nat.ne_of_lt (across other member item (List.mem_cons_self ..))
  have above : ∀ other ∈ after, other.2 ≠ item.2 := fun other member =>
    Nat.ne_of_gt ((List.pairwise_cons.mp later).1 other member)
  rw [List.filter_append, List.filter_cons_of_neg (by simp),
    List.filter_eq_self.mpr (by simpa using below), List.filter_eq_self.mpr (by simpa using above)]

theorem sound_ofArrived {items : List α} (fits : items.length ≤ limit) :
    (ofArrived items).Sound limit where
  bounded := by simpa [ofArrived] using fits
  kept := by simp [ofArrived, removed]
  removed_lt := by simp [ofArrived, removed]
  counted := by simp [ofArrived]
  oldest := by simp [ofArrived]

theorem Sound.pop (sound : history.Sound limit) : history.pop.Sound limit := by
  have split : history.queued.head?.toList ++ history.queued.tail = history.queued := by
    cases history.queued with
    | nil => rfl
    | cons first later => rfl
  refine ⟨?_, ?_, sound.removed_lt, ?_, sound.oldest⟩
  · have bounded := sound.bounded
    simp only [QueueHistory.pop, List.length_tail]
    omega
  · change (history.taken ++ _) ++ history.queued.tail = _
    rw [List.append_assoc, split]
    exact sound.kept
  · have counted := sound.counted
    rw [← congrArg List.length split, List.length_append, ← Nat.add_assoc] at counted
    simpa only [QueueHistory.pop, List.length_append] using counted

/-- What a push adds to the arrived items that are not removed. -/
theorem kept_append {items : List α} {item : α} {numbers : List ℕ}
    (bound : ∀ number ∈ numbers, number < items.length) :
    (items ++ [item]).zipIdx.filter (·.2 ∉ numbers) =
      items.zipIdx.filter (·.2 ∉ numbers) ++ [(item, items.length)] := by
  have new : items.length ∉ numbers := fun member => Nat.lt_irrefl _ (bound _ member)
  rw [List.zipIdx_append, List.filter_append]
  simp [new]

theorem Sound.push_of_lt (sound : history.Sound limit) (room : history.queued.length < limit)
    (item : α) : (history.push limit item).Sound limit := by
  have notFull : ¬limit ≤ history.queued.length := Nat.not_le.mpr room
  have removals : (history.push limit item).removals = history.removals := if_neg notFull
  have queued : (history.push limit item).queued =
      history.queued ++ [(item, history.arrived.length)] := by
    simp only [push, if_neg notFull]
  have numbers : (history.push limit item).removed = history.removed := by
    rw [removed, removals, removed]
  refine ⟨?_, ?_, ?_, ?_, ?_⟩
  · rw [queued, List.length_append]
    exact room
  · rw [queued, numbers]
    change history.taken ++ _ = (history.arrived ++ [item]).zipIdx.filter _
    rw [kept_append sound.removed_lt, ← sound.kept, List.append_assoc]
  · rw [numbers]
    intro number member
    change number < (history.arrived ++ [item]).length
    rw [List.length_append]
    exact Nat.lt_succ_of_lt (sound.removed_lt number member)
  · have counted := sound.counted
    rw [queued, removals]
    change history.taken.length + _ + _ = (history.arrived ++ [item]).length
    simp only [List.length_append, List.length_singleton]
    omega
  · rw [removals]
    exact sound.oldest

/-- The arrived items that are left when the oldest one in the queue goes too. -/
theorem Sound.kept_tail (sound : history.Sound limit) {oldest : α × ℕ} {later : List (α × ℕ)}
    (queue : history.queued = oldest :: later) :
    history.arrived.zipIdx.filter (·.2 ∉ history.removed ++ [oldest.2]) =
      history.taken ++ later := by
  have ordered := sound.ordered
  rw [queue] at ordered
  rw [← filter_ne_of_ordered ordered, ← queue, sound.kept, List.filter_filter]
  congr 1
  funext candidate
  simp only [List.mem_append, List.mem_singleton, not_or, ne_eq, Bool.decide_and]
  exact Bool.and_comm ..

theorem Sound.oldest_le (sound : history.Sound limit) {oldest : α × ℕ} {later : List (α × ℕ)}
    (queue : history.queued = oldest :: later) :
    ∀ other ∈ history.queued, oldest.2 ≤ other.2 := by
  have ordered := sound.ordered
  rw [queue] at ordered
  have behind := (List.pairwise_append.mp ordered).2.1
  intro other member
  rw [queue] at member
  rcases List.mem_cons.mp member with rfl | inLater
  · exact Nat.le_refl _
  · exact Nat.le_of_lt ((List.pairwise_cons.mp behind).1 other inLater)

theorem Sound.push_of_le (sound : history.Sound limit) (positive : 0 < limit)
    (full : limit ≤ history.queued.length) (item : α) : (history.push limit item).Sound limit := by
  cases queue : history.queued with
  | nil =>
      rw [queue] at full
      exact absurd positive (Nat.not_lt.mpr full)
  | cons oldest later =>
      have removals : (history.push limit item).removals =
          history.removals ++ [⟨oldest, history.queued⟩] := by
        simp only [push, if_pos full]
        rw [queue]
        rfl
      have queued : (history.push limit item).queued =
          later ++ [(item, history.arrived.length)] := by
        simp only [push, if_pos full]
        rw [queue]
        rfl
      have numbers : (history.push limit item).removed = history.removed ++ [oldest.2] := by
        rw [removed, removals, List.map_append]
        rfl
      have bound : ∀ number ∈ history.removed ++ [oldest.2], number < history.arrived.length := by
        intro number member
        rcases List.mem_append.mp member with before | now
        · exact sound.removed_lt number before
        · rw [List.mem_singleton.mp now]
          exact sound.number_lt (by rw [queue]; exact List.mem_cons_self ..)
      refine ⟨?_, ?_, ?_, ?_, ?_⟩
      · have bounded := sound.bounded
        rw [queue] at bounded
        rw [queued, List.length_append]
        exact bounded
      · rw [queued, numbers]
        change history.taken ++ _ = (history.arrived ++ [item]).zipIdx.filter _
        rw [kept_append bound, sound.kept_tail queue, List.append_assoc]
      · rw [numbers]
        intro number member
        change number < (history.arrived ++ [item]).length
        rw [List.length_append]
        exact Nat.lt_succ_of_lt (bound number member)
      · have counted := sound.counted
        rw [queue, List.length_cons] at counted
        rw [queued, removals]
        change history.taken.length + _ + _ = (history.arrived ++ [item]).length
        simp only [List.length_append, List.length_singleton]
        omega
      · rw [removals]
        intro removal member
        rcases List.mem_append.mp member with before | now
        · exact sound.oldest removal before
        · rw [List.mem_singleton.mp now]
          refine ⟨?_, sound.oldest_le queue⟩
          rw [queue]
          rfl

theorem Sound.push (sound : history.Sound limit) (positive : 0 < limit) (item : α) :
    (history.push limit item).Sound limit := by
  rcases Nat.lt_or_ge history.queued.length limit with room | full
  · exact sound.push_of_lt room item
  · exact sound.push_of_le positive full item

end QueueHistory

end Foundation
