import Mathlib.Data.List.Nodup

/-!
# Removing the first match

`List.eraseP` removes one element. What stays of a list is easy to say where the matching
elements do not count, and where there is at most one of them.
-/
namespace LorawanFeeds.Lib

variable {α β : Type}

theorem eraseP_append_of_not {p : α → Bool} (first : List α) {second : List α}
    (none : ∀ a ∈ second, ¬ p a) : (first ++ second).eraseP p = first.eraseP p ++ second := by
  rw [List.eraseP_append, List.eraseP_of_forall_not none]
  split
  · rfl
  next absent =>
    rw [List.eraseP_of_forall_not]
    simpa using absent

/-- Elements that a function drops anyway can be removed before. -/
theorem filterMap_eraseP {p : α → Bool} {f : α → Option β} {l : List α}
    (dropped : ∀ a ∈ l, p a → f a = none) : (l.eraseP p).filterMap f = l.filterMap f := by
  induction l with
  | nil => rfl
  | cons a rest ih =>
    by_cases hit : p a
    · rw [List.eraseP_cons_of_pos hit, List.filterMap_cons_none (dropped a (.head _) hit)]
    · rw [List.eraseP_cons_of_neg hit, List.filterMap_cons, List.filterMap_cons,
        ih fun b member => dropped b (.tail _ member)]

theorem countP_eraseP {p q : α → Bool} {l : List α} (dropped : ∀ a ∈ l, p a → ¬ q a) :
    (l.eraseP p).countP q = l.countP q := by
  have same : (l.eraseP p).filterMap (Option.guard q) = l.filterMap (Option.guard q) :=
    filterMap_eraseP fun a member hit => by simp [Option.guard, dropped a member hit]
  rw [List.filterMap_eq_filter] at same
  rw [List.countP_eq_length_filter, List.countP_eq_length_filter, same]

/-- Where at most one element matches, removing the first match removes all. -/
theorem eraseP_eq_filter_iff {p : α → Bool} {l : List α} :
    l.eraseP p = l.filter (fun a => ¬ p a) ↔ (l.filter p).length ≤ 1 := by
  induction l with
  | nil => simp
  | cons a rest ih =>
    by_cases hit : p a
    · -- The first match is gone, so that the rest has to have none.
      have clean : rest = rest.filter (fun a => ¬ p a) ↔ rest.filter p = [] := by
        rw [eq_comm, List.filter_eq_self, List.filter_eq_nil_iff]
        simp
      rw [List.eraseP_cons_of_pos hit, List.filter_cons_of_neg (by simp [hit]),
        List.filter_cons_of_pos hit, List.length_cons, clean, ← List.length_eq_zero_iff]
      omega
    · rw [List.eraseP_cons_of_neg hit, List.filter_cons_of_pos (by simp [hit]),
        List.filter_cons_of_neg hit, List.cons_inj_right, ih]

/-- A value that no two elements share is that of at most one element. -/
theorem filter_length_le_one [DecidableEq β] {f : α → β} {l : List α} (distinct : (l.map f).Nodup)
    (b : β) : (l.filter fun a => f a = b).length ≤ 1 := by
  have counted := List.nodup_iff_count_le_one.mp distinct b
  rwa [List.count_eq_countP, List.countP_map, List.countP_eq_length_filter] at counted

theorem eraseP_eq_filter [DecidableEq β] {f : α → β} {l : List α} (distinct : (l.map f).Nodup)
    (b : β) : l.eraseP (fun a => f a = b) = l.filter fun a => f a ≠ b := by
  rw [eraseP_eq_filter_iff.mpr (filter_length_le_one distinct b)]
  simp

/-- Where no two elements share a value, an element is found by its value. -/
theorem filter_eq_singleton [DecidableEq β] {f : α → β} {l : List α} (distinct : (l.map f).Nodup)
    {a : α} (member : a ∈ l) : (l.filter fun x => f x = f a) = [a] := by
  have bound := filter_length_le_one distinct (f a)
  have found : a ∈ l.filter fun x => f x = f a := by simp [member]
  match same : l.filter (fun x => f x = f a), bound, found with
  | [x], _, found => rw [List.mem_singleton.mp found]

/-- An element can be moved to the front, and is the only one with its value. -/
theorem perm_cons_filter [DecidableEq β] {f : α → β} {l : List α} (distinct : (l.map f).Nodup)
    {a : α} (member : a ∈ l) : l.Perm (a :: l.filter fun x => f x ≠ f a) := by
  have parts := (List.filter_append_perm (fun x => decide (f x = f a)) l).symm
  rw [filter_eq_singleton distinct member] at parts
  simpa using parts

/-- Where an item occurs once in all lists together, it is in one of the lists. -/
theorem filter_of_count_flatMap [BEq β] [LawfulBEq β] {f : α → List β} {b : β} {l : List α}
    (once : (l.flatMap f).count b = 1) : (l.filter fun a => b ∈ f a).length = 1 := by
  induction l with
  | nil => simp at once
  | cons a rest ih =>
    rw [List.flatMap_cons, List.count_append] at once
    by_cases here : b ∈ f a
    · -- The one occurrence is in this list, and there is none in the others.
      have positive := List.count_pos_iff.mpr here
      have nowhere : b ∉ rest.flatMap f := List.count_eq_zero.mp (by omega)
      have others : (rest.filter fun a => b ∈ f a) = [] := by
        simpa using nowhere
      simp [here, others]
    · rw [List.count_eq_zero.mpr here] at once
      simp [here, ih (by omega)]

end LorawanFeeds.Lib
