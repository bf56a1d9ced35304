import Mathlib.Order.Lattice

/-!
# Ordered association lists

The contents of a `std::map`, as the list of its entries in key order. Assignment keeps the
order, so two maps with the same entries are the same list.
-/
namespace LorawanFeeds.Lib.OrderedMap

variable {κ α : Type} [LinearOrder κ]

/-- `map.find(key)`. -/
def find? (key : κ) : List (κ × α) → Option α
  | [] => none
  | (k, v) :: rest => if key = k then some v else find? key rest

/-- `map[key] = value`. -/
def set (key : κ) (value : α) : List (κ × α) → List (κ × α)
  | [] => [(key, value)]
  | (k, v) :: rest =>
    -- All entries before this one have smaller keys.
    if key < k then (key, value) :: (k, v) :: rest
    else if key = k then (key, value) :: rest
    else (k, v) :: set key value rest

@[simp] theorem find?_set_self (key : κ) (value : α) (entries : List (κ × α)) :
    find? key (set key value entries) = some value := by
  induction entries with
  | nil => simp [set, find?]
  | cons entry rest ih =>
    obtain ⟨k, v⟩ := entry
    simp only [set]
    split
    · simp [find?]
    · split
      · simp [find?]
      next different => simp [find?, different, ih]

theorem find?_set_of_ne {key other : κ} (different : other ≠ key) (value : α)
    (entries : List (κ × α)) : find? other (set key value entries) = find? other entries := by
  induction entries with
  | nil => simp [set, find?, different]
  | cons entry rest ih =>
    obtain ⟨k, v⟩ := entry
    simp only [set]
    split
    · simp [find?, different]
    · split
      next same => subst same; simp [find?, different]
      · simp [find?, ih]

@[simp] theorem set_set_self (key : κ) (old new : α) (entries : List (κ × α)) :
    set key new (set key old entries) = set key new entries := by
  induction entries with
  | nil => simp [set]
  | cons entry rest ih =>
    obtain ⟨k, v⟩ := entry
    rcases lt_trichotomy key k with below | rfl | above
    · simp [set, below]
    · simp [set]
    · simp [set, above.not_gt, above.ne', ih]

/-- Assignments to different keys commute: the list does not remember their order. -/
theorem set_comm {a b : κ} (different : a ≠ b) (x y : α) (entries : List (κ × α)) :
    set a x (set b y entries) = set b y (set a x entries) := by
  induction entries with
  | nil =>
    rcases lt_or_gt_of_ne different with less | greater
    · simp [set, less, less.not_gt, less.ne']
    · simp [set, greater, greater.not_gt, greater.ne']
  | cons entry rest ih =>
    obtain ⟨k, v⟩ := entry
    -- Where the two keys stand against that of the first entry.
    rcases lt_trichotomy a k with ak | ak | ak <;> rcases lt_trichotomy b k with bk | bk | bk
    · rcases lt_or_gt_of_ne different with less | greater
      · simp [set, ak, bk, less, less.not_gt, less.ne']
      · simp [set, ak, bk, greater, greater.not_gt, greater.ne']
    · subst bk
      simp [set, ak, ak.not_gt, ak.ne']
    · simp [set, ak, bk.not_gt, bk.ne', (ak.trans bk).not_gt, (ak.trans bk).ne']
    · subst ak
      simp [set, bk, bk.not_gt, bk.ne']
    · exact absurd (ak.trans bk.symm) different
    · subst ak
      simp [set, bk.not_gt, bk.ne']
    · simp [set, bk, ak.not_gt, ak.ne', (bk.trans ak).not_gt, (bk.trans ak).ne']
    · subst bk
      simp [set, ak.not_gt, ak.ne']
    · simp [set, ak.not_gt, ak.ne', bk.not_gt, bk.ne', ih]

theorem mem_set {key : κ} {value : α} {entries : List (κ × α)} {entry : κ × α}
    (member : entry ∈ set key value entries) : entry = (key, value) ∨ entry ∈ entries := by
  induction entries with
  | nil => exact .inl (List.mem_singleton.mp member)
  | cons first rest ih =>
    obtain ⟨k, v⟩ := first
    simp only [set] at member
    split at member
    · exact List.mem_cons.mp member
    · split at member
      · exact (List.mem_cons.mp member).imp_right fun old => List.mem_cons_of_mem _ old
      · rcases List.mem_cons.mp member with rfl | later
        · exact .inr (List.mem_cons_self ..)
        · exact (ih later).imp_right fun old => List.mem_cons_of_mem _ old

/-- Assignment keeps the keys in their order. -/
theorem set_sorted (key : κ) (value : α) {entries : List (κ × α)}
    (sorted : (entries.map Prod.fst).Pairwise (· < ·)) :
    ((set key value entries).map Prod.fst).Pairwise (· < ·) := by
  induction entries with
  | nil => exact List.pairwise_singleton _ _
  | cons first rest ih =>
    obtain ⟨k, v⟩ := first
    obtain ⟨least, others⟩ := List.pairwise_cons.mp sorted
    simp only [set]
    split
    next below =>
      refine List.pairwise_cons.mpr ⟨?_, sorted⟩
      intro other member
      rcases List.mem_cons.mp member with rfl | later
      · exact below
      · exact lt_trans below (least other later)
    next notBelow =>
      split
      next same =>
        subst same
        exact sorted
      next different =>
        refine List.pairwise_cons.mpr ⟨?_, ih others⟩
        intro other member
        obtain ⟨entry, entered, rfl⟩ := List.mem_map.mp member
        rcases mem_set entered with rfl | old
        · exact lt_of_le_of_ne (le_of_not_gt notBelow) (Ne.symm different)
        · exact least entry.1 (List.mem_map_of_mem old)

theorem mem_of_find? {key : κ} {value : α} {entries : List (κ × α)}
    (found : find? key entries = some value) : (key, value) ∈ entries := by
  induction entries with
  | nil => cases found
  | cons first rest ih =>
    obtain ⟨k, v⟩ := first
    simp only [find?] at found
    split at found
    next same =>
      cases found
      subst same
      exact List.mem_cons_self ..
    next => exact List.mem_cons_of_mem _ (ih found)

/-- A key below all others goes to the front. -/
theorem set_of_lt {key : κ} {value : α} {entries : List (κ × α)}
    (least : ∀ other ∈ entries.map Prod.fst, key < other) :
    set key value entries = (key, value) :: entries := by
  cases entries with
  | nil => rfl
  | cons first rest => simp [set, least first.1 (by simp)]

theorem find?_of_lt {key : κ} {entries : List (κ × α)}
    (least : ∀ other ∈ entries.map Prod.fst, key < other) : find? key entries = none := by
  induction entries with
  | nil => rfl
  | cons first rest ih =>
    have differs : key ≠ first.1 := ne_of_lt (least first.1 (by simp))
    simp only [find?, if_neg differs]
    exact ih fun other later => least other (List.mem_cons_of_mem _ later)

end LorawanFeeds.Lib.OrderedMap
