import Mathlib.Data.List.Nodup
import Mathlib.Data.List.Perm.Subperm
import Mathlib.Data.List.Range
import Mathlib.Tactic.SplitIfs

/-!
# Tables of numbers in use

A table with a byte for each number: zero if the number is free, else the number itself, as far as
a byte holds it. Number zero is never given out, and stands for a failure. The table does what it
is for as long as the numbers in use fit into a byte.
-/
namespace LorawanFeeds.Lib

def lowestFree (table : List UInt8) : Option Nat :=
  (List.range' 1 (table.length - 1)).find? fun id => table.getD id 0 = 0

/-- Takes the lowest free number. -/
def allocId (table : List UInt8) : List UInt8 × Nat :=
  match lowestFree table with
  | some id => (table.set id id.toUInt8, id)
  | none => (table, 0)

/-- Gives a number back. The byte is compared with the number. -/
def freeId (table : List UInt8) (id : Nat) : List UInt8 :=
  if id < table.length ∧ (table.getD id 0).toNat = id then table.set id 0 else table

/-- The table marks exactly the numbers in use, each of them once in use. -/
structure Marks (table : List UInt8) (used : List Nat) : Prop where
  nodup : used.Nodup
  range : ∀ id ∈ used, 1 ≤ id ∧ id < table.length ∧ id < 256
  marked : ∀ id, 1 ≤ id → id < table.length →
    table.getD id 0 = if id ∈ used then id.toUInt8 else 0

theorem toUInt8_ne_zero {id : Nat} (positive : 1 ≤ id) (small : id < 256) : id.toUInt8 ≠ 0 := by
  intro zero
  have value := congrArg UInt8.toNat zero
  rw [Nat.toUInt8, UInt8.toNat_ofNat', Nat.mod_eq_of_lt small] at value
  change id = 0 at value
  omega

theorem toNat_toUInt8 {id : Nat} (small : id < 256) : id.toUInt8.toNat = id := by
  rw [Nat.toUInt8, UInt8.toNat_ofNat', Nat.mod_eq_of_lt small]

theorem getD_set (table : List UInt8) (i j : Nat) (byte : UInt8) (inside : i < table.length) :
    (table.set i byte).getD j 0 = if j = i then byte else table.getD j 0 := by
  simp only [List.getD_eq_getElem?_getD, List.getElem?_set]
  by_cases same : i = j
  · subst same
    simp [inside]
  · simp [same, Ne.symm same]

namespace Marks

variable {table : List UInt8} {used : List Nat} (marks : Marks table used)

include marks

/-- A number is marked exactly if it is in use. -/
theorem getD_eq_zero_iff {id : Nat} (positive : 1 ≤ id) (inside : id < table.length) :
    table.getD id 0 = 0 ↔ id ∉ used := by
  rw [marks.marked id positive inside]
  split_ifs with member
  · exact iff_of_false (toUInt8_ne_zero positive (marks.range id member).2.2) (absurd member)
  · exact iff_of_true rfl member

theorem perm {used' : List Nat} (perm : used.Perm used') : Marks table used' where
  nodup := perm.nodup_iff.mp marks.nodup
  range id member := marks.range id (perm.mem_iff.mpr member)
  marked id positive inside := by
    rw [marks.marked id positive inside]
    simp only [perm.mem_iff]

omit marks in
/-- If all numbers up to some number are in use, they are as many as that. -/
theorem le_length {n : Nat} (all : ∀ id, 1 ≤ id → id ≤ n → id ∈ used) : n ≤ used.length := by
  have subset : List.range' 1 n ⊆ used := by
    intro id member
    obtain ⟨low, high⟩ := List.mem_range'_1.mp member
    exact all id low (by omega)
  have distinct : (List.range' 1 n).Nodup := List.nodup_range'
  simpa using (distinct.subperm subset).length_le

/-- With room for one more, the lowest free number is given out. -/
theorem alloc (room : used.length + 1 < table.length) (small : used.length + 1 < 256) :
    ∃ id, allocId table = (table.set id id.toUInt8, id) ∧ id ∉ used ∧ id ≤ used.length + 1 ∧
      Marks (table.set id id.toUInt8) (id :: used) := by
  obtain ⟨free, low, high, unused⟩ : ∃ free, 1 ≤ free ∧ free ≤ used.length + 1 ∧ free ∉ used := by
    by_contra none
    have all : ∀ id, 1 ≤ id → id ≤ used.length + 1 → id ∈ used := by
      intro id low high
      by_contra unused
      exact none ⟨id, low, high, unused⟩
    exact absurd (le_length all) (by omega)
  have found : (lowestFree table).isSome := by
    rw [lowestFree, List.find?_isSome]
    refine ⟨free, List.mem_range'_1.mpr ⟨low, by omega⟩, ?_⟩
    simpa using (marks.getD_eq_zero_iff low (by omega)).mpr unused
  obtain ⟨id, lowest⟩ := Option.isSome_iff_exists.mp found
  obtain ⟨zero, inside, first⟩ := List.find?_range'_eq_some.mp lowest
  obtain ⟨positive, below⟩ := List.mem_range'_1.mp inside
  have new : id ∉ used := (marks.getD_eq_zero_iff positive (by omega)).mp (by simpa using zero)
  -- No number below the one found is free.
  have bound : id ≤ used.length + 1 := by
    by_contra above
    have taken := first free low (by omega)
    rw [(marks.getD_eq_zero_iff low (by omega)).mpr unused] at taken
    simp at taken
  refine ⟨id, by rw [allocId, lowest], new, bound, List.nodup_cons.mpr ⟨new, marks.nodup⟩, ?_, ?_⟩
  · intro other member
    rw [List.length_set]
    rcases List.mem_cons.mp member with rfl | old
    · exact ⟨positive, by omega, by omega⟩
    · exact marks.range other old
  · intro other low' inside'
    rw [List.length_set] at inside'
    rw [getD_set _ _ _ _ (by omega)]
    by_cases same : other = id
    · simp [same]
    · rw [if_neg same, marks.marked other low' inside']
      simp [same]

/-- With no number free, the failure is given out, and the table stays as it is. -/
theorem alloc_of_full (full : table.length ≤ used.length + 1) : allocId table = (table, 0) := by
  have none : lowestFree table = none := by
    rw [lowestFree, List.find?_eq_none]
    intro id member
    obtain ⟨low, high⟩ := List.mem_range'_1.mp member
    have subset : used ⊆ List.range' 1 (table.length - 1) := by
      intro other inUse
      obtain ⟨positive, inside, _⟩ := marks.range other inUse
      exact List.mem_range'_1.mpr ⟨positive, by omega⟩
    -- There are as many numbers in use as there are numbers.
    have perm := (marks.nodup.subperm subset).perm_of_length_le (by simp; omega)
    have inUse : id ∈ used := perm.mem_iff.mpr member
    simpa using (marks.getD_eq_zero_iff low (by omega)).not.mpr (not_not.mpr inUse)
  rw [allocId, none]

theorem free {id : Nat} (member : id ∈ used) :
    freeId table id = table.set id 0 ∧ Marks (table.set id 0) (used.erase id) := by
  obtain ⟨positive, inside, small⟩ := marks.range id member
  have mark : (table.getD id 0).toNat = id := by
    rw [marks.marked id positive inside, if_pos member, toNat_toUInt8 small]
  refine ⟨by rw [freeId, if_pos ⟨inside, mark⟩], marks.nodup.erase id, ?_, ?_⟩
  · intro other still
    rw [List.length_set]
    exact marks.range other (List.mem_of_mem_erase still)
  · intro other low inside'
    rw [List.length_set] at inside'
    rw [getD_set _ _ _ _ inside]
    simp only [marks.nodup.mem_erase_iff]
    by_cases same : other = id
    · simp [same]
    · rw [if_neg same, marks.marked other low inside']
      simp [same]

end Marks
end LorawanFeeds.Lib
