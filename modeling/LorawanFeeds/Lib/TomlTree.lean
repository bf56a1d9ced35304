import LorawanFeeds.Lib.Toml

/-!
# The tree of a document

In a document that defines each path once, the value of every entry is found at the path of the
entry, and nothing is found at a path that has nothing to do with the entries.
-/
namespace LorawanFeeds.Lib

namespace Toml

theorem lookup_append (t : Toml) (path rest : List String) :
    t.lookup (path ++ rest) = (t.lookup path).bind fun child => child.lookup rest := by
  induction path generalizing t with
  | nil => rfl
  | cons key path ih =>
    rw [List.cons_append, lookup, lookup, Option.bind_assoc]
    congr 1
    funext child
    exact ih child

/-- A key of a table that is there. -/
theorem find_eq_lookup {t table : Toml} {path : List String} (found : t.lookup path = some table)
    (key : String) : table.find key = t.lookup (path ++ [key]) := by
  rw [lookup_append, found, Option.bind_some, lookup]
  cases table.find key <;> rfl

theorem lookup_empty {path : List String} (some : path ≠ []) : (Toml.table []).lookup path = none := by
  cases path with
  | nil => exact absurd rfl some
  | cons key path => rfl

/-- The tables on the way to a value are there. -/
theorem lookup_isSome_of_append {t v : Toml} {path rest : List String}
    (found : t.lookup (path ++ rest) = some v) : ∃ table, t.lookup path = some table := by
  rw [lookup_append] at found
  obtain ⟨table, there, _⟩ := Option.bind_eq_some_iff.mp found
  exact ⟨table, there⟩

@[simp] theorem find_put_cons (t v : Toml) (key : String) (path : List String) :
    (t.put (key :: path) v).find key = some (((t.find key).getD (.table [])).put path v) := by
  simp [put, find, members]

theorem find_put_cons_of_ne (t v : Toml) {key other : String} (different : other ≠ key)
    (path : List String) : (t.put (key :: path) v).find other = t.find other := by
  simp [put, find, members, OrderedMap.find?_set_of_ne different]

theorem lookup_put_self (t v : Toml) (path : List String) :
    (t.put path v).lookup path = some v := by
  induction path generalizing t with
  | nil => rfl
  | cons key path ih => simp [lookup, ih]

/-- Neither path leads through the other one. -/
def Unrelated (path other : List String) : Prop := ¬ path <+: other ∧ ¬ other <+: path

theorem lookup_put_of_unrelated (t v : Toml) {path other : List String}
    (apart : Unrelated path other) : (t.put path v).lookup other = t.lookup other := by
  induction path generalizing t other with
  | nil => exact absurd (List.nil_prefix) apart.1
  | cons key path ih =>
    cases other with
    | nil => exact absurd (List.nil_prefix) apart.2
    | cons k other =>
      by_cases same : k = key
      · subst same
        have rest : Unrelated path other := by
          simpa [Unrelated, List.cons_prefix_cons] using apart
        rw [lookup, find_put_cons, Option.bind_some, ih _ rest, lookup]
        cases t.find k with
        | some child => rfl
        | none =>
          apply lookup_empty
          rintro rfl
          exact rest.2 List.nil_prefix
      · rw [lookup, find_put_cons_of_ne t v same path, lookup]

/-- Opening a table changes only paths that end on the way to it. -/
theorem lookup_openTable (t : Toml) {path other : List String} (leaf : ¬ other <+: path) :
    (t.openTable path).lookup other = t.lookup other := by
  by_cases below : path <+: other
  · obtain ⟨rest, rfl⟩ := below
    have some : rest ≠ [] := by
      rintro rfl
      exact leaf (by simp)
    rw [openTable, lookup_append, lookup_put_self, Option.bind_some, lookup_append]
    cases t.lookup path with
    | some child => rfl
    | none => exact lookup_empty some
  · exact lookup_put_of_unrelated t _ ⟨below, leaf⟩

/-- The tables on the way to an assigned value are there. -/
theorem lookup_put_on_way (t v : Toml) {path other : List String} (way : other <+: path) :
    ((t.put path v).lookup other).isSome = true := by
  obtain ⟨rest, rfl⟩ := way
  obtain ⟨table, found⟩ := lookup_isSome_of_append (lookup_put_self t v (other ++ rest))
  rw [found, Option.isSome_some]

end Toml

namespace TomlLine

open Toml

/-- The entries of a document, each with its path. -/
def entries : List String → List TomlLine → List (List String × TomlValue)
  | _, [] => []
  | _, header path :: lines => entries path lines
  | path, entry key value :: lines => (path ++ [key], value) :: entries path lines
  | path, comment _ :: lines => entries path lines
  | path, blank :: lines => entries path lines

theorem entryPaths_eq (path : List String) (lines : List TomlLine) :
    entryPaths path lines = (entries path lines).map Prod.fst := by
  induction lines generalizing path with
  | nil => rfl
  | cons line lines ih => cases line <;> simp [entryPaths, entries, ih]

/-- An entry stands in a table of the document. -/
theorem entryPaths_concat {path leaf : List String} {lines : List TomlLine}
    (member : leaf ∈ entryPaths path lines) :
    ∃ table key, leaf = table ++ [key] ∧ (table = path ∨ table ∈ tablePaths lines) := by
  induction lines generalizing path with
  | nil => cases member
  | cons line lines ih =>
    cases line with
    | header table =>
      obtain ⟨inner, key, eq, here | later⟩ := ih member
      · exact ⟨inner, key, eq, .inr (by simp [tablePaths, here])⟩
      · exact ⟨inner, key, eq, .inr (by simp [tablePaths, later])⟩
    | entry key value =>
      rcases List.mem_cons.mp member with rfl | rest
      · exact ⟨path, key, rfl, .inl rfl⟩
      · exact ih rest
    | comment text => exact ih member
    | blank => exact ih member

/-- A path that has nothing to do with the entries is read as before. -/
theorem lookup_build_of_unrelated {other : List String} (path : List String) (t : Toml)
    {lines : List TomlLine} (leaf : ∀ table ∈ tablePaths lines, ¬ other <+: table)
    (apart : ∀ entry ∈ entryPaths path lines, Unrelated entry other) :
    (build path t lines).lookup other = t.lookup other := by
  induction lines generalizing path t with
  | nil => rfl
  | cons line lines ih =>
    cases line with
    | header table =>
      rw [build, ih table _ (fun p member => leaf p (by simp [tablePaths, member])) apart]
      exact lookup_openTable t (leaf table (by simp [tablePaths]))
    | entry key value =>
      rw [build, ih path _ leaf fun p member => apart p (by simp [entryPaths, member])]
      exact lookup_put_of_unrelated t _ (apart _ (by simp [entryPaths]))
    | comment text => exact ih path t leaf apart
    | blank => exact ih path t leaf apart

theorem lookup_build (path : List String) (t : Toml) {lines : List TomlLine}
    (leaves : ∀ leaf ∈ entryPaths path lines, ∀ table ∈ tablePaths lines, ¬ leaf <+: table)
    (apart : (entryPaths path lines).Pairwise Unrelated) :
    ∀ e ∈ entries path lines, (build path t lines).lookup e.1 = some e.2.tree := by
  induction lines generalizing path t with
  | nil => simp [entries]
  | cons line lines ih =>
    intro e member
    cases line with
    | header table =>
      refine ih table _ ?_ apart e member
      exact fun leaf here p later => leaves leaf here p (by simp [tablePaths, later])
    | entry key value =>
      rw [entryPaths, List.pairwise_cons] at apart
      rcases List.mem_cons.mp member with rfl | rest
      · -- Later lines leave the value where it is.
        rw [build, lookup_build_of_unrelated, lookup_put_self]
        · exact leaves _ (by simp [entryPaths])
        · exact fun p here => (apart.1 p here).symm
      · refine ih path _ ?_ apart.2 e rest
        exact fun leaf here => leaves leaf (by simp [entryPaths, here])
    | comment text => exact ih path t leaves apart e member
    | blank => exact ih path t leaves apart e member

/-- A path of no entry, which leads neither through an entry nor to a table. -/
theorem lookup_absent {lines : List TomlLine} {other : List String} (some : other ≠ [])
    (leaf : ∀ table ∈ tablePaths lines, ¬ other <+: table)
    (apart : ∀ entry ∈ entryPaths [] lines, Unrelated entry other) :
    (build [] (.table []) lines).lookup other = none := by
  rw [lookup_build_of_unrelated [] _ leaf apart]
  exact lookup_empty some

/-- What has been found once is found in the end, unless an entry leads to it. -/
theorem lookup_build_isSome {other : List String} (path : List String) (t : Toml)
    {lines : List TomlLine} (found : (t.lookup other).isSome = true)
    (apart : ∀ entry ∈ entryPaths path lines, ¬ entry <+: other) :
    ((build path t lines).lookup other).isSome = true := by
  induction lines generalizing path t with
  | nil => exact found
  | cons line lines ih =>
    cases line with
    | header table =>
      refine ih table _ ?_ apart
      by_cases way : other <+: table
      · exact lookup_put_on_way t _ way
      · rw [lookup_openTable t way, found]
    | entry key value =>
      refine ih path _ ?_ fun p member => apart p (by simp [entryPaths, member])
      by_cases way : other <+: path ++ [key]
      · exact lookup_put_on_way t _ way
      · rw [lookup_put_of_unrelated t _ ⟨apart _ (by simp [entryPaths]), way⟩, found]
    | comment text => exact ih path t found apart
    | blank => exact ih path t found apart

/-- A table is there, also without entries. -/
theorem lookup_build_table {table : List String} (path : List String) (t : Toml)
    {lines : List TomlLine} (member : table ∈ tablePaths lines)
    (apart : ∀ entry ∈ entryPaths path lines, ¬ entry <+: table) :
    ((build path t lines).lookup table).isSome = true := by
  induction lines generalizing path t with
  | nil => cases member
  | cons line lines ih =>
    cases line with
    | header here =>
      rcases List.mem_cons.mp member with rfl | later
      · rw [build]
        exact lookup_build_isSome _ _ (lookup_put_on_way t _ (List.prefix_refl _)) apart
      · exact ih here _ later apart
    | entry key value =>
      exact ih path _ member fun p rest => apart p (by simp [entryPaths, rest])
    | comment text => exact ih path t member apart
    | blank => exact ih path t member apart

section

variable {lines : List TomlLine} (formed : WellFormed lines)

include formed

/-- No entry leads through another one. -/
theorem WellFormed.apart : (entryPaths [] lines).Pairwise Unrelated := by
  have through {leaf other : List String} (first : leaf ∈ entryPaths [] lines)
      (second : other ∈ entryPaths [] lines) (different : leaf ≠ other) : ¬ leaf <+: other := by
    obtain ⟨table, key, rfl, top | inner⟩ := entryPaths_concat second
    · intro leads
      rcases List.prefix_concat_iff.mp leads with same | before
      · exact different same
      · rw [top, List.prefix_nil] at before
        exact (formed.keys leaf (by simp [first])).1 before
    · intro leads
      rcases List.prefix_concat_iff.mp leads with same | before
      · exact different same
      · exact formed.leaves leaf first table inner before
  have distinct := (List.nodup_append.mp formed.once).2.1
  rw [List.Nodup, List.pairwise_iff_forall_sublist] at distinct
  rw [List.pairwise_iff_forall_sublist]
  intro leaf other sub
  have first := sub.subset (List.mem_cons_self ..)
  have second := sub.subset (List.mem_cons_of_mem _ (List.mem_cons_self ..))
  have different := distinct sub
  exact ⟨through first second different, through second first different.symm⟩

theorem WellFormed.lookup_entry {e : List String × TomlValue} (member : e ∈ entries [] lines) :
    (build [] (.table []) lines).lookup e.1 = some e.2.tree :=
  lookup_build [] _ formed.leaves formed.apart e member

theorem WellFormed.lookup_table {table : List String} (member : table ∈ tablePaths lines) :
    ∃ inner, (build [] (.table []) lines).lookup table = some inner :=
  Option.isSome_iff_exists.mp
    (lookup_build_table [] _ member fun leaf here => formed.leaves leaf here table member)

end

end TomlLine

end LorawanFeeds.Lib
