import Mathlib.Data.List.Basic

/-!
# Path names

The place that a path name leads to: names are separated by slashes, an empty one and `.` stay where
they are, `..` goes up, and above the root there is nothing. No name is a link.
-/
namespace LorawanFeeds.Lib.Paths

/-- The names on the way from the root. -/
abbrev Place := List (List Char)

/-- One name of a path. -/
def enter (place : Place) (name : List Char) : Place :=
  if name = [] ∨ name = ['.'] then place
  else if name = ['.', '.'] then place.dropLast
  else place ++ [name]

/-- The place of a path. A path without a slash at its front starts where the program runs. -/
def resolve (cwd : Place) (path : List Char) : Place :=
  (path.splitOn '/').foldl enter (if path.head? = some '/' then [] else cwd)

/-- The second place is in the folder at the first one, or in a folder below it. -/
def Below (folder place : Place) : Prop := folder <+: place ∧ folder ≠ place

instance (folder place : Place) : Decidable (Below folder place) :=
  inferInstanceAs (Decidable (_ ∧ _))

/-- A name of a file. -/
structure Plain (name : List Char) : Prop where
  some : name ≠ []
  whole : '/' ∉ name
  here : name ≠ ['.']
  up : name ≠ ['.', '.']

theorem enter_plain {name : List Char} (plain : Plain name) (place : Place) :
    enter place name = place ++ [name] := by
  rw [enter, if_neg (not_or.mpr ⟨plain.some, plain.here⟩), if_neg plain.up]

/-- A file of a folder. -/
theorem resolve_append (cwd : Place) {folder name : List Char} (some : folder ≠ [])
    (plain : Plain name) :
    resolve cwd (folder ++ '/' :: name) = resolve cwd folder ++ [name] := by
  have head : (folder ++ '/' :: name).head? = folder.head? := by
    cases folder with
    | nil => exact absurd rfl some
    | cons c folder => rfl
  have last : name.splitOn '/' = [name] := List.splitOn_eq_singleton plain.whole
  have parts : (folder ++ '/' :: name).splitOn '/' = folder.splitOn '/' ++ name.splitOn '/' :=
    List.splitOn_append_cons_self folder name
  rw [resolve, resolve, head, parts, last, List.foldl_append]
  exact enter_plain plain _

theorem below_append (place : Place) (name : List Char) : Below place (place ++ [name]) :=
  ⟨List.prefix_append _ _, fun same => by simpa using congrArg List.length same⟩

end LorawanFeeds.Lib.Paths
