import Mathlib.Data.List.Pairwise
import LorawanFeeds.Lib.Json

/-!
# Documents under construction

A program that fills in a document names its places by constant paths, none of which runs
through another. A draft is such a document together with the proof that every place can be
assigned to, so that filling it in cannot throw.
-/
namespace LorawanFeeds.Lib

/-- The places of a document. -/
structure Schema (F : Type) where
  path : F → List String
  apart : ∀ a b, a ≠ b → Json.Apart (path a) (path b)

variable {F : Type}

/-- The places listed one by one; only the pairs in the order of the list have to be checked. -/
def Schema.ofList (path : F → List String) (all : List F) (complete : ∀ f, f ∈ all)
    (pairwise : all.Pairwise fun a b => Json.Apart (path a) (path b)) : Schema F where
  path := path
  apart a b different := by
    have : Std.Symm fun a b => Json.Apart (path a) (path b) := ⟨fun _ _ => Json.Apart.symm⟩
    exact pairwise.forall (complete a) (complete b) different

structure Draft (S : Schema F) where
  json : Json
  opened : ∀ f, json.Open (S.path f)

namespace Draft

variable {S : Schema F}

@[ext] theorem ext {d e : Draft S} (same : d.json = e.json) : d = e := by
  cases d; cases e; simp_all

/-- A default-constructed or cleared document. -/
def empty : Draft S := ⟨.null, fun f => Json.open_null (S.path f)⟩

variable [DecidableEq F]

/-- `json[…] = v` for the path of one place. -/
def set (d : Draft S) (f : F) (v : Json) : Draft S where
  json := d.json.put (S.path f) v
  opened g := by
    -- The place itself, and the places apart from it.
    by_cases same : g = f
    · subst same
      exact Json.open_put_self d.json v (S.path g)
    · exact Json.open_put_of_apart d.json v (S.apart f g (Ne.symm same)) (d.opened g)

/-- The assignment of the library does just that and throws nothing. -/
theorem assign_eq_set (d : Draft S) (f : F) (v : Json) :
    d.json.assign (S.path f) v = .ok (d.set f v).json :=
  Json.assign_eq_put d.json (S.path f) v (d.opened f)

def get? (d : Draft S) (f : F) : Option Json := d.json.lookup (S.path f)

@[simp] theorem get?_set_self (d : Draft S) (f : F) (v : Json) : (d.set f v).get? f = some v :=
  Json.lookup_put_self d.json v (S.path f)

theorem get?_set_of_ne (d : Draft S) {f g : F} (different : g ≠ f) (v : Json) :
    (d.set f v).get? g = d.get? g :=
  Json.lookup_put_of_apart d.json v (S.apart f g different.symm)

@[simp] theorem set_set_self (d : Draft S) (f : F) (v w : Json) :
    (d.set f v).set f w = d.set f w :=
  ext (Json.put_put_self d.json v w (S.path f))

theorem set_comm (d : Draft S) {f g : F} (different : f ≠ g) (v w : Json) :
    (d.set g w).set f v = (d.set f v).set g w :=
  ext (Json.put_comm d.json v w (S.apart f g different))

/-- Several assignments in order. -/
def setAll (d : Draft S) (writes : List (F × Json)) : Draft S :=
  writes.foldl (fun draft write => draft.set write.1 write.2) d

@[simp] theorem setAll_nil (d : Draft S) : d.setAll [] = d := rfl

@[simp] theorem setAll_cons (d : Draft S) (write : F × Json) (writes : List (F × Json)) :
    d.setAll (write :: writes) = (d.set write.1 write.2).setAll writes := rfl

theorem setAll_append (d : Draft S) (first second : List (F × Json)) :
    d.setAll (first ++ second) = (d.setAll first).setAll second := List.foldl_append

/-- What is assigned later hides what was there before. -/
theorem set_setAll_of_mem (d : Draft S) (f : F) (v : Json) (writes : List (F × Json))
    (written : f ∈ writes.map Prod.fst) : (d.set f v).setAll writes = d.setAll writes := by
  induction writes generalizing d with
  | nil => simp at written
  | cons write writes ih =>
    rw [setAll_cons, setAll_cons]
    by_cases same : f = write.1
    · subst same
      rw [set_set_self]
    · rw [set_comm d (Ne.symm same)]
      exact ih _ (by simpa [same] using written)

/-- A batch of assignments whose places are all assigned again leaves no trace. -/
theorem setAll_setAll_of_subset (d : Draft S) (old new : List (F × Json))
    (covered : old.map Prod.fst ⊆ new.map Prod.fst) :
    (d.setAll old).setAll new = d.setAll new := by
  induction old generalizing d with
  | nil => rfl
  | cons write old ih =>
    simp only [List.map_cons, List.cons_subset] at covered
    rw [setAll_cons, ih _ covered.2, set_setAll_of_mem _ _ _ _ covered.1]

theorem get?_setAll_of_not_mem (d : Draft S) (f : F) (writes : List (F × Json))
    (untouched : f ∉ writes.map Prod.fst) : (d.setAll writes).get? f = d.get? f := by
  induction writes generalizing d with
  | nil => rfl
  | cons write writes ih =>
    simp only [List.map_cons, List.mem_cons, not_or] at untouched
    rw [setAll_cons, ih _ untouched.2, get?_set_of_ne _ untouched.1]

/-- The last assignment to a place decides. -/
theorem get?_setAll_of_last (d : Draft S) (f : F) (v : Json) (before after : List (F × Json))
    (untouched : f ∉ after.map Prod.fst) : (d.setAll (before ++ (f, v) :: after)).get? f = some v := by
  rw [setAll_append, setAll_cons, get?_setAll_of_not_mem _ _ _ untouched, get?_set_self]

theorem isSome_get?_setAll_of_mem (d : Draft S) (f : F) (writes : List (F × Json))
    (written : f ∈ writes.map Prod.fst) : ((d.setAll writes).get? f).isSome = true := by
  induction writes generalizing d with
  | nil => simp at written
  | cons write writes ih =>
    rw [setAll_cons]
    -- The last assignment to the place is the one that counts.
    by_cases later : f ∈ writes.map Prod.fst
    · exact ih _ later
    · have same : f = write.1 := by simpa [later] using written
      subst same
      rw [get?_setAll_of_not_mem _ _ _ later, get?_set_self]
      rfl

end Draft
end LorawanFeeds.Lib
