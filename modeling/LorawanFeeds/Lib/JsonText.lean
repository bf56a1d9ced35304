import Mathlib.Data.List.Basic
import LorawanFeeds.Lib.Json

/-!
# JSON text

What the programs rely on in the reader and the writer of the C++ JSON library: a value that can
come out of the reader is written as a text that is read as the same value. Which numbers with
a fraction these are is left to the library.
-/
namespace LorawanFeeds.Lib

/-- The values that can come out of the reader: members in their order, and an integer that is not
negative as an unsigned one. -/
inductive Json.Proper (finite : Float → Prop) : Json → Prop
  | null : Proper finite .null
  | bool (b : Bool) : Proper finite (.bool b)
  | int {i : Int64} (negative : i < 0) : Proper finite (.int i)
  | uint (n : UInt64) : Proper finite (.uint n)
  | float {x : Float} (printed : finite x) : Proper finite (.float x)
  | str (s : String) : Proper finite (.str s)
  | arr {items : List Json} (each : ∀ item ∈ items, Proper finite item) : Proper finite (.arr items)
  | obj {fields : List (String × Json)} (sorted : (fields.map Prod.fst).Pairwise (· < ·))
      (each : ∀ field ∈ fields, Proper finite field.2) : Proper finite (.obj fields)

structure JsonText where
  /-- The numbers with a fraction that are read back as they were. -/
  finite : Float → Prop
  /-- `stream >> json`: a value at the front of the text. -/
  read : List UInt8 → Option Json
  /-- `json::parse`. -/
  parse : List UInt8 → Option Json
  /-- `json.dump(4)`. The texts of a value are Unicode, so that it does not throw. -/
  dump : Json → List UInt8
  read_proper : ∀ text j, read text = some j → j.Proper finite
  parse_proper : ∀ text j, parse text = some j → j.Proper finite
  read_dump : ∀ j, j.Proper finite → read (dump j) = some j
  read_dump_endl : ∀ j, j.Proper finite → read (dump j ++ [10]) = some j
  parse_dump : ∀ j, j.Proper finite → parse (dump j) = some j

namespace Json

variable {finite : Float → Prop}

theorem Proper.get? {j v : Json} (proper : j.Proper finite) {key : String}
    (found : j.get? key = some v) : v.Proper finite := by
  cases proper with
  | obj _ each => exact each _ (OrderedMap.mem_of_find? found)
  | _ => cases found

theorem Proper.members {j : Json} (proper : j.Proper finite) :
    (j.members.map Prod.fst).Pairwise (· < ·) ∧ ∀ field ∈ j.members, field.2.Proper finite := by
  cases proper with
  | obj sorted each => exact ⟨sorted, each⟩
  | _ => simp [Json.members]

/-- Assigning a proper value keeps a value proper. -/
theorem Proper.put {j v : Json} (proper : j.Proper finite) (assigned : v.Proper finite)
    (path : List String) : (j.put path v).Proper finite := by
  induction path generalizing j with
  | nil => exact assigned
  | cons k path ih =>
    obtain ⟨sorted, each⟩ := proper.members
    have child : ((j.get? k).getD .null).Proper finite := by
      cases found : j.get? k with
      | none => exact .null
      | some member => exact proper.get? found
    rw [Json.put]
    refine .obj (OrderedMap.set_sorted _ _ sorted) ?_
    intro field member
    rcases OrderedMap.mem_set member with rfl | old
    · exact ih child
    · exact each field old

theorem Proper.putAll {j : Json} (proper : j.Proper finite) {fields : List (List String × Json)}
    (each : ∀ field ∈ fields, field.2.Proper finite) : (j.putAll fields).Proper finite := by
  induction fields generalizing j with
  | nil => exact proper
  | cons field fields ih =>
    exact ih (proper.put (each field (by simp)) field.1) fun f member => each f (by simp [member])

end Json
end LorawanFeeds.Lib
