import Mathlib.Data.String.Basic
import LorawanFeeds.Lib.OrderedMap

/-!
# JSON values

The value type of the C++ JSON library the programs are written against: three kinds of
number, objects as ordered maps, element access by key, and the implicit conversions with
the texts of the exceptions they throw. Reading and writing text is not part of this file.
-/
namespace LorawanFeeds.Lib

inductive Json where
  | null
  | bool (b : Bool)
  | int (i : Int64)
  | uint (n : UInt64)
  | float (x : Float)
  | str (s : String)
  | arr (items : List Json)
  | obj (fields : List (String × Json))
  deriving Inhabited

/-- The exceptions thrown by element access and conversion. -/
inductive JsonError where
  | mustBe (expected found : String)
  | cannotIndex (found : String)
  deriving DecidableEq, Repr

def JsonError.what : JsonError → String
  | .mustBe expected found =>
    "[json.exception.type_error.302] type must be " ++ expected ++ ", but is " ++ found
  | .cannotIndex found =>
    "[json.exception.type_error.305] cannot use operator[] with a string argument with " ++ found

namespace Json

def typeName : Json → String
  | .null => "null"
  | .bool _ => "boolean"
  | .int _ | .uint _ | .float _ => "number"
  | .str _ => "string"
  | .arr _ => "array"
  | .obj _ => "object"

def isObject : Json → Bool
  | .obj _ => true
  | _ => false

/-- The members of an object; no other value has any. -/
def members : Json → List (String × Json)
  | .obj fields => fields
  | _ => []

def get? (j : Json) (key : String) : Option Json := OrderedMap.find? key j.members

def contains (j : Json) (key : String) : Bool := (j.get? key).isSome

/-- What a range-based `for` visits. A value that is no container is its own only element. -/
def elements : Json → List Json
  | .null => []
  | .arr items => items
  | .obj fields => fields.map Prod.snd
  | j => [j]

theorem isObject_of_get? {j v : Json} {key : String} (found : j.get? key = some v) :
    j.isObject = true := by
  cases j <;> simp_all [get?, members, OrderedMap.find?, isObject]

theorem contains_eq_true_iff (j : Json) (key : String) :
    j.contains key = true ↔ ∃ v, j.get? key = some v := Option.isSome_iff_exists

/-! ### Conversions -/

def asString : Json → Except JsonError String
  | .str s => .ok s
  | j => .error (.mustBe "string" j.typeName)

/-- Conversion to `double`, the library's own floating-point type. -/
def asDouble : Json → Except JsonError Float
  | .uint n => .ok n.toFloat
  | .int i => .ok i.toFloat
  | .float x => .ok x
  | j => .error (.mustBe "number" j.typeName)

/-- Conversion to an arithmetic type that is not one of the three number types of the
library; these conversions also accept a boolean.

The library casts a `double` to an integer type, which C++ leaves undefined if the integer part is
out of range. The conversions of `Float` stand for any result there: they are opaque functions, so
that no proof can tell what they give. -/
def asArithmetic {α : Type} (ofUInt : UInt64 → α) (ofInt : Int64 → α) (ofFloat : Float → α)
    (ofBool : Bool → α) : Json → Except JsonError α
  | .uint n => .ok (ofUInt n)
  | .int i => .ok (ofInt i)
  | .float x => .ok (ofFloat x)
  | .bool b => .ok (ofBool b)
  | j => .error (.mustBe "number" j.typeName)

def asInt : Json → Except JsonError Int32 :=
  asArithmetic (fun n => n.toUInt32.toInt32) Int64.toInt32 Float.toInt32
    (fun b => if b then 1 else 0)

def asUInt32 : Json → Except JsonError UInt32 :=
  asArithmetic UInt64.toUInt32 (fun i => i.toUInt64.toUInt32) Float.toUInt32 Bool.toUInt32

def asFloat : Json → Except JsonError Float32 :=
  asArithmetic UInt64.toFloat32 Int64.toFloat32 Float.toFloat32 (fun b => if b then 1 else 0)

def asUInt8 : Json → Except JsonError UInt8 :=
  asArithmetic UInt64.toUInt8 (fun i => i.toUInt64.toUInt8) Float.toUInt8 Bool.toUInt8

def asUInt16 : Json → Except JsonError UInt16 :=
  asArithmetic UInt64.toUInt16 (fun i => i.toUInt64.toUInt16) Float.toUInt16 Bool.toUInt16

/-- Conversion to `uint64_t`, the library's own unsigned type. -/
def asUInt64 : Json → Except JsonError UInt64
  | .uint n => .ok n
  | .int i => .ok i.toUInt64
  | .float x => .ok x.toUInt64
  | j => .error (.mustBe "number" j.typeName)

/-- Conversion to `bool`, which takes nothing else. -/
def asBool : Json → Except JsonError Bool
  | .bool b => .ok b
  | j => .error (.mustBe "boolean" j.typeName)

/-- The values the arithmetic conversions accept. -/
def isArithmetic : Json → Bool
  | .uint _ | .int _ | .float _ | .bool _ => true
  | _ => false

theorem asArithmetic_ok_iff {α : Type} (ofUInt : UInt64 → α) (ofInt : Int64 → α)
    (ofFloat : Float → α) (ofBool : Bool → α) (j : Json) :
    (∃ a, asArithmetic ofUInt ofInt ofFloat ofBool j = .ok a) ↔ j.isArithmetic = true := by
  cases j <;> simp [asArithmetic, isArithmetic]

/-- The values `asDouble` accepts. -/
def isNumber : Json → Bool
  | .uint _ | .int _ | .float _ => true
  | _ => false

theorem asDouble_ok_iff (j : Json) : (∃ x, j.asDouble = .ok x) ↔ j.isNumber = true := by
  cases j <;> simp [asDouble, isNumber]

def isFloat : Json → Bool
  | .float _ => true
  | _ => false

def isString : Json → Bool
  | .str _ => true
  | _ => false

/-- `j[key]` of a value that may be changed, as far as it is read: null turns into an object, and
a missing member is created as null. -/
def index : Json → String → Except JsonError Json
  | .null, _ => .ok .null
  | .obj fields, key => .ok ((OrderedMap.find? key fields).getD .null)
  | j, _ => .error (.cannotIndex j.typeName)

theorem eq_of_index_eq_ok {j v : Json} {key : String} (read : j.index key = .ok v) :
    v = (j.get? key).getD .null := by
  cases j <;> cases read <;> rfl

/-- A text is read where there is one: a created member does not convert. -/
theorem index_asString_ok_iff (j : Json) (key s : String) :
    (j.index key >>= asString) = .ok s ↔ j.get? key = some (.str s) := by
  cases j with
  | obj fields =>
    simp only [index, get?, members]
    cases OrderedMap.find? key fields with
    | none => simp [asString, bind, Except.bind]
    | some v => cases v <;> simp [asString, bind, Except.bind]
  | null => simp [index, get?, members, OrderedMap.find?, asString, bind, Except.bind]
  | _ => simp [index, get?, members, OrderedMap.find?, bind, Except.bind]

/-- `j[k₁]…[kₙ]`, one index after the other. -/
def indexPath : Json → List String → Except JsonError Json
  | j, [] => .ok j
  | j, key :: path => j.index key >>= fun child => child.indexPath path

/-! ### Assignment along a path -/

/-- `j[k₁]…[kₙ] = v` on a value that may be changed: null turns into an object, a missing
member is created, and anything else that is no object throws. -/
def assign : Json → List String → Json → Except JsonError Json
  | _, [], v => .ok v
  -- Null turns into an object with this one member.
  | .null, k :: path, v => (assign .null path v).map fun child => .obj [(k, child)]
  -- A missing member starts as null.
  | .obj fields, k :: path, v =>
    (assign ((OrderedMap.find? k fields).getD .null) path v).map fun child =>
      .obj (OrderedMap.set k child fields)
  | j, _ :: _, _ => .error (.cannotIndex j.typeName)

/-- Assignment where every value on the way is taken for the object it has to be. -/
def put : Json → List String → Json → Json
  | _, [], v => v
  | j, k :: path, v => .obj (OrderedMap.set k (put ((j.get? k).getD .null) path v) j.members)

/-- Assignments one after the other. -/
def putAll (j : Json) (fields : List (List String × Json)) : Json :=
  fields.foldl (fun j field => j.put field.1 field.2) j

/-- The value at the end of a path. -/
def lookup : Json → List String → Option Json
  | j, [] => some j
  | j, k :: path => (j.get? k).bind fun child => child.lookup path

theorem indexPath_null (path : List String) : indexPath .null path = .ok .null := by
  induction path with
  | nil => rfl
  | cons key path ih => exact ih

/-- A path leads to a value, or it breaks off in null. -/
theorem eq_of_indexPath_eq_ok {j v : Json} {path : List String}
    (read : j.indexPath path = .ok v) : v = (j.lookup path).getD .null := by
  induction path generalizing j with
  | nil =>
    cases read
    rfl
  | cons key path ih =>
    rw [indexPath] at read
    cases entered : j.index key with
    | error e =>
      rw [entered] at read
      cases read
    | ok child =>
      rw [entered] at read
      have same := eq_of_index_eq_ok entered
      rw [lookup]
      cases there : j.get? key with
      | none =>
        -- Null has no members.
        rw [there, Option.getD_none] at same
        subst same
        exact Except.ok.inj (read.symm.trans (indexPath_null path))
      | some member =>
        rw [there, Option.getD_some] at same
        subst same
        exact ih read

/-- A value that is there is read. -/
theorem indexPath_of_lookup {j v : Json} {path : List String} (there : j.lookup path = some v) :
    j.indexPath path = .ok v := by
  induction path generalizing j with
  | nil =>
    cases there
    rfl
  | cons key path ih =>
    rw [lookup] at there
    obtain ⟨child, found, rest⟩ := Option.bind_eq_some_iff.mp there
    cases j with
    | obj fields =>
      have entered : (Json.obj fields).index key = .ok child := by
        simp only [get?, members] at found
        simp [index, found]
      rw [indexPath, entered]
      exact ih rest
    | _ => cases found

/-- The values on the way along a path are missing, null or objects. -/
def Open : Json → List String → Prop
  | _, [] => True
  | j, k :: path => (j = .null ∨ j.isObject = true) ∧ ((j.get? k).getD .null).Open path

theorem open_null : ∀ path : List String, Open .null path
  | [] => trivial
  | _ :: path => ⟨.inl rfl, open_null path⟩

theorem open_of_lookup {j v : Json} {path : List String} (there : j.lookup path = some v) :
    j.Open path := by
  induction path generalizing j with
  | nil => trivial
  | cons key path ih =>
    obtain ⟨child, found, rest⟩ := Option.bind_eq_some_iff.mp there
    refine ⟨.inr (isObject_of_get? found), ?_⟩
    rw [found]
    exact ih rest

theorem assign_eq_put : ∀ (j : Json) (path : List String) (v : Json), j.Open path →
    j.assign path v = .ok (j.put path v)
  | j, [], v, _ => by cases j <;> rfl
  | .null, k :: path, v, opened => by
    have child := assign_eq_put .null path v (open_null path)
    simp [assign, put, child, Except.map, get?, members, OrderedMap.find?, OrderedMap.set]
  | .obj fields, k :: path, v, opened => by
    have child := assign_eq_put _ path v opened.2
    simp only [get?, members] at child
    simp [assign, put, child, Except.map, get?, members]
  | .bool _, _ :: _, _, opened => by simp [Open, isObject] at opened
  | .int _, _ :: _, _, opened => by simp [Open, isObject] at opened
  | .uint _, _ :: _, _, opened => by simp [Open, isObject] at opened
  | .float _, _ :: _, _, opened => by simp [Open, isObject] at opened
  | .str _, _ :: _, _, opened => by simp [Open, isObject] at opened
  | .arr _, _ :: _, _, opened => by simp [Open, isObject] at opened

/-- An assignment that does not throw is one along objects. -/
theorem eq_put_of_assign : ∀ (j : Json) (path : List String) (v j' : Json),
    j.assign path v = .ok j' → j' = j.put path v
  | j, [], v, j', assigned => by cases j <;> exact (Except.ok.inj assigned).symm
  | .null, k :: path, v, j', assigned => by
    rw [assign_eq_put _ _ _ (open_null (k :: path))] at assigned
    exact (Except.ok.inj assigned).symm
  | .obj fields, k :: path, v, j', assigned => by
    simp only [assign] at assigned
    cases inside : assign ((OrderedMap.find? k fields).getD .null) path v with
    | error e =>
      rw [inside] at assigned
      cases assigned
    | ok child =>
      rw [inside] at assigned
      cases assigned
      rw [eq_put_of_assign _ path v child inside]
      rfl

/-- Neither path runs through the end of the other. -/
def Apart : List String → List String → Prop
  | k :: path, l :: other => k ≠ l ∨ Apart path other
  | _, _ => False

instance Apart.decidable : ∀ path other : List String, Decidable (Apart path other)
  | k :: path, l :: other =>
    have := Apart.decidable path other
    inferInstanceAs (Decidable (k ≠ l ∨ Apart path other))
  | [], _ => inferInstanceAs (Decidable False)
  | _ :: _, [] => inferInstanceAs (Decidable False)

theorem Apart.symm : ∀ {path other : List String}, Apart path other → Apart other path
  | _ :: _, _ :: _, .inl different => .inl different.symm
  | _ :: _, _ :: _, .inr rest => .inr rest.symm

/-- Two members of one value are apart. -/
theorem apart_concat (place : List String) {k l : String} (different : k ≠ l) :
    Apart (place ++ [k]) (place ++ [l]) := by
  induction place with
  | nil => exact .inl different
  | cons _ place ih => exact .inr ih

@[simp] theorem get?_put_cons (j v : Json) (k : String) (path : List String) :
    (j.put (k :: path) v).get? k = some (((j.get? k).getD .null).put path v) := by
  simp [put, get?, members]

theorem get?_put_cons_of_ne (j v : Json) {k l : String} (different : l ≠ k)
    (path : List String) : (j.put (k :: path) v).get? l = j.get? l := by
  simp [put, get?, members, OrderedMap.find?_set_of_ne different]

theorem lookup_put_self (j v : Json) (path : List String) :
    (j.put path v).lookup path = some v := by
  induction path generalizing j with
  | nil => rfl
  | cons k path ih => simp [lookup, ih]

theorem lookup_put_of_apart (j v : Json) {path other : List String} (apart : Apart path other) :
    (j.put path v).lookup other = j.lookup other := by
  induction path generalizing j other with
  | nil => simp [Apart] at apart
  | cons k path ih =>
    cases other with
    | nil => simp [Apart] at apart
    | cons l other =>
      by_cases same : l = k
      · subst same
        have rest : Apart path other := by simpa [Apart] using apart
        rw [lookup, get?_put_cons, Option.bind_some, ih _ rest, lookup]
        -- A missing member reads as null, in which no non-empty path leads anywhere.
        cases j.get? l with
        | some child => rfl
        | none =>
          cases other with
          | nil => cases path <;> simp [Apart] at rest
          | cons => simp [lookup, get?, members, OrderedMap.find?]
      · rw [lookup, get?_put_cons_of_ne j v same path, lookup]

theorem lookup_putAll_of_apart (j : Json) {fields : List (List String × Json)} {other : List String}
    (apart : ∀ field ∈ fields, Apart field.1 other) : (j.putAll fields).lookup other = j.lookup other := by
  induction fields generalizing j with
  | nil => rfl
  | cons field fields ih =>
    have later := ih (j.put field.1 field.2) fun f member => apart f (by simp [member])
    exact later.trans (lookup_put_of_apart j field.2 (apart field (by simp)))

/-- Each of the values is at its path, if no path runs through another one. -/
theorem lookup_putAll (j : Json) {fields : List (List String × Json)}
    (apart : (fields.map Prod.fst).Pairwise Apart) :
    ∀ field ∈ fields, (j.putAll fields).lookup field.1 = some field.2 := by
  induction fields generalizing j with
  | nil => simp
  | cons first fields ih =>
    rw [List.map_cons, List.pairwise_cons] at apart
    intro field member
    rcases List.mem_cons.mp member with rfl | rest
    · have kept := @lookup_putAll_of_apart (j.put field.1 field.2) fields field.1
        fun f here => (apart.1 f.1 (List.mem_map_of_mem here)).symm
      exact kept.trans (lookup_put_self j field.2 field.1)
    · exact ih (j.put first.1 first.2) apart.2 field rest

theorem put_put_self (j old new : Json) (path : List String) :
    (j.put path old).put path new = j.put path new := by
  induction path generalizing j with
  | nil => rfl
  | cons k path ih =>
    rw [put, get?_put_cons, Option.getD_some, ih, put, put]
    simp [members]

/-- Assignments along paths that are apart commute. -/
theorem put_comm (j v w : Json) {path other : List String} (apart : Apart path other) :
    (j.put other w).put path v = (j.put path v).put other w := by
  induction path generalizing j other with
  | nil => simp [Apart] at apart
  | cons k path ih =>
    cases other with
    | nil => simp [Apart] at apart
    | cons l other =>
      by_cases same : l = k
      · subst same
        -- Below a common member the paths are still apart.
        have rest : Apart path other := by simpa [Apart] using apart
        rw [put, get?_put_cons, Option.getD_some, ih _ rest, put, put, get?_put_cons,
          Option.getD_some, put]
        simp [members]
      · -- Two members: the object's own map keeps no order.
        have swapped : k ≠ l := fun equal => same equal.symm
        rw [put, get?_put_cons_of_ne j w swapped other]
        conv_rhs => rw [put, get?_put_cons_of_ne j v same path]
        simp only [put, members]
        rw [OrderedMap.set_comm swapped]

theorem open_put_of_apart (j v : Json) {path other : List String} (apart : Apart path other)
    (opened : j.Open other) : (j.put path v).Open other := by
  induction path generalizing j other with
  | nil => simp [Apart] at apart
  | cons k path ih =>
    cases other with
    | nil => trivial
    | cons l other =>
      refine ⟨.inr rfl, ?_⟩
      by_cases same : l = k
      · subst same
        have rest : Apart path other := by simpa [Apart] using apart
        rw [get?_put_cons, Option.getD_some]
        exact ih _ rest opened.2
      · rw [get?_put_cons_of_ne j v same path]
        exact opened.2

theorem open_put_self (j v : Json) (path : List String) : (j.put path v).Open path := by
  induction path generalizing j with
  | nil => trivial
  | cons k path ih => exact ⟨.inr rfl, by rw [get?_put_cons]; exact ih _⟩

end Json
end LorawanFeeds.Lib
