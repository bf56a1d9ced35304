import Mathlib.Data.String.Basic
import LorawanFeeds.Lib.Decimal
import LorawanFeeds.Lib.OrderedMap
import LorawanFeeds.Lib.Quoted

/-!
# TOML

The values of the C++ TOML library, the access to them, and the text of a document: a header line
for each table and a line for each key. `TomlText` is what the programs rely on in the reader: a
document of this form is read as the tree that its lines describe, whatever its comments are.
-/
namespace LorawanFeeds.Lib

open Decimal Quoted

inductive Toml where
  | bool (b : Bool)
  | integer (i : Int64)
  | floating (x : Float)
  | string (s : String)
  | datetime (text : String)
  | array (items : List Toml)
  | table (fields : List (String × Toml))
  deriving Inhabited

namespace Toml

def members : Toml → List (String × Toml)
  | .table fields => fields
  | _ => []

/-- `toml::find`; it throws for a value that is no table and for a missing key. -/
def find (t : Toml) (key : String) : Option Toml := OrderedMap.find? key t.members

def asString : Toml → Option String
  | .string s => some s
  | _ => none

def asBool : Toml → Option Bool
  | .bool b => some b
  | _ => none

/-- `toml::get<std::uint32_t>`: the integer is cast. -/
def asUInt32 : Toml → Option UInt32
  | .integer i => some i.toUInt64.toUInt32
  | _ => none

/-- `toml::get<std::vector<string>>`. -/
def asStrings : Toml → Option (List String)
  | .array items => items.mapM asString
  | _ => none

/-- `toml::get<std::array<string, 2>>`. -/
def asPair : Toml → Option (String × String)
  | .array [a, b] => do
    let first ← a.asString
    let second ← b.asString
    return (first, second)
  | _ => none

def asPairs : Toml → Option (List (String × String))
  | .array items => items.mapM asPair
  | _ => none

/-- The tree with a value at the end of a path; tables on the way are opened. -/
def put : Toml → List String → Toml → Toml
  | _, [], v => v
  | t, key :: path, v =>
    .table (OrderedMap.set key (put ((t.find key).getD (.table [])) path v) t.members)

def lookup : Toml → List String → Option Toml
  | t, [] => some t
  | t, key :: path => (t.find key).bind fun child => child.lookup path

/-- The tree with a table at the end of a path. -/
def openTable (t : Toml) (path : List String) : Toml :=
  t.put path ((t.lookup path).getD (.table []))

end Toml

/-! ### Text -/

/-- A value that the programs write. -/
inductive TomlValue where
  | flag (b : Bool)
  | number (i : Int64)
  | text (s : String)
  | texts (list : List String)
  | pairs (list : List (String × String))

namespace TomlValue

def pair (p : String × String) : Toml := .array [.string p.1, .string p.2]

def tree : TomlValue → Toml
  | .flag b => .bool b
  | .number i => .integer i
  | .text s => .string s
  | .texts list => .array (list.map .string)
  | .pairs list => .array (list.map pair)

/-- Items with commas between them. -/
def commas : List (List Char) → List Char
  | [] => []
  | [item] => item
  | item :: next :: more => item ++ ',' :: commas (next :: more)

def writeArray (items : List (List Char)) : List Char := '[' :: (commas items ++ [']'])

def writePair (p : String × String) : List Char := writeArray [writeString p.1, writeString p.2]

def write : TomlValue → List Char
  | .flag true => ['t', 'r', 'u', 'e']
  | .flag false => ['f', 'a', 'l', 's', 'e']
  | .number i => if i < 0 then '-' :: writeNat i.toInt.natAbs else writeNat i.toInt.natAbs
  | .text s => writeString s
  | .texts list => writeArray (list.map writeString)
  | .pairs list => writeArray (list.map writePair)

end TomlValue

/-- A line of a document. -/
inductive TomlLine where
  | header (path : List String)
  | entry (key : String) (value : TomlValue)
  | comment (text : List Char)
  | blank

/-- The keys of a path with dots between them. -/
def dotted (path : List String) : List Char := ['.'].intercalate (path.map String.toList)

namespace TomlLine

def write : TomlLine → List Char
  | header path => '[' :: (dotted path ++ [']'])
  | entry key value => key.toList ++ ' ' :: '=' :: ' ' :: value.write
  | comment text => '#' :: ' ' :: text
  | blank => []

/-- The tree of a document, with the table that its entries go to. -/
def build : List String → Toml → List TomlLine → Toml
  | _, t, [] => t
  | _, t, header path :: lines => build path (t.openTable path) lines
  | path, t, entry key value :: lines => build path (t.put (path ++ [key]) value.tree) lines
  | path, t, comment _ :: lines => build path t lines
  | path, t, blank :: lines => build path t lines

/-- The paths that a document defines: those of its tables, and those of its entries. -/
def tablePaths : List TomlLine → List (List String)
  | [] => []
  | header path :: lines => path :: tablePaths lines
  | _ :: lines => tablePaths lines

def entryPaths : List String → List TomlLine → List (List String)
  | _, [] => []
  | _, header path :: lines => entryPaths path lines
  | path, entry key _ :: lines => (path ++ [key]) :: entryPaths path lines
  | path, _ :: lines => entryPaths path lines

/-- A key that needs no quotes. -/
def Bare (key : String) : Prop :=
  key.toList ≠ [] ∧ ∀ c ∈ key.toList, c.isAlphanum = true ∨ c = '_' ∨ c = '-'

instance (key : String) : Decidable (Bare key) :=
  @instDecidableAnd _ _ inferInstance (List.decidableBAll _ _)

/-- A bare key has no character with a meaning of its own. -/
theorem Bare.notMem {key : String} (bare : Bare key) {c : Char}
    (other : ¬ (c.isAlphanum = true ∨ c = '_' ∨ c = '-')) : c ∉ key.toList :=
  fun member => other (bare.2 c member)

/-- The lines of a document that defines each path once. -/
structure WellFormed (lines : List TomlLine) : Prop where
  keys : ∀ path ∈ tablePaths lines ++ entryPaths [] lines, path ≠ [] ∧ ∀ key ∈ path, Bare key
  once : (tablePaths lines ++ entryPaths [] lines).Nodup
  /-- Nothing is defined below an entry. -/
  leaves : ∀ leaf ∈ entryPaths [] lines, ∀ path ∈ tablePaths lines, ¬ leaf <+: path
  /-- A comment has no control characters. -/
  comments : ∀ text, comment text ∈ lines → ∀ c ∈ text, 32 ≤ c.toNat

end TomlLine

structure TomlText where
  /-- `toml::parse` of a file, by its lines. -/
  parse : List (List Char) → Option Toml
  parse_lines : ∀ lines : List TomlLine, TomlLine.WellFormed lines →
    parse (lines.map TomlLine.write) = some (TomlLine.build [] (.table []) lines)

end LorawanFeeds.Lib
