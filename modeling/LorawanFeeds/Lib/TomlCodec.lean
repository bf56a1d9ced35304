import Mathlib.Data.List.TakeWhile
import LorawanFeeds.Lib.Toml

/-!
# A reader of TOML text

A reader for documents as the programs write them, line by line, with arrays that are at most two
deep. It reads back what has been written, which makes it an instance of the library's law.
-/
namespace LorawanFeeds.Lib.TomlCodec

open Decimal Quoted
open TomlValue (commas writeArray writePair pair)

/-! ### Values -/

def readScalar : List Char → Option (Toml × List Char)
  | '"' :: rest => (readString rest).map fun (s, rest) => (.string (String.ofList s), rest)
  | 't' :: 'r' :: 'u' :: 'e' :: rest => some (.bool true, rest)
  | 'f' :: 'a' :: 'l' :: 's' :: 'e' :: rest => some (.bool false, rest)
  | '-' :: rest =>
    let (n, rest) := readNat 0 rest
    some (.integer (Int64.ofInt (-n)), rest)
  | text =>
    let (n, rest) := readNat 0 text
    some (.integer (Int64.ofNat n), rest)

section

variable (item : List Char → Option (Toml × List Char))

/-- Items up to the closing bracket. -/
def readItems : Nat → List Char → Option (List Toml × List Char)
  | 0, _ => none
  | fuel + 1, text =>
    match item text with
    | some (v, ',' :: rest) => (readItems fuel rest).map fun (vs, rest) => (v :: vs, rest)
    | some (v, ']' :: rest) => some ([v], rest)
    | _ => none

/-- A value that may be an array of items. -/
def readArray : List Char → Option (Toml × List Char)
  | '[' :: ']' :: rest => some (.array [], rest)
  | '[' :: rest => (readItems item rest.length rest).map fun (vs, rest) => (.array vs, rest)
  | text => item text

end

def readValue : List Char → Option (Toml × List Char) := readArray (readArray readScalar)

/-! ### Values are read back -/

/-- The text of an item, whatever follows it. -/
def ReadsBack (item : List Char → Option (Toml × List Char)) (text : List Char) (v : Toml) : Prop :=
  ∀ rest, item (text ++ rest) = some (v, rest)

theorem readScalar_string (s : String) : ReadsBack readScalar (writeString s) (.string s) := by
  intro rest
  have read := readString_write s.toList rest
  simp only [writeString, List.cons_append, List.append_assoc, List.nil_append, readScalar, read,
    Option.map_some, String.ofList_toList]

section

variable {α : Type} {item : List Char → Option (Toml × List Char)}
variable {write : α → List Char} {value : α → Toml}

theorem readItems_commas (xs : List α) (some : xs ≠ [])
    (each : ∀ x ∈ xs, ReadsBack item (write x) (value x)) (rest : List Char) (fuel : Nat)
    (enough : xs.length ≤ fuel) :
    readItems item fuel (commas (xs.map write) ++ ']' :: rest) =
      Option.some (xs.map value, rest) := by
  induction xs generalizing fuel with
  | nil => exact absurd rfl some
  | cons x xs ih =>
    cases fuel with
    | zero => simp at enough
    | succ fuel =>
      cases xs with
      | nil => simp [commas, readItems, each x (by simp) (']' :: rest)]
      | cons next more =>
        have later := ih (by simp) (fun y member => each y (by simp [member])) fuel
          (by simp only [List.length_cons] at enough ⊢; omega)
        have first := each x (by simp) (',' :: (commas ((next :: more).map write) ++ ']' :: rest))
        simp only [List.map_cons] at first later
        simp only [List.map_cons, commas, List.append_assoc, List.cons_append, readItems, first,
          later, Option.map_some]

/-- There are no more items than characters. -/
theorem length_le_commas (texts : List (List Char)) (some : ∀ text ∈ texts, text ≠ []) :
    texts.length ≤ (commas texts).length := by
  induction texts with
  | nil => simp
  | cons text texts ih =>
    have first := List.length_pos_iff.mpr (some text (by simp))
    cases texts with
    | nil => exact first
    | cons next more =>
      have later := ih fun t member => some t (by simp [member])
      simp only [commas, List.length_append, List.length_cons] at later ⊢
      omega

/-- An array whose items are read back, and do not start with the closing bracket. -/
theorem readArray_write (xs : List α) (each : ∀ x ∈ xs, ReadsBack item (write x) (value x))
    (start : ∀ x ∈ xs, ∃ c tail, write x = c :: tail ∧ c ≠ ']') :
    ReadsBack (readArray item) (writeArray (xs.map write)) (.array (xs.map value)) := by
  intro rest
  rw [writeArray, List.cons_append, List.append_assoc, List.singleton_append]
  cases xs with
  | nil => rfl
  | cons x xs =>
    have enough : (x :: xs).length ≤ (commas ((x :: xs).map write) ++ ']' :: rest).length := by
      have items := length_le_commas ((x :: xs).map write) fun text member => by
        obtain ⟨y, here, rfl⟩ := List.mem_map.mp member
        obtain ⟨c, tail, eq, _⟩ := start y here
        simp [eq]
      rw [List.length_map] at items
      rw [List.length_append]
      omega
    have read := readItems_commas (x :: xs) (by simp) each rest _ enough
    obtain ⟨c, tail, eq, notClosed⟩ := start x (by simp)
    have first : ∃ more, commas ((x :: xs).map write) ++ ']' :: rest = c :: more := by
      cases xs with
      | nil => exact ⟨tail ++ ']' :: rest, by simp [commas, eq]⟩
      | cons next more =>
        exact ⟨tail ++ ',' :: (commas ((next :: more).map write) ++ ']' :: rest),
          by simp [commas, eq]⟩
    obtain ⟨more, head⟩ := first
    rw [head] at read ⊢
    rw [readArray, read]
    · rfl
    · rintro other ⟨⟩
      exact notClosed rfl

end

theorem readPair_write (p : String × String) :
    ReadsBack (readArray readScalar) (writePair p) (pair p) :=
  readArray_write [p.1, p.2] (fun s _ => readScalar_string s)
    fun s _ => ⟨_, _, rfl, by decide⟩

/-- An item that is no array is read as such. -/
theorem readArray_item {item : List Char → Option (Toml × List Char)} {c : Char} (other : c ≠ '[')
    (rest : List Char) : readArray item (c :: rest) = item (c :: rest) := by
  rw [readArray]
  · rintro _ ⟨⟩
    exact other rfl
  · rintro _ ⟨⟩
    exact other rfl

theorem readScalar_digit {c : Char} (isOne : isDigit c = true) (rest : List Char) :
    readScalar (c :: rest) =
      some (.integer (Int64.ofNat (readNat 0 (c :: rest)).1), (readNat 0 (c :: rest)).2) := by
  rw [readScalar]
  all_goals
    rintro _ ⟨⟩
    cases isOne

theorem readScalar_number (i : Int64) :
    readScalar (TomlValue.number i).write = some (.integer i, []) := by
  have read : readNat 0 (writeNat i.toInt.natAbs) = (i.toInt.natAbs, []) := by
    simpa using @readNat_write i.toInt.natAbs [] (by rintro _ ⟨⟩)
  rw [TomlValue.write]
  split
  next negative =>
    have sign : i.toInt < 0 := Int64.lt_iff_toInt_lt.mp negative
    have back : -(i.toInt.natAbs : Int) = i.toInt := by omega
    simp only [readScalar, read, back, Int64.ofInt_toInt]
  next positive =>
    have sign : ¬ i.toInt < 0 := fun less => positive (Int64.lt_iff_toInt_lt.mpr less)
    have back : Int64.ofNat i.toInt.natAbs = i := by
      have same : ((i.toInt.natAbs : Nat) : Int) = i.toInt := by omega
      rw [← Int64.ofInt_eq_ofNat, same, Int64.ofInt_toInt]
    obtain ⟨c, tail, eq, isOne⟩ := writeNat_head i.toInt.natAbs
    rw [eq] at read ⊢
    rw [readScalar_digit isOne, read, back]

theorem number_head (i : Int64) :
    ∃ c tail, (TomlValue.number i).write = c :: tail ∧ c ≠ '[' := by
  rw [TomlValue.write]
  split
  · exact ⟨_, _, rfl, by decide⟩
  · obtain ⟨c, tail, eq, isOne⟩ := writeNat_head i.toInt.natAbs
    refine ⟨c, tail, eq, ?_⟩
    rintro rfl
    cases isOne

/-- A written value is read back. -/
theorem readValue_write (v : TomlValue) : readValue v.write = some (v.tree, []) := by
  cases v with
  | flag b => cases b <;> rfl
  | number i =>
    have read := readScalar_number i
    obtain ⟨c, tail, eq, other⟩ := number_head i
    rw [eq] at read
    rw [readValue, eq, readArray_item other, readArray_item other, read]
    rfl
  | text s =>
    have read := readScalar_string s []
    rw [List.append_nil] at read
    exact (readArray_item (by decide) _).trans ((readArray_item (by decide) _).trans read)
  | texts list =>
    have read := @readArray_write _ (readArray readScalar) writeString Toml.string list
      (fun s _ rest => (readArray_item (by decide) _).trans (readScalar_string s rest))
      (fun s _ => ⟨_, _, rfl, by decide⟩) []
    rwa [List.append_nil] at read
  | pairs list =>
    have read := @readArray_write _ (readArray readScalar) writePair pair list
      (fun p _ => readPair_write p) (fun p _ => ⟨_, _, rfl, by decide⟩) []
    rwa [List.append_nil] at read

/-! ### Lines -/

/-- What a line says. -/
inductive Directive where
  | skip
  | header (path : List String)
  | entry (key : String) (value : Toml)

def readEntry (line : List Char) : Option Directive :=
  match line.dropWhile (· ≠ ' ') with
  | ' ' :: '=' :: ' ' :: text =>
    match readValue text with
    | some (value, []) => some (.entry (String.ofList (line.takeWhile (· ≠ ' '))) value)
    | _ => none
  | _ => none

def readLine : List Char → Option Directive
  | [] => some .skip
  | '#' :: _ => some .skip
  | '[' :: text => some (.header ((text.dropLast.splitOn '.').map String.ofList))
  | line => readEntry line

/-- The tree of the lines, with the table that the entries go to. -/
def readLines : List String → Toml → List (List Char) → Option Toml
  | _, t, [] => some t
  | path, t, line :: lines =>
    match readLine line with
    | some .skip => readLines path t lines
    | some (.header path) => readLines path (t.openTable path) lines
    | some (.entry key value) => readLines path (t.put (path ++ [key]) value) lines
    | none => none

theorem readLine_header {path : List String} (some : path ≠ [])
    (bare : ∀ key ∈ path, TomlLine.Bare key) :
    readLine (TomlLine.header path).write = Option.some (.header path) := by
  have split : (dotted path).splitOn '.' = path.map String.toList := by
    rw [dotted]
    apply List.splitOn_intercalate
    · intro text member
      obtain ⟨key, here, rfl⟩ := List.mem_map.mp member
      exact (bare key here).notMem (by decide)
    · simpa using some
  have back : (path.map String.toList).map String.ofList = path := by
    simp [Function.comp_def]
  simp only [TomlLine.write, readLine, List.dropLast_concat, split, back]

theorem readLine_entry {key : String} (bare : TomlLine.Bare key) (value : TomlValue) :
    readLine (TomlLine.entry key value).write = some (.entry key value.tree) := by
  have free : ' ' ∉ key.toList := bare.notMem (by decide)
  obtain ⟨c, tail, eq⟩ := List.exists_cons_of_ne_nil bare.1
  have noHash : c ≠ '#' := by
    rintro rfl
    exact @TomlLine.Bare.notMem key bare '#' (by decide) (by simp [eq])
  have noBracket : c ≠ '[' := by
    rintro rfl
    exact @TomlLine.Bare.notMem key bare '[' (by decide) (by simp [eq])
  have entry : readEntry (TomlLine.entry key value).write = some (.entry key value.tree) := by
    have all : ∀ d ∈ key.toList, (decide (d ≠ ' ')) = true := by
      intro d member
      simp only [ne_eq, decide_not, Bool.not_eq_true', decide_eq_false_iff_not]
      rintro rfl
      exact free member
    have taken : (TomlLine.entry key value).write.takeWhile (fun d => decide (d ≠ ' ')) =
        key.toList := by
      rw [TomlLine.write, List.takeWhile_append_of_pos all]
      simp
    have dropped : (TomlLine.entry key value).write.dropWhile (fun d => decide (d ≠ ' ')) =
        ' ' :: '=' :: ' ' :: value.write := by
      rw [TomlLine.write, List.dropWhile_append_of_pos all]
      simp
    rw [readEntry, dropped]
    simp only [taken, readValue_write, String.ofList_toList]
  rw [← entry]
  simp only [TomlLine.write, eq, List.cons_append]
  rw [readLine]
  · simp
  · rintro _ ⟨⟩
    exact noHash rfl
  · rintro _ ⟨⟩
    exact noBracket rfl

theorem readLines_write (path : List String) (t : Toml) (lines : List TomlLine)
    (keys : ∀ path ∈ TomlLine.tablePaths lines, path ≠ [] ∧ ∀ key ∈ path, TomlLine.Bare key)
    (entries : ∀ entry ∈ TomlLine.entryPaths path lines, ∀ key ∈ entry, TomlLine.Bare key) :
    readLines path t (lines.map TomlLine.write) = some (TomlLine.build path t lines) := by
  induction lines generalizing path t with
  | nil => rfl
  | cons line lines ih =>
    cases line with
    | header table =>
      obtain ⟨some, bare⟩ := keys table (by simp [TomlLine.tablePaths])
      rw [List.map_cons, readLines, readLine_header some bare]
      apply ih
      · exact fun p member => keys p (by simp [TomlLine.tablePaths, member])
      · exact entries
    | entry key value =>
      have bare := entries (path ++ [key]) (by simp [TomlLine.entryPaths]) key (by simp)
      rw [List.map_cons, readLines, readLine_entry bare]
      apply ih
      · exact keys
      · exact fun p member => entries p (by simp [TomlLine.entryPaths, member])
    | comment text => exact ih path t keys entries
    | blank => exact ih path t keys entries

/-- The reader keeps the law. -/
def text : TomlText where
  parse := readLines [] (.table [])
  parse_lines := by
    intro lines formed
    apply readLines_write
    · exact fun path member => formed.keys path (by simp [member])
    · exact fun path member => (formed.keys path (by simp [member])).2

end LorawanFeeds.Lib.TomlCodec
