import LorawanFeeds.Lib.Decimal
import LorawanFeeds.Lib.JsonText
import LorawanFeeds.Lib.Quoted

/-!
# A reader and a writer of JSON text

Text in the layout of `dump(4)`, and a reader for it. Numbers with a fraction are left out: none is
read, and each is written as null, as the library writes those that are not finite. What has been
written is read back, which makes the two an instance of the library's laws.
-/
namespace LorawanFeeds.Lib.JsonCodec

open Decimal Quoted

/-! ### Bytes and characters -/

def utf8 (s : String) : List UInt8 := s.toByteArray.data.toList

def ofUtf8 (bytes : List UInt8) : Option String := String.fromUTF8? ⟨bytes.toArray⟩

theorem ofUtf8_utf8 (s : String) : ofUtf8 (utf8 s) = some s := by
  have same : (⟨(utf8 s).toArray⟩ : ByteArray) = s.toByteArray := by simp [utf8]
  rw [ofUtf8, same, String.fromUTF8?, dif_pos s.isValidUTF8]
  rfl

theorem utf8_append (s t : String) : utf8 (s ++ t) = utf8 s ++ utf8 t := by
  simp [utf8]

/-! ### Values -/

def spaces (n : Nat) : List Char := List.replicate n ' '

mutual

def write (indent : Nat) : Json → List Char
  | .null => ['n', 'u', 'l', 'l']
  | .bool true => ['t', 'r', 'u', 'e']
  | .bool false => ['f', 'a', 'l', 's', 'e']
  | .int i => if i < 0 then '-' :: writeNat i.toInt.natAbs else writeNat i.toInt.natAbs
  | .uint n => writeNat n.toNat
  | .float _ => ['n', 'u', 'l', 'l']
  | .str s => writeString s
  | .arr [] => ['[', ']']
  | .arr (item :: items) =>
    '[' :: '\n' :: (spaces (indent + 4) ++ (write (indent + 4) item ++
      (writeItems (indent + 4) items ++ '\n' :: (spaces indent ++ [']']))))
  | .obj [] => ['{', '}']
  | .obj ((key, value) :: fields) =>
    '{' :: '\n' :: (spaces (indent + 4) ++ (writeString key ++ ':' :: ' ' ::
      (write (indent + 4) value ++
        (writeFields (indent + 4) fields ++ '\n' :: (spaces indent ++ ['}'])))))

def writeItems (indent : Nat) : List Json → List Char
  | [] => []
  | item :: items =>
    ',' :: '\n' :: (spaces indent ++ (write indent item ++ writeItems indent items))

def writeFields (indent : Nat) : List (String × Json) → List Char
  | [] => []
  | (key, value) :: fields =>
    ',' :: '\n' :: (spaces indent ++ (writeString key ++ ':' :: ' ' ::
      (write indent value ++ writeFields indent fields)))

end

def isSpace (c : Char) : Bool := c = ' ' ∨ c = '\n' ∨ c = '\r' ∨ c = '\t'

def skipSpace : List Char → List Char
  | c :: rest => if isSpace c then skipSpace rest else c :: rest
  | [] => []

/-- A later member of the same name replaces an earlier one. -/
def addMember (key : String) (value : Json) (fields : List (String × Json)) :
    List (String × Json) :=
  if (OrderedMap.find? key fields).isSome then fields else OrderedMap.set key value fields

/-- The key of a member and the colon after it. -/
def readKey (text : List Char) : Option (String × List Char) :=
  match skipSpace text with
  | '"' :: text =>
    match readString text with
    | some (key, text) =>
      match skipSpace text with
      | ':' :: text => some (String.ofList key, text)
      | _ => none
    | none => none
  | _ => none

/-- An integer with the sign that has been read. -/
def readInt (negative : Bool) (text : List Char) : Option (Json × List Char) :=
  let (n, rest) := readNat 0 text
  if negative then
    if 0 < n ∧ n ≤ 2 ^ 63 then some (.int (Int64.ofInt (-n)), rest) else none
  else if n < 2 ^ 64 then some (.uint n.toUInt64, rest)
  else none

mutual

def readValue : Nat → List Char → Option (Json × List Char)
  | 0, _ => none
  | fuel + 1, text =>
    match skipSpace text with
    | 'n' :: 'u' :: 'l' :: 'l' :: rest => some (.null, rest)
    | 't' :: 'r' :: 'u' :: 'e' :: rest => some (.bool true, rest)
    | 'f' :: 'a' :: 'l' :: 's' :: 'e' :: rest => some (.bool false, rest)
    | '"' :: rest => (readString rest).map fun (s, rest) => (.str (String.ofList s), rest)
    | '[' :: rest =>
      match skipSpace rest with
      | ']' :: rest => some (.arr [], rest)
      | _ => (readItems fuel rest).map fun (items, rest) => (.arr items, rest)
    | '{' :: rest =>
      match skipSpace rest with
      | '}' :: rest => some (.obj [], rest)
      | _ => (readFields fuel rest).map fun (fields, rest) => (.obj fields, rest)
    | '-' :: rest => readInt true rest
    | c :: rest => if isDigit c then readInt false (c :: rest) else none
    | [] => none

/-- The items of an array up to its closing bracket. -/
def readItems : Nat → List Char → Option (List Json × List Char)
  | 0, _ => none
  | fuel + 1, text =>
    match readValue fuel text with
    | some (item, text) =>
      match skipSpace text with
      | ',' :: text => (readItems fuel text).map fun (items, rest) => (item :: items, rest)
      | ']' :: rest => some ([item], rest)
      | _ => none
    | none => none

/-- The members of an object up to its closing brace. -/
def readFields : Nat → List Char → Option (List (String × Json) × List Char)
  | 0, _ => none
  | fuel + 1, text =>
    match readKey text with
    | some (key, text) =>
      match readValue fuel text with
      | some (value, text) =>
        match skipSpace text with
        | ',' :: text => (readFields fuel text).map fun (fields, rest) =>
          (addMember key value fields, rest)
        | '}' :: rest => some (addMember key value [], rest)
        | _ => none
      | none => none
    | none => none

end

/-! ### Spaces -/

theorem skipSpace_cons {c : Char} (solid : ¬ isSpace c) (rest : List Char) :
    skipSpace (c :: rest) = c :: rest := by
  rw [skipSpace, if_neg solid]

@[simp] theorem skipSpace_newline (rest : List Char) :
    skipSpace ('\n' :: rest) = skipSpace rest := by
  rw [skipSpace, if_pos (by decide)]

@[simp] theorem skipSpace_blank (rest : List Char) : skipSpace (' ' :: rest) = skipSpace rest := by
  rw [skipSpace, if_pos (by decide)]

@[simp] theorem skipSpace_spaces (n : Nat) (rest : List Char) :
    skipSpace (spaces n ++ rest) = skipSpace rest := by
  induction n with
  | zero => rfl
  | succ n ih =>
    rw [spaces, List.replicate_succ, List.cons_append, skipSpace_blank]
    exact ih

/-- What is read of a value does not depend on the spaces before it. -/
theorem readValue_congr {a b : List Char} (same : skipSpace a = skipSpace b) (fuel : Nat) :
    readValue fuel a = readValue fuel b := by
  cases fuel with
  | zero => rfl
  | succ fuel => rw [readValue, same, readValue]

theorem readItems_congr {a b : List Char} (same : skipSpace a = skipSpace b) (fuel : Nat) :
    readItems fuel a = readItems fuel b := by
  cases fuel with
  | zero => rfl
  | succ fuel => rw [readItems, readValue_congr same, readItems]

theorem readFields_congr {a b : List Char} (same : skipSpace a = skipSpace b) (fuel : Nat) :
    readFields fuel a = readFields fuel b := by
  cases fuel with
  | zero => rfl
  | succ fuel => rw [readFields, readKey, same, readFields, readKey]

theorem readItems_line (fuel n : Nat) (text : List Char) :
    readItems fuel ('\n' :: (spaces n ++ text)) = readItems fuel text :=
  readItems_congr (by simp) fuel

theorem readFields_line (fuel n : Nat) (text : List Char) :
    readFields fuel ('\n' :: (spaces n ++ text)) = readFields fuel text :=
  readFields_congr (by simp) fuel

/-! ### What has been written is read back -/

/-- The values without fractions. -/
abbrev Whole : Json → Prop := Json.Proper fun _ => False

mutual

/-- The depth of the reader's calls on a written value. -/
def size : Json → Nat
  | .arr items => 1 + sizeItems items
  | .obj fields => 1 + sizeFields fields
  | _ => 1

def sizeItems : List Json → Nat
  | [] => 0
  | item :: items => 1 + size item + sizeItems items

def sizeFields : List (String × Json) → Nat
  | [] => 0
  | (_, value) :: fields => 1 + size value + sizeFields fields

end

theorem write_int {i : Int64} (negative : i < 0) (indent : Nat) :
    write indent (.int i) = '-' :: writeNat i.toInt.natAbs := by
  rw [write, if_pos negative]

/-- A value starts with a character of its own. -/
theorem write_head {j : Json} (whole : Whole j) (indent : Nat) :
    ∃ c tail, write indent j = c :: tail ∧ ¬ isSpace c ∧ c ≠ ']' := by
  cases whole with
  | null => exact ⟨_, _, rfl, by decide, by decide⟩
  | bool b => cases b <;> exact ⟨_, _, rfl, by decide, by decide⟩
  | int negative => exact ⟨_, _, write_int negative indent, by decide, by decide⟩
  | uint n =>
    obtain ⟨c, tail, eq, isOne⟩ := writeNat_head n.toNat
    refine ⟨c, tail, eq, ?_, ?_⟩
    · intro space
      simp only [isSpace, decide_eq_true_eq] at space
      rcases space with rfl | rfl | rfl | rfl <;> cases isOne
    · rintro rfl
      cases isOne
  | float printed => exact printed.elim
  | str s => exact ⟨_, _, rfl, by decide, by decide⟩
  | @arr items each => cases items <;> exact ⟨_, _, rfl, by decide, by decide⟩
  | @obj fields sorted each => cases fields <;> exact ⟨_, _, rfl, by decide, by decide⟩

theorem readKey_write (key : String) (rest : List Char) :
    readKey (writeString key ++ ':' :: rest) = some (key, rest) := by
  have text : skipSpace (writeString key ++ ':' :: rest) =
      '"' :: (key.toList.flatMap escape ++ '"' :: ':' :: rest) := by
    simp [writeString, skipSpace_cons (by decide : ¬ isSpace '"')]
  rw [readKey, text]
  simp only [readString_write, skipSpace_cons (by decide : ¬ isSpace ':')]
  simp

theorem ended_cons {c : Char} (other : isDigit c = false) (rest : List Char) :
    Ended (c :: rest) := by
  rintro _ ⟨⟩
  exact other

/-- Behind an item or a member comes a comma or the end of a line. -/
theorem ended_writeItems (indent m : Nat) (items : List Json) (rest : List Char) :
    Ended (writeItems indent items ++ '\n' :: (spaces m ++ rest)) := by
  cases items with
  | nil => exact ended_cons (by decide) _
  | cons => exact ended_cons (by decide) _

theorem ended_writeFields (indent m : Nat) (fields : List (String × Json)) (rest : List Char) :
    Ended (writeFields indent fields ++ '\n' :: (spaces m ++ rest)) := by
  cases fields with
  | nil => exact ended_cons (by decide) _
  | cons => exact ended_cons (by decide) _

/-- With this fuel, written values are read back. -/
structure ReadsBack (fuel : Nat) : Prop where
  value : ∀ j indent rest, Whole j → size j ≤ fuel → Ended rest →
    readValue fuel (write indent j ++ rest) = some (j, rest)
  items : ∀ item items indent m rest, (∀ i ∈ item :: items, Whole i) →
    sizeItems (item :: items) ≤ fuel →
    readItems fuel (write indent item ++ (writeItems indent items ++
      '\n' :: (spaces m ++ ']' :: rest))) = some (item :: items, rest)
  fields : ∀ key value fields indent m rest,
    (((key, value) :: fields).map Prod.fst).Pairwise (· < ·) →
    (∀ field ∈ (key, value) :: fields, Whole field.2) →
    sizeFields ((key, value) :: fields) ≤ fuel →
    readFields fuel (writeString key ++ ':' :: ' ' :: (write indent value ++
      (writeFields indent fields ++ '\n' :: (spaces m ++ '}' :: rest)))) =
        some ((key, value) :: fields, rest)

section

variable {fuel : Nat} (back : ReadsBack fuel)

include back

theorem readItems_succ (item : Json) (items : List Json) (indent m : Nat) (rest : List Char)
    (whole : ∀ i ∈ item :: items, Whole i) (enough : sizeItems (item :: items) ≤ fuel + 1) :
    readItems (fuel + 1) (write indent item ++ (writeItems indent items ++
      '\n' :: (spaces m ++ ']' :: rest))) = some (item :: items, rest) := by
  rw [sizeItems] at enough
  have first := back.value item indent (writeItems indent items ++ '\n' :: (spaces m ++ ']' :: rest))
    (whole item (by simp)) (by omega) (ended_writeItems indent m items _)
  rw [readItems, first]
  cases items with
  | nil => simp [writeItems, skipSpace_cons (by decide : ¬ isSpace ']')]
  | cons next items =>
    have more := back.items next items indent m rest
      (fun i member => whole i (List.mem_cons_of_mem _ member)) (by omega)
    have text : skipSpace (writeItems indent (next :: items) ++ '\n' :: (spaces m ++ ']' :: rest)) =
        ',' :: '\n' :: (spaces indent ++ (write indent next ++ (writeItems indent items ++
          '\n' :: (spaces m ++ ']' :: rest)))) := by
      simp [writeItems, skipSpace_cons (by decide : ¬ isSpace ',')]
    simp only [text]
    rw [readItems_line, more]
    rfl

theorem readFields_succ (key : String) (value : Json) (fields : List (String × Json))
    (indent m : Nat) (rest : List Char)
    (sorted : (((key, value) :: fields).map Prod.fst).Pairwise (· < ·))
    (whole : ∀ field ∈ (key, value) :: fields, Whole field.2)
    (enough : sizeFields ((key, value) :: fields) ≤ fuel + 1) :
    readFields (fuel + 1) (writeString key ++ ':' :: ' ' :: (write indent value ++
      (writeFields indent fields ++ '\n' :: (spaces m ++ '}' :: rest)))) =
        some ((key, value) :: fields, rest) := by
  rw [sizeFields] at enough
  obtain ⟨least, others⟩ := List.pairwise_cons.mp sorted
  have first := back.value value indent
    (writeFields indent fields ++ '\n' :: (spaces m ++ '}' :: rest))
    (whole (key, value) (by simp)) (by omega) (ended_writeFields indent m fields _)
  have front : addMember key value fields = (key, value) :: fields := by
    rw [addMember, OrderedMap.find?_of_lt least, OrderedMap.set_of_lt least]
    rfl
  rw [readFields, readKey_write]
  dsimp only
  rw [readValue_congr (skipSpace_blank _), first]
  cases fields with
  | nil => simp [writeFields, skipSpace_cons (by decide : ¬ isSpace '}'), front]
  | cons next fields =>
    obtain ⟨nextKey, nextValue⟩ := next
    have more := back.fields nextKey nextValue fields indent m rest others
      (fun field member => whole field (List.mem_cons_of_mem _ member)) (by omega)
    have text : skipSpace (writeFields indent ((nextKey, nextValue) :: fields) ++
          '\n' :: (spaces m ++ '}' :: rest)) =
        ',' :: '\n' :: (spaces indent ++ (writeString nextKey ++ ':' :: ' ' ::
          (write indent nextValue ++ (writeFields indent fields ++
            '\n' :: (spaces m ++ '}' :: rest))))) := by
      simp [writeFields, skipSpace_cons (by decide : ¬ isSpace ',')]
    simp only [text]
    rw [readFields_line, more]
    simp only [Option.map_some, front]

omit back in
theorem readValue_digit {c : Char} (isOne : isDigit c = true) (rest : List Char) :
    readValue (fuel + 1) (c :: rest) = readInt false (c :: rest) := by
  have solid : ¬ isSpace c := by
    intro space
    simp only [isSpace, decide_eq_true_eq] at space
    rcases space with rfl | rfl | rfl | rfl <;> cases isOne
  rw [readValue, skipSpace_cons solid]
  split <;> rename_i same <;> cases same <;> first | cases isOne | rw [if_pos isOne]

omit back in
theorem readValue_arr {rest : List Char} (unclosed : ∀ tail, skipSpace rest ≠ ']' :: tail) :
    readValue (fuel + 1) ('[' :: rest) =
      (readItems fuel rest).map fun (items, rest) => (.arr items, rest) := by
  simp only [readValue, skipSpace_cons (by decide : ¬ isSpace '[')]

omit back in
theorem readValue_obj {rest : List Char} (unclosed : ∀ tail, skipSpace rest ≠ '}' :: tail) :
    readValue (fuel + 1) ('{' :: rest) =
      (readFields fuel rest).map fun (fields, rest) => (.obj fields, rest) := by
  simp only [readValue, skipSpace_cons (by decide : ¬ isSpace '{')]

omit back in
theorem readInt_negative {i : Int64} (negative : i < 0) {rest : List Char} (ended : Ended rest) :
    readInt true (writeNat i.toInt.natAbs ++ rest) = some (.int i, rest) := by
  have below : i.toInt < 0 := Int64.lt_iff_toInt_lt.mp negative
  have least := i.le_toInt
  have bounds : 0 < i.toInt.natAbs ∧ i.toInt.natAbs ≤ 2 ^ 63 := by omega
  have back : -(i.toInt.natAbs : Int) = i.toInt := by omega
  simp only [readInt, readNat_write _ ended, if_true, if_pos bounds, back, Int64.ofInt_toInt]

omit back in
theorem readInt_unsigned (n : UInt64) {rest : List Char} (ended : Ended rest) :
    readInt false (writeNat n.toNat ++ rest) = some (.uint n, rest) := by
  have bound := n.toNat_lt
  simp [readInt, readNat_write _ ended, bound]

theorem readValue_succ (j : Json) (indent : Nat) (rest : List Char) (whole : Whole j)
    (enough : size j ≤ fuel + 1) (ended : Ended rest) :
    readValue (fuel + 1) (write indent j ++ rest) = some (j, rest) := by
  cases whole with
  | null => rfl
  | bool b => cases b <;> rfl
  | int negative =>
    rw [write_int negative]
    exact readInt_negative negative ended
  | uint n =>
    obtain ⟨c, tail, eq, isOne⟩ := writeNat_head n.toNat
    have read := readInt_unsigned n ended
    rw [eq] at read
    rw [write, eq, List.cons_append, readValue_digit isOne]
    exact read
  | float printed => exact printed.elim
  | str s =>
    simp [write, writeString, readValue, skipSpace_cons (by decide : ¬ isSpace '"'),
      readString_write]
  | @arr items each =>
    cases items with
    | nil => rfl
    | cons item items =>
      have inside := back.items item items (indent + 4) indent rest each
        (by simp only [size] at enough; omega)
      obtain ⟨c, tail, eq, solid, notClosed⟩ := write_head (each item (by simp)) (indent + 4)
      simp only [write, List.cons_append, List.append_assoc, List.nil_append]
      rw [readValue_arr, readItems_line, inside]
      · rfl
      · intro closed
        rw [skipSpace_newline, skipSpace_spaces, eq, List.cons_append, skipSpace_cons solid]
        exact fun same => notClosed (List.cons.inj same).1
  | @obj fields sorted each =>
    cases fields with
    | nil => rfl
    | cons field fields =>
      obtain ⟨key, value⟩ := field
      have inside := back.fields key value fields (indent + 4) indent rest sorted each
        (by simp only [size] at enough; omega)
      simp only [write, List.cons_append, List.append_assoc, List.nil_append]
      rw [readValue_obj, readFields_line, inside]
      · rfl
      · intro closed
        rw [skipSpace_newline, skipSpace_spaces, writeString, List.cons_append,
          skipSpace_cons (by decide)]
        exact fun same => absurd (List.cons.inj same).1 (by decide)

end

theorem readsBack (fuel : Nat) : ReadsBack fuel := by
  induction fuel with
  | zero =>
    constructor
    · intro j indent rest whole enough
      cases whole <;> simp [size] at enough
    · intro item items indent m rest whole enough
      simp [sizeItems] at enough
    · intro key value fields indent m rest sorted whole enough
      simp [sizeFields] at enough
  | succ fuel back => exact ⟨readValue_succ back, readItems_succ back, readFields_succ back⟩

/-! ### What is read is proper -/

theorem whole_addMember {key : String} {value : Json} {fields : List (String × Json)}
    (whole : Whole value) (proper : Whole (.obj fields)) : Whole (.obj (addMember key value fields)) := by
  rw [addMember]
  split
  · exact proper
  · cases proper with
    | obj sorted each =>
      refine .obj (OrderedMap.set_sorted key value sorted) ?_
      intro field member
      rcases OrderedMap.mem_set member with rfl | old
      · exact whole
      · exact each field old

theorem readInt_whole {negative : Bool} {text rest : List Char} {j : Json}
    (read : readInt negative text = some (j, rest)) : Whole j := by
  rw [readInt] at read
  dsimp only at read
  split at read
  · split at read
    next bounds =>
      cases read
      refine .int (Int64.lt_iff_toInt_lt.mpr ?_)
      rw [Int64.toInt_ofInt_of_le (by omega) (by omega)]
      change -(((readNat 0 text).1 : Nat) : Int) < 0
      omega
    next => cases read
  · split at read
    · cases read
      exact .uint _
    · cases read

/-- With this fuel, what is read is proper. -/
structure ReadsWhole (fuel : Nat) : Prop where
  value : ∀ text j rest, readValue fuel text = some (j, rest) → Whole j
  items : ∀ text items rest, readItems fuel text = some (items, rest) → ∀ i ∈ items, Whole i
  fields : ∀ text fields rest, readFields fuel text = some (fields, rest) → Whole (.obj fields)

theorem readsWhole (fuel : Nat) : ReadsWhole fuel := by
  induction fuel with
  | zero => exact ⟨by simp [readValue], by simp [readItems], by simp [readFields]⟩
  | succ fuel ih =>
    constructor
    · intro text j rest read
      rw [readValue] at read
      split at read
      · cases read
        exact .null
      · cases read
        exact .bool true
      · cases read
        exact .bool false
      · obtain ⟨⟨s, _⟩, _, eq⟩ := Option.map_eq_some_iff.mp read
        cases eq
        exact .str _
      · split at read
        · cases read
          exact .arr (by simp)
        · obtain ⟨⟨items, _⟩, inside, eq⟩ := Option.map_eq_some_iff.mp read
          cases eq
          exact .arr (ih.items _ _ _ inside)
      · split at read
        · cases read
          exact .obj (by simp) (by simp)
        · obtain ⟨⟨fields, _⟩, inside, eq⟩ := Option.map_eq_some_iff.mp read
          cases eq
          exact ih.fields _ _ _ inside
      · exact readInt_whole read
      · split at read
        · exact readInt_whole read
        · cases read
      · cases read
    · intro text items rest read
      rw [readItems] at read
      split at read
      next item _ first =>
        have whole := ih.value _ _ _ first
        split at read
        · obtain ⟨⟨more, _⟩, inside, eq⟩ := Option.map_eq_some_iff.mp read
          cases eq
          intro i member
          rcases List.mem_cons.mp member with rfl | later
          · exact whole
          · exact ih.items _ _ _ inside i later
        · cases read
          simpa using whole
        · cases read
      next => cases read
    · intro text fields rest read
      rw [readFields] at read
      split at read
      next key _ _ =>
        split at read
        next value _ first =>
          have whole := ih.value _ _ _ first
          split at read
          · obtain ⟨⟨more, _⟩, inside, eq⟩ := Option.map_eq_some_iff.mp read
            cases eq
            exact whole_addMember whole (ih.fields _ _ _ inside)
          · cases read
            exact whole_addMember whole (.obj (by simp) (by simp))
          · cases read
        next => cases read
      next => cases read

/-! ### The library -/

mutual

theorem size_le_length (indent : Nat) : ∀ j, Whole j → size j ≤ (write indent j).length
  | .null, _ => by simp [size, write]
  | .bool true, _ => by simp [size, write]
  | .bool false, _ => by simp [size, write]
  | .int i, whole => by
    cases whole with | int negative => simp [size, write_int negative]
  | .uint n, _ => by
    obtain ⟨c, tail, eq, _⟩ := writeNat_head n.toNat
    simp [size, write, eq]
  | .float x, whole => by cases whole with | float printed => exact printed.elim
  | .str s, _ => by simp [size, write, writeString]
  | .arr [], _ => by simp [size, sizeItems, write]
  | .arr (item :: items), whole => by
    cases whole with
    | arr each =>
      have first := size_le_length (indent + 4) item (each item (by simp))
      have more := sizeItems_le_length (indent + 4) items fun i member => each i (by simp [member])
      simp [size, sizeItems, write]
      omega
  | .obj [], _ => by simp [size, sizeFields, write]
  | .obj ((key, value) :: fields), whole => by
    cases whole with
    | obj sorted each =>
      have first := size_le_length (indent + 4) value (each (key, value) (by simp))
      have more := sizeFields_le_length (indent + 4) fields fun f member => each f (by simp [member])
      simp [size, sizeFields, write]
      omega

theorem sizeItems_le_length (indent : Nat) : ∀ items : List Json, (∀ i ∈ items, Whole i) →
    sizeItems items ≤ (writeItems indent items).length
  | [], _ => by simp [sizeItems]
  | item :: items, each => by
    have first := size_le_length indent item (each item (by simp))
    have more := sizeItems_le_length indent items fun i member => each i (by simp [member])
    simp [sizeItems, writeItems]
    omega

theorem sizeFields_le_length (indent : Nat) : ∀ fields : List (String × Json),
    (∀ f ∈ fields, Whole f.2) → sizeFields fields ≤ (writeFields indent fields).length
  | [], _ => by simp [sizeFields]
  | (key, value) :: fields, each => by
    have first := size_le_length indent value (each (key, value) (by simp))
    have more := sizeFields_le_length indent fields fun f member => each f (by simp [member])
    simp [sizeFields, writeFields]
    omega

end

/-- A value at the front of a text. -/
def readText (text : List Char) : Option Json := (readValue text.length text).map Prod.fst

theorem readText_write {j : Json} (whole : Whole j) {rest : List Char} (ended : Ended rest) :
    readText (write 0 j ++ rest) = some j := by
  have enough := size_le_length 0 j whole
  have read := (readsBack (write 0 j ++ rest).length).value j 0 rest whole
    (by rw [List.length_append]; omega) ended
  rw [readText, read]
  rfl

theorem readText_whole {text : List Char} {j : Json} (read : readText text = some j) : Whole j := by
  obtain ⟨⟨_, rest⟩, value, rfl⟩ := Option.map_eq_some_iff.mp read
  exact (readsWhole _).value _ _ _ value

def readBytes (bytes : List UInt8) : Option Json :=
  (ofUtf8 bytes).bind fun text => readText text.toList

theorem readBytes_utf8 (text : String) : readBytes (utf8 text) = readText text.toList := by
  rw [readBytes, ofUtf8_utf8]
  rfl

theorem readBytes_whole {bytes : List UInt8} {j : Json} (read : readBytes bytes = some j) :
    Whole j := by
  obtain ⟨_, _, value⟩ := Option.bind_eq_some_iff.mp read
  exact readText_whole value

def writeBytes (j : Json) : List UInt8 := utf8 (String.ofList (write 0 j))

theorem readBytes_write (j : Json) (whole : Whole j) : readBytes (writeBytes j) = some j := by
  have read := @readText_write j whole [] (by rintro _ ⟨⟩)
  rw [writeBytes, readBytes_utf8]
  simpa using read

/-- The reader and the writer keep the laws. -/
def text : JsonText where
  finite _ := False
  read := readBytes
  parse := readBytes
  dump := writeBytes
  read_proper _ _ := readBytes_whole
  parse_proper _ _ := readBytes_whole
  read_dump := readBytes_write
  read_dump_endl := by
    intro j whole
    have read := readText_write whole (ended_cons (by decide : isDigit '\n' = false) [])
    have bytes : writeBytes j ++ [10] = utf8 (String.ofList (write 0 j) ++ "\n") := by
      rw [utf8_append]
      rfl
    rw [bytes, readBytes_utf8]
    simpa using read
  parse_dump := readBytes_write

end LorawanFeeds.Lib.JsonCodec
