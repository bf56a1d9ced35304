import LorawanFeeds.Lib.Adjacent
import LorawanFeeds.Cgi.TomlRequest

/-!
# The lines of the configuration file

The editing of the printed lines looks for characters, and does not know headers from values. The
lines of values that have none of these characters in them stay as they are.
-/
namespace LorawanFeeds.Cgi

open Lib Quoted

/-! ### The characters that the editing looks for -/

theorem open_own : '[' ∉ escapeChars := by decide
theorem open_plain : escape '[' = ['['] := by decide
theorem close_own : ']' ∉ escapeChars := by decide
theorem close_plain : escape ']' = [']'] := by decide
theorem dot_own : '.' ∉ escapeChars := by decide
theorem dot_plain : escape '.' = ['.'] := by decide

/-- A text whose line is not edited: it has no empty brackets in it, and does not end in an open
bracket with a dot before that. -/
def PlainText (s : String) : Prop :=
  ¬ ['[', ']'] <:+: s.toList ∧ ¬ (s.toList.getLast? = some '[' ∧ '.' ∈ s.toList)

/-- A text that may stand in a list: the line of a list is always one with an open bracket and a
quote. -/
def PlainItem (s : String) : Prop := ¬ ['[', ']'] <:+: s.toList ∧ '.' ∉ s.toList

/-- A line that is written as it has been printed. -/
theorem formatLine_eq_self {line : List Char} (quotes : Unpaired '[' '"' line ∨ '.' ∉ line)
    (brackets : Unpaired '[' ']' line) (notType : line ≠ "type = \"\"".toList) :
    formatLine line = some line := by
  have unquoted : ¬ (['[', '"'] <:+: line ∧ '.' ∈ line) := by
    rintro ⟨quoted, dot⟩
    rcases quotes with free | absent
    · exact (unpaired_iff _ _ _).mp free quoted
    · exact absent dot
  rw [unpaired_iff] at brackets
  simp only [formatLine, if_neg unquoted, if_neg brackets, if_neg notType]

/-! ### Quoted texts -/

theorem writeString_eq (s : String) :
    writeString s = '"' :: (s.toList.flatMap escape ++ ['"']) := rfl

theorem writeString_dot (s : String) : '.' ∈ writeString s ↔ '.' ∈ s.toList := by
  rw [writeString_eq, List.mem_cons, List.mem_append, mem_escaped dot_own dot_plain]
  simp

theorem writeString_brackets {s : String} (free : ¬ ['[', ']'] <:+: s.toList) :
    Unpaired '[' ']' (writeString s) := by
  rw [← unpaired_iff] at free
  rw [writeString_eq, unpaired_cons, unpaired_append]
  refine ⟨⟨unpaired_escaped open_own open_plain close_own close_plain free, unpaired_singleton, ?_⟩,
    by simp⟩
  simp

theorem writeString_quotes {s : String} (last : s.toList.getLast? ≠ some '[') :
    Unpaired '[' '"' (writeString s) := by
  rw [writeString_eq, unpaired_cons, unpaired_append]
  refine ⟨⟨unpaired_escaped_quote open_own _, unpaired_singleton, ?_⟩, by simp⟩
  intro ends
  rw [getLast?_escaped open_own open_plain] at ends
  exact absurd ends last

/-! ### Lines -/

/-- A pair in a line is one in its value. -/
theorem unpaired_entry {key : String} (bare : TomlLine.Bare key) {value : TomlValue} {b : Char}
    (free : Unpaired '[' b value.write) : Unpaired '[' b (TomlLine.entry key value).write := by
  rw [TomlLine.write, unpaired_append]
  refine ⟨unpaired_of_notMem (bare.notMem (by decide)), ?_, ?_⟩
  · simpa [unpaired_cons] using free
  · intro last
    exact absurd (List.mem_of_getLast? last) (bare.notMem (by decide))

theorem dot_notMem_entry {key : String} (bare : TomlLine.Bare key) {value : TomlValue}
    (absent : '.' ∉ value.write) : '.' ∉ (TomlLine.entry key value).write := by
  rw [TomlLine.write, List.mem_append]
  rintro (inKey | inValue)
  · exact bare.notMem (by decide) inKey
  · simp [absent] at inValue

/-- A text is cut at a character in one way. -/
theorem append_cons_inj {d : Char} {a b x y : List Char} (first : d ∉ a) (second : d ∉ b)
    (same : a ++ d :: x = b ++ d :: y) : a = b ∧ x = y := by
  induction a generalizing b with
  | nil =>
    cases b with
    | nil => exact ⟨rfl, (List.cons.inj same).2⟩
    | cons c b => exact absurd (by simp [(List.cons.inj same).1]) second
  | cons c a ih =>
    cases b with
    | nil => exact absurd (by simp [(List.cons.inj same).1]) first
    | cons e b =>
      obtain ⟨rfl, rest⟩ := List.cons.inj same
      obtain ⟨rfl, rfl⟩ := ih (fun member => first (by simp [member]))
        (fun member => second (by simp [member])) rest
      exact ⟨rfl, rfl⟩

/-- Only the line of an empty type is dropped. -/
theorem entry_ne_type {key : String} (bare : TomlLine.Bare key) {value : TomlValue}
    (other : key ≠ "type" ∨ value.write ≠ ['"', '"']) :
    (TomlLine.entry key value).write ≠ "type = \"\"".toList := by
  intro same
  have split : "type = \"\"".toList = "type".toList ++ ' ' :: '=' :: ' ' :: ['"', '"'] := by decide
  rw [TomlLine.write, split] at same
  -- The key ends at the first space.
  obtain ⟨keys, rest⟩ := append_cons_inj (bare.notMem (by decide)) (by decide) same
  rcases other with different | different
  · exact different (String.toList_inj.mp keys)
  · simp only [List.cons.injEq, true_and] at rest
    exact different rest

/-! ### Lists -/

/-- The text of an item, as far as its brackets go. -/
structure ItemText (text : List Char) : Prop where
  brackets : Unpaired '[' ']' text
  some : text ≠ []
  head : text.head? ≠ Option.some ']'
  last : text.getLast? ≠ Option.some '['

theorem itemText_writeString {s : String} (plain : PlainItem s) : ItemText (writeString s) := by
  refine ⟨writeString_brackets plain.1, by simp [writeString], by simp [writeString], ?_⟩
  rw [writeString_eq, ← List.cons_append, List.getLast?_concat]
  simp

section

variable {items : List (List Char)}

theorem itemText_commas (nonempty : items ≠ []) (each : ∀ item ∈ items, ItemText item) :
    ItemText (TomlValue.commas items) := by
  induction items with
  | nil => exact absurd rfl nonempty
  | cons item items ih =>
    have first := each item (by simp)
    cases items with
    | nil => exact first
    | cons next more =>
      have later := ih (by simp) fun t member => each t (by simp [member])
      rw [TomlValue.commas]
      refine ⟨?_, by simp, ?_, ?_⟩
      · rw [unpaired_append, unpaired_cons]
        exact ⟨first.brackets, ⟨later.brackets, by simp⟩, fun ends => absurd ends first.last⟩
      · rw [List.head?_append_of_ne_nil _ first.some]
        exact first.head
      · rw [List.getLast?_append_of_ne_nil _ (by simp), List.getLast?_cons_of_ne_nil later.some]
        exact later.last

theorem itemText_writeArray (nonempty : items ≠ []) (each : ∀ item ∈ items, ItemText item) :
    ItemText (TomlValue.writeArray items) := by
  have inner := itemText_commas nonempty each
  refine ⟨?_, by simp [TomlValue.writeArray], by simp [TomlValue.writeArray], ?_⟩
  · rw [TomlValue.writeArray, unpaired_cons, unpaired_append]
    refine ⟨⟨inner.brackets, unpaired_singleton, fun ends => absurd ends inner.last⟩, fun _ => ?_⟩
    rw [List.head?_append_of_ne_nil _ inner.some]
    exact inner.head
  · rw [TomlValue.writeArray, ← List.cons_append, List.getLast?_concat]
    simp

theorem dot_notMem_commas (each : ∀ item ∈ items, '.' ∉ item) : '.' ∉ TomlValue.commas items := by
  induction items with
  | nil => simp [TomlValue.commas]
  | cons item items ih =>
    have first := each item (by simp)
    cases items with
    | nil => exact first
    | cons next more =>
      have later := ih fun t member => each t (by simp [member])
      simp [TomlValue.commas, first, later]

theorem dot_notMem_writeArray (each : ∀ item ∈ items, '.' ∉ item) :
    '.' ∉ TomlValue.writeArray items := by
  simp [TomlValue.writeArray, dot_notMem_commas each]

end

/-! ### Values -/

/-- A value whose line is written as it has been printed. -/
def PlainValue : TomlValue → Prop
  | .flag _ => True
  | .number _ => True
  | .text s => PlainText s
  | .texts list => list ≠ [] ∧ ∀ s ∈ list, PlainItem s
  | .pairs list => list ≠ [] ∧ ∀ p ∈ list, PlainItem p.1 ∧ PlainItem p.2

theorem open_notMem_number (i : Int64) : '[' ∉ (TomlValue.number i).write := by
  have digits : '[' ∉ Decimal.writeNat i.toInt.natAbs := by
    intro member
    exact absurd (Decimal.isDigit_of_mem_writeNat _ _ member) (by decide)
  rw [TomlValue.write]
  split
  · simp [digits]
  · exact digits

/-- The line of a plain value stays. -/
theorem formatLine_entry {key : String} (bare : TomlLine.Bare key) {value : TomlValue}
    (plain : PlainValue value) (other : key ≠ "type" ∨ value.write ≠ ['"', '"']) :
    formatLine (TomlLine.entry key value).write = some (TomlLine.entry key value).write := by
  have notType := entry_ne_type bare other
  cases value with
  | flag b =>
    have absent : '[' ∉ (TomlValue.flag b).write := by cases b <;> decide
    exact formatLine_eq_self (.inl (unpaired_entry bare (unpaired_of_notMem absent)))
      (unpaired_entry bare (unpaired_of_notMem absent)) notType
  | number i =>
    have absent := open_notMem_number i
    exact formatLine_eq_self (.inl (unpaired_entry bare (unpaired_of_notMem absent)))
      (unpaired_entry bare (unpaired_of_notMem absent)) notType
  | text s =>
    refine formatLine_eq_self ?_ (unpaired_entry bare (writeString_brackets plain.1)) notType
    by_cases last : s.toList.getLast? = some '['
    · right
      have absent : '.' ∉ s.toList := fun dot => plain.2 ⟨last, dot⟩
      exact dot_notMem_entry bare fun dot => absent ((writeString_dot s).mp dot)
    · left
      exact unpaired_entry bare (writeString_quotes last)
  | texts list =>
    obtain ⟨nonempty, each⟩ := plain
    refine formatLine_eq_self (.inr (dot_notMem_entry bare ?_)) (unpaired_entry bare ?_) notType
    · apply dot_notMem_writeArray
      rintro _ member dot
      obtain ⟨s, here, rfl⟩ := List.mem_map.mp member
      exact (each s here).2 ((writeString_dot s).mp dot)
    · refine (itemText_writeArray (by simpa using nonempty) ?_).brackets
      intro _ member
      obtain ⟨s, here, rfl⟩ := List.mem_map.mp member
      exact itemText_writeString (each s here)
  | pairs list =>
    obtain ⟨nonempty, each⟩ := plain
    refine formatLine_eq_self (.inr (dot_notMem_entry bare ?_)) (unpaired_entry bare ?_) notType
    · apply dot_notMem_writeArray
      rintro _ member dot
      obtain ⟨p, here, rfl⟩ := List.mem_map.mp member
      refine absurd dot (dot_notMem_writeArray ?_)
      simp only [List.forall_mem_cons, writeString_dot]
      exact ⟨(each p here).1.2, (each p here).2.2, by simp⟩
    · refine (itemText_writeArray (by simpa using nonempty) ?_).brackets
      intro _ member
      obtain ⟨p, here, rfl⟩ := List.mem_map.mp member
      refine itemText_writeArray (by simp) ?_
      simp only [List.forall_mem_cons]
      exact ⟨itemText_writeString (each p here).1, itemText_writeString (each p here).2, by simp⟩

end LorawanFeeds.Cgi
