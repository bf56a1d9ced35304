import LorawanFeeds.Lib.JsonGrammar

/-!
# Writers of JSON text

What is asked of a function that writes values as text, and that the one of `JsonCodec` does it.
-/
namespace LorawanFeeds.Lib.JsonGrammar

/-- A value stands at the front of the text, whatever follows it. -/
def Written (text : Text) : Prop := ∃ v, ∀ rest, Parses (text ++ rest) (.value v) rest

/-- Characters as bytes. -/
def bytes (text : List Char) : Text := text.flatMap String.utf8EncodeChar

theorem utf8_eq_bytes (s : String) : JsonCodec.utf8 s = bytes s.toList := by
  have list : s.toUTF8.toList = s.toByteArray.data.toList := Utf8.toList_loop _ 0 []
  rw [JsonCodec.utf8, ← list, Utf8.toUTF8_toList, bytes]

@[simp] theorem bytes_nil : bytes [] = [] := rfl

@[simp] theorem bytes_append (s t : List Char) : bytes (s ++ t) = bytes s ++ bytes t :=
  List.flatMap_append ..

theorem bytes_cons (c : Char) (text : List Char) :
    bytes (c :: text) = String.utf8EncodeChar c ++ bytes text := rfl

theorem hexDigit_byte : ∀ n < 16,
    String.utf8EncodeChar (Quoted.hexDigit n) = [UInt8.ofNat (Quoted.hexDigit n).toNat] ∧
      hexDigit (UInt8.ofNat (Quoted.hexDigit n).toNat) = some n := by decide

theorem plain_of_mem_utf8EncodeChar {c : Char} (printed : 32 ≤ c.toNat) (noQuote : c ≠ '"')
    (noBackslash : c ≠ '\\') : ∀ b ∈ String.utf8EncodeChar c, Plain b := by
  intro b member
  by_cases small : b.toNat < 128
  · have same := Utf8.toNat_eq_of_mem_utf8EncodeChar small member
    refine ⟨?_, ?_, ?_⟩
    · rw [UInt8.le_iff_toNat_le]
      simpa [same] using printed
    · rintro rfl
      exact noQuote (Char.toNat_inj.mp same)
    · rintro rfl
      exact noBackslash (Char.toNat_inj.mp same)
  · refine ⟨?_, ?_, ?_⟩
    · rw [UInt8.le_iff_toNat_le]
      simp
      omega
    · rintro rfl
      exact small (by decide)
    · rintro rfl
      exact small (by decide)

theorem bytes_ascii {c : Char} {b : UInt8} (single : String.utf8EncodeChar c = [b])
    (text : List Char) : bytes (c :: text) = b :: bytes text := by
  rw [bytes_cons, single]
  rfl

theorem bytes_length_le (text : List Char) : (bytes text).length ≤ 4 * text.length := by
  induction text with
  | nil => simp
  | cons c text ih =>
    have size := Char.utf8Size_le_four c
    rw [bytes_cons, List.length_append, String.length_utf8EncodeChar, List.length_cons]
    omega

theorem mem_bytes {c : Char} {b : UInt8} (single : String.utf8EncodeChar c = [b]) {text : List Char}
    (member : c ∈ text) : b ∈ bytes text :=
  List.mem_flatMap.mpr ⟨c, member, by simp [single]⟩

/-- The bytes of an escaped character. -/
theorem stringBody_escape (c : Char) {text body rest : Text} (more : StringBody text body rest) :
    StringBody (bytes (Quoted.escape c) ++ text) (String.utf8EncodeChar c ++ body) rest := by
  rw [Quoted.escape]
  split
  next short found =>
    have member : (c, short) ∈ Quoted.shortEscapes := by
      obtain ⟨before, after, eq, _⟩ := List.lookup_eq_some_iff.mp found
      rw [eq]
      simp
    simp only [Quoted.shortEscapes, List.mem_cons, Prod.mk.injEq, List.not_mem_nil, or_false] at member
    rcases member with ⟨rfl, rfl⟩ | ⟨rfl, rfl⟩ | ⟨rfl, rfl⟩ | ⟨rfl, rfl⟩ | ⟨rfl, rfl⟩ | ⟨rfl, rfl⟩ |
      ⟨rfl, rfl⟩ <;> exact .short (by decide) more
  next plain =>
    split
    next control =>
      obtain ⟨high, highValue⟩ := hexDigit_byte (c.toNat / 16) (by omega)
      obtain ⟨low, lowValue⟩ := hexDigit_byte (c.toNat % 16) (by omega)
      have value : hexDigits [48, 48, UInt8.ofNat (Quoted.hexDigit (c.toNat / 16)).toNat,
          UInt8.ofNat (Quoted.hexDigit (c.toNat % 16)).toNat] = some c.toNat := by
        have zero : hexDigit 48 = some 0 := by decide
        simp only [hexDigits, zero, highValue, lowValue, Option.bind_eq_bind, Option.bind_some,
          Option.pure_def, List.length_cons, List.length_nil]
        congr 1
        omega
      have escaped := StringBody.unicode value (.inl (by omega)) more
      rw [Char.ofNat_toNat] at escaped
      simp only [bytes_cons, high, low]
      exact escaped
    next printed =>
      have noQuote : c ≠ '"' := by
        rintro rfl
        simp [Quoted.shortEscapes] at plain
      have noBackslash : c ≠ '\\' := by
        rintro rfl
        simp [Quoted.shortEscapes] at plain
      rw [bytes_cons, bytes_nil, List.append_nil]
      exact .prepend (plain_of_mem_utf8EncodeChar (by omega) noQuote noBackslash) more

/-- A string as it is written, from its opening quote on. -/
theorem stringAt_writeString (s : String) (rest : Text) :
    ∃ text, bytes (Quoted.writeString s) ++ rest = 34 :: text ∧ StringAt text s rest := by
  have body (chars : List Char) :
      StringBody (bytes (chars.flatMap Quoted.escape) ++ 34 :: rest) (bytes chars) rest := by
    induction chars with
    | nil => exact .close rest
    | cons c chars ih =>
      rw [List.flatMap_cons, bytes_append, List.append_assoc, bytes_cons]
      exact stringBody_escape c ih
  refine ⟨_, ?_, _, body s.toList, ?_⟩
  · rw [Quoted.writeString, bytes_ascii (b := 34) rfl, bytes_append, bytes_ascii (b := 34) rfl]
    simp
  · rw [← utf8_eq_bytes]
    exact JsonCodec.ofUtf8_utf8 s

theorem written_string (s : String) : Written (bytes (Quoted.writeString s)) := by
  refine ⟨.str s, fun rest => ?_⟩
  obtain ⟨text, same, string⟩ := stringAt_writeString s rest
  rw [same]
  exact .string string

theorem digit_byte : ∀ n < 10, String.utf8EncodeChar (Decimal.digit n) = [UInt8.ofNat (48 + n)] ∧
    isDigit (UInt8.ofNat (48 + n)) ∧ (UInt8.ofNat (48 + n)).toNat - 48 = n := by decide

/-- The digits of a number. -/
theorem writeNat_whole (n : Nat) :
    Whole (bytes (Decimal.writeNat n)) ∧ decimal (bytes (Decimal.writeNat n)) = n := by
  induction n using Nat.strong_induction_on with
  | _ n ih =>
    rw [Decimal.writeNat]
    split
    next small =>
      obtain ⟨byte, isOne, value⟩ := digit_byte n small
      rw [bytes_cons, bytes_nil, List.append_nil, byte]
      refine ⟨⟨⟨by simp, by simpa using isOne⟩, ?_⟩, ?_⟩
      · intro zero
        rw [Option.some.inj zero]
      · simp only [decimal, List.foldl_cons, List.foldl_nil, value, Nat.zero_mul, Nat.zero_add]
    next large =>
      obtain ⟨front, same⟩ := ih (n / 10) (by omega)
      obtain ⟨byte, isOne, value⟩ := digit_byte (n % 10) (by omega)
      rw [bytes_append, bytes_cons, bytes_nil, List.append_nil, byte]
      refine ⟨⟨⟨by simp, ?_⟩, ?_⟩, ?_⟩
      · intro b member
        rcases List.mem_append.mp member with before | last
        · exact front.digits.2 b before
        · rw [List.mem_singleton.mp last]
          exact isOne
      · -- A leading zero would be all of the number that stands before the last digit.
        intro zero
        rw [List.head?_append_of_ne_nil _ front.digits.1] at zero
        rw [front.leading zero] at same
        have none : n / 10 = 0 := by simpa [decimal] using same.symm
        omega
      · rw [decimal, List.foldl_append, ← decimal, same]
        simp only [List.foldl_cons, List.foldl_nil, value]
        omega

theorem written_unsigned {n : Nat} (fits : n < 2 ^ 64) : Written (bytes (Decimal.writeNat n)) := by
  obtain ⟨whole, value⟩ := writeNat_whole n
  exact ⟨_, fun rest => .number (.unsigned whole (by omega))⟩

theorem written_negative {n : Nat} (fits : n ≤ 2 ^ 63) :
    Written (bytes ('-' :: Decimal.writeNat n)) := by
  obtain ⟨whole, value⟩ := writeNat_whole n
  have small : decimal (bytes (Decimal.writeNat n)) ≤ 2 ^ 63 := by omega
  exact ⟨_, fun rest => .number (.negative whole small)⟩

/-- A new line with its indentation. -/
theorem spaces_line (n : Nat) (rest : Text) :
    Spaces (bytes ('\n' :: JsonCodec.spaces n) ++ rest) rest := by
  have indent : Spaces (bytes (JsonCodec.spaces n) ++ rest) rest := by
    induction n with
    | zero => exact .nil rest
    | succ n ih => exact .cons (.inl rfl) ih
  exact .cons (.inr (.inr (.inl rfl))) indent

/-- The end of an array or an object. -/
def closing (indent : Nat) (bracket : Char) : List Char :=
  '\n' :: (JsonCodec.spaces indent ++ [bracket])

theorem spaces_closing (indent : Nat) (bracket : Char) (rest : Text) :
    Spaces (bytes (closing indent bracket) ++ rest) (String.utf8EncodeChar bracket ++ rest) := by
  have split : closing indent bracket = ('\n' :: JsonCodec.spaces indent) ++ [bracket] := rfl
  rw [split, bytes_append, List.append_assoc, bytes_cons bracket, bytes_nil, List.append_nil]
  exact spaces_line indent _

/-- The items behind the first one, up to the end of the array. -/
def WrittenItems (outer : Nat) (text : Text) : Prop :=
  ∀ first v, (∀ rest, Parses (first ++ rest) (.value v) rest) →
    ∃ items, ∀ front rest, Spaces front (first ++ (text ++ (bytes (closing outer ']') ++ rest))) →
      Parses front (.items items) rest

/-- The members behind the first one, up to the end of the object. -/
def WrittenFields (outer : Nat) (text : Text) : Prop :=
  ∀ key first v, (∀ rest, Parses (first ++ rest) (.value v) rest) →
    ∃ fields, ∀ front rest,
      Spaces front (bytes (Quoted.writeString key) ++
        (58 :: 32 :: (first ++ (text ++ (bytes (closing outer '\x7d') ++ rest))))) →
      Parses front (.fields fields) rest

mutual

theorem written_value (indent : Nat) : ∀ j, Written (bytes (JsonCodec.write indent j))
  | .null => ⟨.null, .nullValue⟩
  | .bool true => ⟨.bool true, .trueValue⟩
  | .bool false => ⟨.bool false, .falseValue⟩
  | .float _ => ⟨.null, .nullValue⟩
  | .str s => written_string s
  | .uint n => written_unsigned n.toNat_lt
  | .int i => by
    have fits : i.toInt.natAbs ≤ 2 ^ 63 := by
      have low := i.le_toInt
      have high := i.toInt_lt
      omega
    rw [JsonCodec.write]
    split
    · exact written_negative fits
    · exact written_unsigned (by omega)
  | .arr [] => ⟨.arr [], fun rest => .emptyArray (.nil _)⟩
  | .arr (item :: items) => by
    obtain ⟨v, first⟩ := written_value (indent + 4) item
    obtain ⟨vs, more⟩ := written_items indent (indent + 4) items _ v first
    refine ⟨.arr vs, fun rest => ?_⟩
    have text : JsonCodec.write indent (.arr (item :: items)) =
        '[' :: (('\n' :: JsonCodec.spaces (indent + 4)) ++ (JsonCodec.write (indent + 4) item ++
          (JsonCodec.writeItems (indent + 4) items ++ closing indent ']'))) := by
      rw [JsonCodec.write]
      rfl
    rw [text, bytes_ascii (b := 91) rfl, List.cons_append]
    refine .array (more _ rest ?_)
    simp only [bytes_append, List.append_assoc]
    exact spaces_line _ _
  | .obj [] => ⟨.obj [], fun rest => .emptyObject (.nil _)⟩
  | .obj ((key, value) :: fields) => by
    obtain ⟨v, first⟩ := written_value (indent + 4) value
    obtain ⟨vs, more⟩ := written_fields indent (indent + 4) fields key _ v first
    refine ⟨.obj vs, fun rest => ?_⟩
    have text : JsonCodec.write indent (.obj ((key, value) :: fields)) =
        '\x7b' :: (('\n' :: JsonCodec.spaces (indent + 4)) ++ (Quoted.writeString key ++
          ([':', ' '] ++ (JsonCodec.write (indent + 4) value ++
            (JsonCodec.writeFields (indent + 4) fields ++ closing indent '\x7d'))))) := by
      rw [JsonCodec.write]
      rfl
    rw [text, bytes_ascii (b := 123) rfl, List.cons_append]
    refine .object (more _ rest ?_)
    simp only [bytes_append, List.append_assoc]
    exact spaces_line _ _

theorem written_items (outer indent : Nat) :
    ∀ items, WrittenItems outer (bytes (JsonCodec.writeItems indent items))
  | [] => by
    intro first v value
    exact ⟨[v], fun front rest before => .lastItem before (value _) (spaces_closing outer ']' rest)⟩
  | item :: items => by
    intro first v value
    obtain ⟨w, next⟩ := written_value indent item
    obtain ⟨vs, more⟩ := written_items outer indent items _ w next
    refine ⟨v :: vs, fun front rest before => ?_⟩
    have text : JsonCodec.writeItems indent (item :: items) =
        ',' :: (('\n' :: JsonCodec.spaces indent) ++ (JsonCodec.write indent item ++
          JsonCodec.writeItems indent items)) := by
      rw [JsonCodec.writeItems]
      rfl
    rw [text, bytes_ascii (b := 44) rfl, List.cons_append] at before
    refine .nextItem before (value _) (.nil _) (more _ _ ?_)
    simp only [bytes_append, List.append_assoc]
    exact spaces_line _ _

theorem written_fields (outer indent : Nat) :
    ∀ fields, WrittenFields outer (bytes (JsonCodec.writeFields indent fields))
  | [] => by
    intro key first v value
    refine ⟨[(key, v)], fun front rest before => ?_⟩
    obtain ⟨name, text, named⟩ := stringAt_writeString key
      (58 :: 32 :: (first ++ (bytes (JsonCodec.writeFields indent []) ++ (bytes (closing outer '\x7d') ++ rest))))
    rw [text] at before
    exact .lastField before named (.nil _) (.cons (.inl rfl) (.nil _)) (value _)
      (spaces_closing outer '\x7d' rest)
  | (other, item) :: fields => by
    intro key first v value
    obtain ⟨w, next⟩ := written_value indent item
    obtain ⟨vs, more⟩ := written_fields outer indent fields other _ w next
    refine ⟨JsonCodec.addMember key v vs, fun front rest before => ?_⟩
    obtain ⟨name, same, named⟩ := stringAt_writeString key (58 :: 32 :: (first ++
      (bytes (JsonCodec.writeFields indent ((other, item) :: fields)) ++
        (bytes (closing outer '\x7d') ++ rest))))
    rw [same] at before
    have text : JsonCodec.writeFields indent ((other, item) :: fields) =
        ',' :: (('\n' :: JsonCodec.spaces indent) ++ (Quoted.writeString other ++
          ([':', ' '] ++ (JsonCodec.write indent item ++ JsonCodec.writeFields indent fields)))) := by
      rw [JsonCodec.writeFields]
      rfl
    rw [text, bytes_ascii (b := 44) rfl, List.cons_append] at named
    refine .nextField before named (.nil _) (.cons (.inl rfl) (.nil _)) (value _) (.nil _)
      (more _ rest ?_)
    simp only [bytes_append, List.append_assoc]
    exact spaces_line _ _

end

/-- What a writer of JSON text does: every value is written as JSON, an object between braces, and
null by its name. -/
structure Standard (dump : Json → Text) : Prop where
  written : ∀ j, Written (dump j)
  object : ∀ fields, 123 ∈ dump (.obj fields) ∧ 125 ∈ dump (.obj fields)
  null : dump .null = [110, 117, 108, 108]

theorem standard_text : Standard JsonCodec.text.dump := by
  have dump (j : Json) : JsonCodec.text.dump j = bytes (JsonCodec.write 0 j) := by
    change JsonCodec.utf8 (String.ofList (JsonCodec.write 0 j)) = _
    rw [utf8_eq_bytes, String.toList_ofList]
  constructor
  · intro j
    rw [dump]
    exact written_value 0 j
  · intro fields
    rw [dump]
    have braces : '\x7b' ∈ JsonCodec.write 0 (.obj fields) ∧ '\x7d' ∈ JsonCodec.write 0 (.obj fields) := by
      cases fields <;> simp [JsonCodec.write]
    exact ⟨mem_bytes rfl braces.1, mem_bytes rfl braces.2⟩
  · rw [dump]
    rfl

end LorawanFeeds.Lib.JsonGrammar
