import Mathlib.Algebra.GroupWithZero.Nat
import LorawanFeeds.Lib.JsonCodec
import LorawanFeeds.Lib.Utf8

/-!
# The grammar of JSON text

Which texts are JSON, as relations between a text, what stands at its front, and what is left of it.
A text is a list of bytes; only its strings have to be UTF-8. Nothing is said about the value of a
number with a fraction, and of two members with one name the later counts.
-/
namespace LorawanFeeds.Lib.JsonGrammar

abbrev Text := List UInt8

/-! ### The grammar -/

/-- Spaces, tabs and ends of lines. -/
def isSpace (b : UInt8) : Prop := b = 32 ∨ b = 9 ∨ b = 10 ∨ b = 13

instance (b : UInt8) : Decidable (isSpace b) := inferInstanceAs (Decidable (_ ∨ _))

inductive Spaces : Text → Text → Prop
  | nil (rest : Text) : Spaces rest rest
  | cons {b : UInt8} {text rest : Text} (space : isSpace b) (more : Spaces text rest) :
    Spaces (b :: text) rest

/-- The bytes of a string that stand for themselves. -/
def Plain (b : UInt8) : Prop := 32 ≤ b ∧ b ≠ 34 ∧ b ≠ 92

instance (b : UInt8) : Decidable (Plain b) := inferInstanceAs (Decidable (_ ∧ _ ∧ _))

/-- What follows a backslash, and what it stands for. -/
def shortEscapes : List (UInt8 × UInt8) :=
  [(34, 34), (92, 92), (47, 47), (98, 8), (102, 12), (110, 10), (114, 13), (116, 9)]

def hexDigit (b : UInt8) : Option Nat :=
  if 48 ≤ b ∧ b ≤ 57 then some (b.toNat - 48)
  else if 97 ≤ b ∧ b ≤ 102 then some (b.toNat - 87)
  else if 65 ≤ b ∧ b ≤ 70 then some (b.toNat - 55)
  else none

def hexDigits : List UInt8 → Option Nat
  | [] => some 0
  | b :: rest => do
    let digit ← hexDigit b
    let tail ← hexDigits rest
    return digit * 16 ^ rest.length + tail

/-- The bytes of a string behind its opening quote. -/
inductive StringBody : Text → Text → Text → Prop
  | close (rest : Text) : StringBody (34 :: rest) [] rest
  | plain {b : UInt8} {text body rest : Text} (plain : Plain b) (more : StringBody text body rest) :
    StringBody (b :: text) (b :: body) rest
  | short {e b : UInt8} {text body rest : Text} (escape : (e, b) ∈ shortEscapes)
      (more : StringBody text body rest) : StringBody (92 :: e :: text) (b :: body) rest
  | unicode {a b c d : UInt8} {n : Nat} {text body rest : Text}
      (digits : hexDigits [a, b, c, d] = some n) (single : n < 0xD800 ∨ 0xDFFF < n)
      (more : StringBody text body rest) :
    StringBody (92 :: 117 :: a :: b :: c :: d :: text)
      (String.utf8EncodeChar (Char.ofNat n) ++ body) rest
  | surrogates {a b c d a' b' c' d' : UInt8} {high low : Nat} {text body rest : Text}
      (first : hexDigits [a, b, c, d] = some high) (isHigh : 0xD800 ≤ high ∧ high < 0xDC00)
      (second : hexDigits [a', b', c', d'] = some low) (isLow : 0xDC00 ≤ low ∧ low < 0xE000)
      (more : StringBody text body rest) :
    StringBody (92 :: 117 :: a :: b :: c :: d :: 92 :: 117 :: a' :: b' :: c' :: d' :: text)
      (String.utf8EncodeChar (Char.ofNat (0x10000 + (high - 0xD800) * 1024 + (low - 0xDC00))) ++
        body) rest

/-- A string behind its opening quote. -/
def StringAt (text : Text) (s : String) (rest : Text) : Prop :=
  ∃ body, StringBody text body rest ∧ JsonCodec.ofUtf8 body = some s

def isDigit (b : UInt8) : Prop := 48 ≤ b ∧ b ≤ 57

instance (b : UInt8) : Decidable (isDigit b) := inferInstanceAs (Decidable (_ ∧ _))

def AllDigits (digits : Text) : Prop := digits ≠ [] ∧ ∀ b ∈ digits, isDigit b

/-- Digits, of which a zero is the first only if it is the only one. -/
structure Whole (text : Text) : Prop where
  digits : AllDigits text
  leading : text.head? = some 48 → text = [48]

def decimal (digits : Text) : Nat := digits.foldl (fun n b => n * 10 + (b.toNat - 48)) 0

def IsFraction (text : Text) : Prop := text = [] ∨ ∃ digits, text = 46 :: digits ∧ AllDigits digits

def IsExponent (text : Text) : Prop :=
  text = [] ∨ ∃ e sign digits, text = e :: sign ++ digits ∧ (e = 69 ∨ e = 101) ∧
    (sign = [] ∨ sign = [43] ∨ sign = [45]) ∧ AllDigits digits

inductive Number : Text → Json → Prop
  | unsigned {digits : Text} (whole : Whole digits) (fits : decimal digits < 2 ^ 64) :
    Number digits (.uint (decimal digits).toUInt64)
  | negative {digits : Text} (whole : Whole digits) (fits : decimal digits ≤ 2 ^ 63) :
    Number (45 :: digits) (.int (Int64.ofInt (-(decimal digits))))
  -- An integer that is too large is such a number too.
  | fraction {sign digits fraction exponent : Text} {x : Float} (signed : sign = [] ∨ sign = [45])
      (whole : Whole digits) (fractional : IsFraction fraction) (scaled : IsExponent exponent)
      (real : fraction ++ exponent ≠ [] ∨ 2 ^ 64 ≤ decimal digits ∨
        sign = [45] ∧ 2 ^ 63 < decimal digits) :
    Number (sign ++ digits ++ fraction ++ exponent) (.float x)

/-- What stands at the front of a text: a value, the rest of an array, or the rest of an object. -/
inductive Part where
  | value (j : Json)
  | items (items : List Json)
  | fields (fields : List (String × Json))

inductive Parses : Text → Part → Text → Prop
  | nullValue (rest : Text) : Parses (110 :: 117 :: 108 :: 108 :: rest) (.value .null) rest
  | trueValue (rest : Text) : Parses (116 :: 114 :: 117 :: 101 :: rest) (.value (.bool true)) rest
  | falseValue (rest : Text) :
    Parses (102 :: 97 :: 108 :: 115 :: 101 :: rest) (.value (.bool false)) rest
  | number {token rest : Text} {j : Json} (number : Number token j) :
    Parses (token ++ rest) (.value j) rest
  | string {text rest : Text} {s : String} (body : StringAt text s rest) :
    Parses (34 :: text) (.value (.str s)) rest
  | emptyArray {text rest : Text} (close : Spaces text (93 :: rest)) :
    Parses (91 :: text) (.value (.arr [])) rest
  | array {text rest : Text} {items : List Json} (inside : Parses text (.items items) rest) :
    Parses (91 :: text) (.value (.arr items)) rest
  | emptyObject {text rest : Text} (close : Spaces text (125 :: rest)) :
    Parses (123 :: text) (.value (.obj [])) rest
  | object {text rest : Text} {fields : List (String × Json)}
      (inside : Parses text (.fields fields) rest) : Parses (123 :: text) (.value (.obj fields)) rest
  | lastItem {text front back rest : Text} {j : Json} (before : Spaces text front)
      (value : Parses front (.value j) back) (close : Spaces back (93 :: rest)) :
    Parses text (.items [j]) rest
  | nextItem {text front back more rest : Text} {j : Json} {items : List Json}
      (before : Spaces text front) (value : Parses front (.value j) back)
      (comma : Spaces back (44 :: more)) (next : Parses more (.items items) rest) :
    Parses text (.items (j :: items)) rest
  | lastField {text name colon space front back rest : Text} {key : String} {j : Json}
      (before : Spaces text (34 :: name)) (named : StringAt name key colon)
      (after : Spaces colon (58 :: space)) (behind : Spaces space front)
      (value : Parses front (.value j) back) (close : Spaces back (125 :: rest)) :
    Parses text (.fields [(key, j)]) rest
  | nextField {text name colon space front back more rest : Text} {key : String} {j : Json}
      {fields : List (String × Json)} (before : Spaces text (34 :: name))
      (named : StringAt name key colon) (after : Spaces colon (58 :: space))
      (behind : Spaces space front) (value : Parses front (.value j) back)
      (comma : Spaces back (44 :: more)) (next : Parses more (.fields fields) rest) :
    Parses text (.fields (JsonCodec.addMember key j fields)) rest

/-- The whole text is one value. -/
def Document (text : Text) (j : Json) : Prop :=
  ∃ front back, Spaces text front ∧ Parses front (.value j) back ∧ Spaces back []

/-! ### What is left of a text -/

theorem Spaces.suffix {text rest : Text} (spaces : Spaces text rest) : rest <:+ text := by
  induction spaces with
  | nil => exact List.suffix_refl _
  | cons _ _ ih => exact ih.trans (List.suffix_cons ..)

theorem Spaces.length_le {text rest : Text} (spaces : Spaces text rest) :
    rest.length ≤ text.length :=
  spaces.suffix.length_le

/-- A byte that is no space is where the spaces end. -/
theorem Spaces.eq_of_solid {b : UInt8} {text rest : Text} (spaces : Spaces (b :: text) rest)
    (solid : ¬ isSpace b) : rest = b :: text := by
  cases spaces with
  | nil => rfl
  | cons space _ => exact absurd space solid

theorem StringBody.suffix {text body rest : Text} (string : StringBody text body rest) :
    rest <:+ text := by
  induction string with
  | close => exact List.suffix_cons ..
  | plain _ _ ih => exact ih.trans (List.suffix_cons ..)
  | short _ _ ih => exact ih.trans ⟨[_, _], rfl⟩
  | unicode _ _ _ ih => exact ih.trans ⟨[_, _, _, _, _, _], rfl⟩
  | surrogates _ _ _ _ _ ih => exact ih.trans ⟨[_, _, _, _, _, _, _, _, _, _, _, _], rfl⟩

/-- A string is as long as its text if every byte stands for itself, and shorter otherwise. -/
theorem StringBody.length {text body rest : Text} (string : StringBody text body rest) :
    (text = body ++ 34 :: rest ∧ ∀ b ∈ body, Plain b) ∨
      body.length + 1 + rest.length < text.length := by
  have bound (c : Char) : (String.utf8EncodeChar c).length ≤ 4 := by
    rw [String.length_utf8EncodeChar]
    exact Char.utf8Size_le_four c
  have le {text body rest : Text} (whole : (text = body ++ 34 :: rest ∧ ∀ b ∈ body, Plain b) ∨
      body.length + 1 + rest.length < text.length) : body.length + 1 + rest.length ≤ text.length := by
    rcases whole with ⟨rfl, _⟩ | short
    · simp only [List.length_append, List.length_cons]
      omega
    · omega
  induction string with
  | close => exact .inl ⟨rfl, by simp⟩
  | plain plain _ ih =>
    rcases ih with ⟨rfl, each⟩ | short
    · exact .inl ⟨rfl, by simpa [plain] using each⟩
    · right
      simp only [List.length_cons]
      omega
  | short _ _ ih =>
    have shorter := le ih
    right
    simp only [List.length_cons]
    omega
  | unicode _ _ _ ih =>
    have shorter := le ih
    have few := bound (Char.ofNat ‹Nat›)
    right
    simp only [List.length_cons, List.length_append]
    omega
  | @surrogates a b c d a' b' c' d' high low text body rest first isHigh second isLow more ih =>
    have shorter := le ih
    have few := bound (Char.ofNat (0x10000 + (high - 0xD800) * 1024 + (low - 0xDC00)))
    right
    simp only [List.length_cons, List.length_append]
    omega

theorem StringBody.length_le {text body rest : Text} (string : StringBody text body rest) :
    body.length + 1 + rest.length ≤ text.length := by
  rcases string.length with ⟨rfl, _⟩ | short
  · simp only [List.length_append, List.length_cons]
    omega
  · omega

/-- A string of plain bytes. -/
theorem StringBody.prepend {front : Text} (plain : ∀ b ∈ front, Plain b) {text body rest : Text}
    (more : StringBody text body rest) : StringBody (front ++ text) (front ++ body) rest := by
  induction front with
  | nil => exact more
  | cons b front ih =>
    exact .plain (plain b (by simp)) (ih fun c member => plain c (by simp [member]))

theorem stringBody_plain {body : Text} (plain : ∀ b ∈ body, Plain b) (rest : Text) :
    StringBody (body ++ 34 :: rest) body rest := by
  have whole := StringBody.prepend plain (.close rest)
  rwa [List.append_nil] at whole

/-- And no other string is read there. -/
theorem StringBody.eq_of_plain {lead tail body rest : Text}
    (string : StringBody (lead ++ 34 :: tail) body rest) (plain : ∀ b ∈ lead, Plain b) :
    body = lead ∧ rest = tail := by
  induction lead generalizing body with
  | nil =>
    generalize whole : [] ++ 34 :: tail = text at string
    cases string with
    | close => exact ⟨rfl, by simpa using whole.symm⟩
    | plain plain =>
      cases whole
      exact absurd rfl plain.2.1
    | _ => cases whole
  | cons b lead ih =>
    have here := plain b (by simp)
    generalize whole : (b :: lead) ++ 34 :: tail = text at string
    cases string with
    | plain _ more =>
      cases whole
      obtain ⟨rfl, rfl⟩ := ih more fun c member => plain c (by simp [member])
      exact ⟨rfl, rfl⟩
    | close => exact absurd (List.cons.inj whole).1 here.2.1
    | _ => exact absurd (List.cons.inj whole).1 here.2.2

theorem StringAt.suffix {text rest : Text} {s : String} (string : StringAt text s rest) :
    rest <:+ text := by
  obtain ⟨body, read, _⟩ := string
  exact read.suffix

theorem utf8_of_ofUtf8 {bytes : Text} {s : String} (valid : JsonCodec.ofUtf8 bytes = some s) :
    JsonCodec.utf8 s = bytes := by
  rw [JsonCodec.ofUtf8, String.fromUTF8?] at valid
  split at valid
  · cases valid
    rfl
  · cases valid

theorem StringAt.length_le {text rest : Text} {s : String} (string : StringAt text s rest) :
    (JsonCodec.utf8 s).length + 1 + rest.length ≤ text.length := by
  obtain ⟨body, read, valid⟩ := string
  rw [utf8_of_ofUtf8 valid]
  exact read.length_le

theorem Parses.suffix {text rest : Text} {part : Part} (parses : Parses text part rest) :
    rest <:+ text := by
  induction parses with
  | nullValue => exact ⟨[110, 117, 108, 108], rfl⟩
  | trueValue => exact ⟨[116, 114, 117, 101], rfl⟩
  | falseValue => exact ⟨[102, 97, 108, 115, 101], rfl⟩
  | number => exact List.suffix_append ..
  | string body => exact body.suffix.trans (List.suffix_cons ..)
  | emptyArray close | emptyObject close =>
    exact ((List.suffix_cons ..).trans close.suffix).trans (List.suffix_cons ..)
  | array _ ih | object _ ih => exact ih.trans (List.suffix_cons ..)
  | lastItem before _ close ih =>
    exact (((List.suffix_cons ..).trans close.suffix).trans ih).trans before.suffix
  | nextItem before _ comma _ value next =>
    exact ((((next.trans (List.suffix_cons ..)).trans comma.suffix).trans value).trans before.suffix)
  | lastField before named after behind _ close ih =>
    have inside := ((List.suffix_cons ..).trans close.suffix).trans (ih.trans behind.suffix)
    exact (((inside.trans (List.suffix_cons ..)).trans after.suffix).trans named.suffix).trans
      ((List.suffix_cons ..).trans before.suffix)
  | nextField before named after behind _ comma _ value next =>
    have inside := ((next.trans (List.suffix_cons ..)).trans comma.suffix).trans
      (value.trans behind.suffix)
    exact (((inside.trans (List.suffix_cons ..)).trans after.suffix).trans named.suffix).trans
      ((List.suffix_cons ..).trans before.suffix)

/-! ### Room for the strings of a value -/

/-- The bytes of the names of a path, with their quotes. -/
def pathLength (path : List String) : Nat :=
  (path.map fun key => (JsonCodec.utf8 key).length + 2).sum

/-- Every string of the part has its place in `room` bytes, with the names on the way to it. -/
def Part.Within (room : Nat) : Part → Prop
  | .value j => ∀ path s, j.lookup path = some (.str s) →
    pathLength path + (JsonCodec.utf8 s).length + 2 ≤ room
  | .items _ => True
  | .fields members => ∀ key v path s, OrderedMap.find? key members = some v →
    v.lookup path = some (.str s) →
    pathLength (key :: path) + (JsonCodec.utf8 s).length + 2 ≤ room

/-- A value without members holds no string but itself. -/
theorem eq_str_of_lookup {j : Json} (simple : j.isObject = false) {path : List String} {s : String}
    (found : j.lookup path = some (.str s)) : path = [] ∧ j = .str s := by
  cases path with
  | nil => exact ⟨rfl, Option.some.inj found⟩
  | cons key path =>
    obtain ⟨child, member, _⟩ := Option.bind_eq_some_iff.mp found
    rw [Json.isObject_of_get? member] at simple
    cases simple

theorem Number.not_str {token : Text} {j : Json} (number : Number token j) :
    j.isObject = false ∧ ∀ s, j ≠ .str s := by
  cases number <;> exact ⟨rfl, fun _ same => by cases same⟩

theorem find?_addMember {key other : String} {j v : Json} {fields : List (String × Json)}
    (found : OrderedMap.find? other (JsonCodec.addMember key j fields) = some v) :
    OrderedMap.find? other fields = some v ∨ other = key ∧ v = j := by
  rw [JsonCodec.addMember] at found
  split at found
  · exact .inl found
  · by_cases same : other = key
    · subst same
      rw [OrderedMap.find?_set_self] at found
      exact .inr ⟨rfl, (Option.some.inj found).symm⟩
    · rw [OrderedMap.find?_set_of_ne same] at found
      exact .inl found

theorem Parses.within {text rest : Text} {part : Part} (parses : Parses text part rest) :
    ∀ room, text.length ≤ room + rest.length → part.Within room := by
  have simple {j : Json} (plain : j.isObject = false) (other : ∀ s, j ≠ .str s) (room : Nat) :
      (Part.value j).Within room := fun _ s found =>
    absurd (eq_str_of_lookup plain found).2 (other s)
  -- One member: its name, the bytes around it, and its value.
  have member {text name colon space front : Text} {key : String}
      (before : Spaces text (34 :: name)) (named : StringAt name key colon)
      (after : Spaces colon (58 :: space)) (behind : Spaces space front) :
      (JsonCodec.utf8 key).length + 3 + front.length ≤ text.length := by
    have first := before.length_le
    have second := named.length_le
    have third := after.length_le
    have fourth := behind.length_le
    simp only [List.length_cons] at first third
    omega
  induction parses with
  | nullValue | trueValue | falseValue | emptyArray | array =>
    intro room _
    exact simple rfl (fun _ same => by cases same) room
  | number number =>
    intro room _
    exact simple number.not_str.1 number.not_str.2 room
  | string body =>
    rintro room enough path s found
    obtain ⟨rfl, same⟩ := eq_str_of_lookup rfl found
    cases same
    have long := body.length_le
    simp only [List.length_cons] at enough
    simp only [pathLength, List.map_nil, List.sum_nil]
    omega
  | emptyObject =>
    rintro room _ (_ | ⟨key, path⟩) s found
    · cases found
    · cases found
  | @object text rest fields inside ih =>
    rintro room enough (_ | ⟨key, path⟩) s found
    · cases found
    · obtain ⟨v, here, there⟩ := Option.bind_eq_some_iff.mp found
      refine ih room ?_ key v path s here there
      simp only [List.length_cons] at enough
      omega
  | lastItem | nextItem => exact fun _ _ => trivial
  | @lastField text name colon space front back rest key j before named after behind value close ih =>
    intro room enough other v path s found there
    have around := member before named after behind
    have last := close.length_le
    have shorter := value.suffix.length_le
    simp only [List.length_cons] at last
    have same : other = key ∧ j = v := by simpa [OrderedMap.find?] using found
    obtain ⟨rfl, rfl⟩ := same
    have room' := ih (front.length - back.length) (by omega) path s there
    simp only [pathLength, List.map_cons, List.sum_cons] at room' ⊢
    omega
  | @nextField text name colon space front back more rest key j fields before named after behind value
      comma next ih later =>
    intro room enough other v path s found there
    have around := member before named after behind
    have last := comma.length_le
    have shorter := value.suffix.length_le
    have tail := next.suffix.length_le
    simp only [List.length_cons] at last
    rcases find?_addMember found with old | ⟨rfl, rfl⟩
    · have room' := later (more.length - rest.length) (by omega) other v path s old there
      omega
    · have room' := ih (front.length - back.length) (by omega) path s there
      simp only [pathLength, List.map_cons, List.sum_cons] at room' ⊢
      omega

/-! ### Reading a text from its front -/

/-- The bytes of numbers. -/
def NumberByte (b : UInt8) : Prop := isDigit b ∨ b ∈ [43, 45, 46, 69, 101]

instance (b : UInt8) : Decidable (NumberByte b) := inferInstanceAs (Decidable (_ ∨ _))

theorem Number.token {token : Text} {j : Json} (number : Number token j) :
    token ≠ [] ∧ ∀ b ∈ token, NumberByte b := by
  have digits {text : Text} (all : AllDigits text) : ∀ b ∈ text, NumberByte b :=
    fun b member => .inl (all.2 b member)
  cases number with
  | unsigned whole => exact ⟨whole.digits.1, digits whole.digits⟩
  | negative whole =>
    refine ⟨by simp, fun b member => ?_⟩
    rcases List.mem_cons.mp member with rfl | later
    · decide
    · exact digits whole.digits b later
  | @fraction sign whole fraction exponent x signed isWhole fractional scaled real =>
    refine ⟨by simp [isWhole.digits.1], fun b member => ?_⟩
    simp only [List.mem_append, or_assoc] at member
    rcases member with first | second | third | fourth
    · rcases signed with rfl | rfl
      · cases first
      · rw [List.mem_singleton.mp first]
        decide
    · exact digits isWhole.digits b second
    · rcases fractional with rfl | ⟨text, rfl, all⟩
      · cases third
      · rcases List.mem_cons.mp third with rfl | later
        · decide
        · exact digits all b later
    · rcases scaled with rfl | ⟨e, sign, text, rfl, letter, signed, all⟩
      · cases fourth
      · simp only [List.cons_append, List.mem_cons, List.mem_append] at fourth
        rcases fourth with rfl | here | later
        · rcases letter with rfl | rfl <;> decide
        · rcases signed with rfl | rfl | rfl
          · cases here
          · rw [List.mem_singleton.mp here]
            decide
          · rw [List.mem_singleton.mp here]
            decide
        · exact digits all b later

/-- A text that does not begin with the byte of a number. -/
theorem Number.not_front {token text rest : Text} {j : Json} {b : UInt8} (number : Number token j)
    (other : ¬ NumberByte b) : b :: text ≠ token ++ rest := by
  intro same
  obtain ⟨some, each⟩ := number.token
  cases token with
  | nil => exact some rfl
  | cons c token =>
    cases same
    exact other (each b (by simp))

theorem Parses.of_quote {text rest : Text} {j : Json} (parses : Parses (34 :: text) (.value j) rest) :
    ∃ s, j = .str s ∧ StringAt text s rest := by
  generalize whole : 34 :: text = front at parses
  cases parses with
  | string body =>
    cases whole
    exact ⟨_, rfl, body⟩
  | number number => exact absurd whole (number.not_front (by decide))
  | _ => cases whole

theorem Parses.of_brace {text rest : Text} {j : Json} (parses : Parses (123 :: text) (.value j) rest) :
    (j = .obj [] ∧ Spaces text (125 :: rest)) ∨
      ∃ fields, j = .obj fields ∧ Parses text (.fields fields) rest := by
  generalize whole : 123 :: text = front at parses
  cases parses with
  | emptyObject close =>
    cases whole
    exact .inl ⟨rfl, close⟩
  | object inside =>
    cases whole
    exact .inr ⟨_, rfl, inside⟩
  | number number => exact absurd whole (number.not_front (by decide))
  | _ => cases whole

/-- What follows the value of a member. -/
def Continues (key : String) (j : Json) (fields : List (String × Json)) (back rest : Text) : Prop :=
  (Spaces back (125 :: rest) ∧ fields = [(key, j)]) ∨
    ∃ more later, Spaces back (44 :: more) ∧ Parses more (.fields later) rest ∧
      fields = JsonCodec.addMember key j later

/-- A member whose name is plain. -/
theorem Parses.of_member {name front rest : Text} {b : UInt8} {fields : List (String × Json)}
    (parses : Parses (34 :: (name ++ 34 :: 58 :: b :: front)) (.fields fields) rest)
    (plain : ∀ c ∈ name, Plain c) (solid : ¬ isSpace b) :
    ∃ key j back, JsonCodec.ofUtf8 name = some key ∧ Parses (b :: front) (.value j) back ∧
      Continues key j fields back rest := by
  have quote : ¬ isSpace 34 := by decide
  have colon : ¬ isSpace 58 := by decide
  have read {text after space behind : Text} {key : String}
      (before : Spaces (34 :: (name ++ 34 :: 58 :: b :: front)) (34 :: text))
      (named : StringAt text key after) (at' : Spaces after (58 :: space))
      (skipped : Spaces space behind) : JsonCodec.ofUtf8 name = some key ∧ behind = b :: front := by
    cases before.eq_of_solid quote
    obtain ⟨body, string, valid⟩ := named
    obtain ⟨rfl, rfl⟩ := string.eq_of_plain plain
    cases at'.eq_of_solid colon
    exact ⟨valid, skipped.eq_of_solid solid⟩
  generalize whole : 34 :: (name ++ 34 :: 58 :: b :: front) = text at parses
  cases parses with
  | lastField before named after behind value close =>
    subst whole
    obtain ⟨valid, rfl⟩ := read before named after behind
    exact ⟨_, _, _, valid, value, .inl ⟨close, rfl⟩⟩
  | nextField before named after behind value comma next =>
    subst whole
    obtain ⟨valid, rfl⟩ := read before named after behind
    exact ⟨_, _, _, valid, value, .inr ⟨_, _, comma, next, rfl⟩⟩

theorem Continues.length_lt {key : String} {j : Json} {fields : List (String × Json)}
    {back rest : Text} (continues : Continues key j fields back rest) :
    rest.length < back.length := by
  rcases continues with ⟨close, _⟩ | ⟨more, later, comma, next, _⟩
  · exact close.length_le
  · have first := comma.length_le
    have second := next.suffix.length_le
    simp only [List.length_cons] at first
    omega

/-- A member is the one that has been read, or it comes later and has its place there. -/
theorem Continues.found {key other : String} {j v : Json} {fields : List (String × Json)}
    {back rest : Text} (continues : Continues key j fields back rest)
    (found : OrderedMap.find? other fields = some v) :
    (other = key ∧ v = j) ∨ ∀ path s, v.lookup path = some (.str s) →
      pathLength (other :: path) + (JsonCodec.utf8 s).length + 2 < back.length := by
  rcases continues with ⟨_, rfl⟩ | ⟨more, later, comma, next, rfl⟩
  · have same : other = key ∧ j = v := by simpa [OrderedMap.find?] using found
    exact .inl ⟨same.1, same.2.symm⟩
  · rcases find?_addMember found with old | same
    · right
      intro path s there
      have room := next.within more.length (by omega) other v path s old there
      have shorter := comma.length_le
      simp only [List.length_cons] at shorter
      omega
    · exact .inl same

/-- A string of plain bytes is a value. -/
theorem stringAt_plain {body : Text} {s : String} (plain : ∀ b ∈ body, Plain b)
    (valid : JsonCodec.ofUtf8 body = some s) (rest : Text) :
    StringAt (body ++ 34 :: rest) s rest :=
  ⟨body, stringBody_plain plain rest, valid⟩

section

variable {name front back rest : Text} {key : String} {j : Json} (plain : ∀ b ∈ name, Plain b)
  (valid : JsonCodec.ofUtf8 name = some key) (value : Parses front (.value j) back)

include plain valid value

theorem parses_lastMember (close : Spaces back (125 :: rest)) :
    Parses (34 :: (name ++ 34 :: 58 :: front)) (.fields [(key, j)]) rest :=
  .lastField (.nil _) (stringAt_plain plain valid _) (.nil _) (.nil _) value close

theorem parses_nextMember {more : Text} {later : List (String × Json)}
    (comma : Spaces back (44 :: more)) (next : Parses more (.fields later) rest) :
    Parses (34 :: (name ++ 34 :: 58 :: front)) (.fields (JsonCodec.addMember key j later)) rest :=
  .nextField (.nil _) (stringAt_plain plain valid _) (.nil _) (.nil _) value comma next

end

end LorawanFeeds.Lib.JsonGrammar
