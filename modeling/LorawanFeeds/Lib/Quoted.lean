import Mathlib.Data.List.Basic

/-!
# Quoted strings

Strings between quotes with the escapes that JSON and TOML share, and a reader for them.
-/
namespace LorawanFeeds.Lib.Quoted

def hexDigit (n : Nat) : Char := if n < 10 then Char.ofNat (48 + n) else Char.ofNat (87 + n)

def hexValue (c : Char) : Option Nat :=
  if '0' ≤ c ∧ c ≤ '9' then some (c.toNat - 48)
  else if 'a' ≤ c ∧ c ≤ 'f' then some (c.toNat - 87)
  else none

/-- The characters that have an escape of two characters. -/
def shortEscapes : List (Char × Char) :=
  [('"', '"'), ('\\', '\\'), (Char.ofNat 8, 'b'), (Char.ofNat 12, 'f'), ('\n', 'n'), ('\r', 'r'),
    ('\t', 't')]

def escape (c : Char) : List Char :=
  match shortEscapes.lookup c with
  | some short => ['\\', short]
  | none =>
    if c.toNat < 32 then ['\\', 'u', '0', '0', hexDigit (c.toNat / 16), hexDigit (c.toNat % 16)]
    else [c]

def writeString (s : String) : List Char := '"' :: (s.toList.flatMap escape ++ ['"'])

/-- The rest of a string after its opening quote. -/
def readString : List Char → Option (List Char × List Char)
  | '"' :: rest => some ([], rest)
  | '\\' :: 'u' :: '0' :: '0' :: a :: b :: rest =>
    match hexValue a, hexValue b, readString rest with
    | some a, some b, some (s, rest) => some (Char.ofNat (16 * a + b) :: s, rest)
    | _, _, _ => none
  | '\\' :: short :: rest =>
    match shortEscapes.find? (·.2 = short), readString rest with
    | some (c, _), some (s, rest) => some (c :: s, rest)
    | _, _ => none
  | c :: rest =>
    if c.toNat < 32 then none else (readString rest).map fun (s, rest) => (c :: s, rest)
  | [] => none

theorem hexValue_hexDigit : ∀ n < 16, hexValue (hexDigit n) = some n := by decide

/-- The escapes of two characters are read back. -/
theorem readString_short {c short : Char} (found : shortEscapes.lookup c = some short)
    (rest : List Char) :
    readString ('\\' :: short :: rest) = (readString rest).map fun (s, rest) => (c :: s, rest) := by
  have member : (c, short) ∈ shortEscapes := by
    obtain ⟨before, after, eq, _⟩ := List.lookup_eq_some_iff.mp found
    rw [eq]
    simp
  simp only [shortEscapes, List.mem_cons, Prod.mk.injEq, List.not_mem_nil, or_false] at member
  rcases member with ⟨rfl, rfl⟩ | ⟨rfl, rfl⟩ | ⟨rfl, rfl⟩ | ⟨rfl, rfl⟩ | ⟨rfl, rfl⟩ | ⟨rfl, rfl⟩ |
      ⟨rfl, rfl⟩ <;>
    (rw [readString]
     · cases readString rest <;> rfl
     all_goals simp)

theorem readString_escape (c : Char) (rest : List Char) :
    readString (escape c ++ rest) = (readString rest).map fun (s, rest) => (c :: s, rest) := by
  rw [escape]
  split
  next short found => exact readString_short found rest
  next plain =>
    split
    next control =>
      have high := hexValue_hexDigit (c.toNat / 16) (by omega)
      have low := hexValue_hexDigit (c.toNat % 16) (by omega)
      have whole : Char.ofNat (16 * (c.toNat / 16) + c.toNat % 16) = c := by
        rw [Nat.div_add_mod]
        exact Char.ofNat_toNat c
      simp only [List.cons_append, List.nil_append, readString, high, low]
      cases readString rest with
      | none => rfl
      | some tail => simp only [whole, Option.map_some]
    next printed =>
      have noQuote : c ≠ '"' := by
        rintro rfl
        simp [shortEscapes] at plain
      have noBackslash : c ≠ '\\' := by
        rintro rfl
        simp [shortEscapes] at plain
      simp only [List.cons_append, List.nil_append]
      rw [readString, if_neg printed]
      · exact noQuote
      · exact fun _ _ _ same => absurd same noBackslash
      · exact fun _ _ same => absurd same noBackslash

theorem readString_write (s rest : List Char) :
    readString (s.flatMap escape ++ '"' :: rest) = some (s, rest) := by
  induction s with
  | nil => simp [readString]
  | cons c s ih =>
    rw [List.flatMap_cons, List.append_assoc, readString_escape, ih]
    rfl

end LorawanFeeds.Lib.Quoted
