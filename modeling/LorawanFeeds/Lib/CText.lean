import Mathlib.Algebra.Group.Int.Defs
import Mathlib.Algebra.Group.Nat.Defs
import Mathlib.Data.List.TakeWhile
import LorawanFeeds.Lib.Decimal

/-!
# Texts of C

The functions of the C library that take a text apart. A text ends at its first null character,
`strtok` returns no token where none is left, and `atoi` has a value only for a number that fits in
an `int`.
-/
namespace LorawanFeeds.Lib.CText

open Decimal

/-- `s.c_str()` as the functions of C see it. -/
def cString (s : String) : List Char := s.toList.takeWhile (· ≠ Char.ofNat 0)

/-- `strtok`: the next token, and where the search goes on. -/
def strtok (delimiter : Char) (text : List Char) : Option (List Char × List Char) :=
  match text.dropWhile (· = delimiter) with
  | [] => none
  | c :: more => some ((c :: more).takeWhile (· ≠ delimiter),
      ((c :: more).dropWhile (· ≠ delimiter)).drop 1)

/-- `isspace`. -/
def isspace (c : Char) : Bool :=
  c = ' ' ∨ (9 ≤ c.toNat ∧ c.toNat ≤ 13)

/-- An `int`, where the number is one. -/
def toInt (i : Int) : Option Int32 :=
  if -2 ^ 31 ≤ i ∧ i < 2 ^ 31 then some (Int32.ofInt i) else none

/-- `atoi`; it is undefined where the number does not fit. -/
def atoi (text : List Char) : Option Int32 :=
  match text.dropWhile isspace with
  | '-' :: digits => toInt (-(readNat 0 digits).1)
  | '+' :: digits => toInt (readNat 0 digits).1
  | digits => toInt (readNat 0 digits).1

/-- `strstr`: what follows the first place where `needle` stands. -/
def strstr {α : Type} [DecidableEq α] (needle : List α) : List α → Option (List α)
  | [] => if needle = [] then some [] else none
  | c :: rest =>
    if needle.isPrefixOf (c :: rest) then some ((c :: rest).drop needle.length)
    else strstr needle rest

theorem cString_eq {s : String} (whole : Char.ofNat 0 ∉ s.toList) : cString s = s.toList := by
  rw [cString, List.takeWhile_eq_self_iff]
  intro c member
  simp only [ne_eq, decide_not, Bool.not_eq_true', decide_eq_false_iff_not]
  rintro rfl
  exact whole member

section

variable {delimiter : Char} {token : List Char}

theorem dropWhile_token (some : token ≠ []) (free : delimiter ∉ token) (rest : List Char) :
    (token ++ rest).dropWhile (· = delimiter) = token ++ rest := by
  cases token with
  | nil => exact absurd rfl some
  | cons c token =>
    have different : c ≠ delimiter := by
      rintro rfl
      exact free (by simp)
    simp [different]

theorem takeWhile_token (free : delimiter ∉ token) (rest : List Char) :
    (token ++ delimiter :: rest).takeWhile (· ≠ delimiter) = token ∧
    (token ++ delimiter :: rest).dropWhile (· ≠ delimiter) = delimiter :: rest := by
  induction token with
  | nil => simp
  | cons c token ih =>
    have different : c ≠ delimiter := by
      rintro rfl
      exact free (by simp)
    obtain ⟨take, drop⟩ := ih fun member => free (by simp [member])
    simp only [ne_eq, decide_not] at take drop
    simp [different, take, drop]

/-- A token with a delimiter after it. -/
theorem strtok_token (some : token ≠ []) (free : delimiter ∉ token) (rest : List Char) :
    strtok delimiter (token ++ delimiter :: rest) = Option.some (token, rest) := by
  rw [strtok, dropWhile_token some free]
  obtain ⟨take, drop⟩ := takeWhile_token free rest
  cases eq : token ++ delimiter :: rest with
  | nil => simp at eq
  | cons c more =>
    rw [eq] at take drop
    simp only [take, drop, List.drop_one, List.tail_cons]

/-- The last token. -/
theorem strtok_last (some : token ≠ []) (free : delimiter ∉ token) :
    strtok delimiter token = Option.some (token, []) := by
  have start := dropWhile_token some free []
  rw [List.append_nil] at start
  rw [strtok, start]
  have all : ∀ c ∈ token, (decide (c ≠ delimiter)) = true := by
    intro c member
    simp only [ne_eq, decide_not, Bool.not_eq_true', decide_eq_false_iff_not]
    rintro rfl
    exact free member
  cases token with
  | nil => exact absurd rfl some
  | cons c token =>
    have taken := List.takeWhile_eq_self_iff.mpr all
    have dropped := List.dropWhile_eq_nil_iff.mpr all
    simp only [taken, dropped, List.drop_nil]

end

/-- The characters that mean something to these functions are no digits. -/
theorem ne_of_isDigit {c other : Char} (one : isDigit c = true) (special : isDigit other = false) :
    c ≠ other := by
  rintro rfl
  exact absurd one (by simp [special])

theorem isspace_of_isDigit {c : Char} (one : isDigit c = true) : isspace c = false := by
  have least : 48 ≤ c.toNat := by
    simp only [isDigit, Bool.decide_and, Bool.and_eq_true, decide_eq_true_eq] at one
    exact one.1
  have blank : c ≠ ' ' := ne_of_isDigit one rfl
  simp only [isspace, Bool.decide_or, Bool.or_eq_false_iff, decide_eq_false_iff_not]
  exact ⟨blank, by omega⟩

/-- A text that begins with a digit is a number without a sign. -/
theorem atoi_of_isDigit {c : Char} (one : isDigit c = true) (rest : List Char) :
    atoi (c :: rest) = toInt (readNat 0 (c :: rest)).1 := by
  rw [atoi, List.dropWhile_cons_of_neg (by simp [isspace_of_isDigit one])]
  split
  next sign => exact absurd (List.cons.inj sign).1 (ne_of_isDigit one rfl)
  next sign => exact absurd (List.cons.inj sign).1 (ne_of_isDigit one rfl)
  next => rfl

/-- A written number is read back, if it fits. -/
theorem atoi_writeNat {n : Nat} (fits : n < 2 ^ 31) : atoi (writeNat n) = some (Int32.ofNat n) := by
  obtain ⟨c, tail, eq, isOne⟩ := writeNat_head n
  have read : readNat 0 (writeNat n) = (n, []) := by
    simpa using @readNat_write n [] (by rintro _ ⟨⟩)
  have value : toInt n = some (Int32.ofNat n) := by
    rw [toInt, if_pos (by omega)]
    rfl
  rw [eq] at read ⊢
  rw [atoi_of_isDigit isOne, read, value]

end LorawanFeeds.Lib.CText
