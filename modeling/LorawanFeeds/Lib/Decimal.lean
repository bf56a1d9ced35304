import Mathlib.Data.Nat.Init

/-!
# Decimal numbers

How a number is written in decimal digits, and a reader for it.
-/
namespace LorawanFeeds.Lib.Decimal

def digit (n : Nat) : Char := Char.ofNat (48 + n)

def writeNat (n : Nat) : List Char :=
  if n < 10 then [digit n] else writeNat (n / 10) ++ [digit (n % 10)]

def isDigit (c : Char) : Bool := '0' ≤ c ∧ c ≤ '9'

def readNat (value : Nat) : List Char → Nat × List Char
  | c :: rest => if isDigit c then readNat (value * 10 + (c.toNat - 48)) rest else (value, c :: rest)
  | [] => (value, [])

/-- What follows a number does not go on with it. -/
def Ended (rest : List Char) : Prop := ∀ c ∈ rest.head?, isDigit c = false

theorem isDigit_digit : ∀ n < 10, isDigit (digit n) = true ∧ (digit n).toNat - 48 = n := by decide

theorem readNat_ended (value : Nat) {rest : List Char} (ended : Ended rest) :
    readNat value rest = (value, rest) := by
  cases rest with
  | nil => rfl
  | cons c rest => simp [readNat, ended c rfl]

theorem readNat_writeNat (n : Nat) : ∃ scale, ∀ value rest,
    readNat value (writeNat n ++ rest) = readNat (value * scale + n) rest := by
  induction n using Nat.strong_induction_on with
  | _ n ih =>
    rw [writeNat]
    split
    next small =>
      obtain ⟨isOne, back⟩ := isDigit_digit n small
      exact ⟨10, fun value rest => by simp [readNat, isOne, back]⟩
    next large =>
      obtain ⟨scale, front⟩ := ih (n / 10) (by omega)
      obtain ⟨isOne, back⟩ := isDigit_digit (n % 10) (by omega)
      refine ⟨scale * 10, fun value rest => ?_⟩
      rw [List.append_assoc, front]
      simp only [List.cons_append, List.nil_append, readNat, isOne, if_true, back]
      congr 1
      rw [Nat.add_mul, Nat.mul_assoc]
      omega

theorem readNat_write (n : Nat) {rest : List Char} (ended : Ended rest) :
    readNat 0 (writeNat n ++ rest) = (n, rest) := by
  obtain ⟨scale, written⟩ := readNat_writeNat n
  rw [written, Nat.zero_mul, Nat.zero_add, readNat_ended n ended]

/-- The first character of a number is a digit. -/
theorem writeNat_head (n : Nat) : ∃ c tail, writeNat n = c :: tail ∧ isDigit c = true := by
  induction n using Nat.strong_induction_on with
  | _ n ih =>
    rw [writeNat]
    split
    next small => exact ⟨_, [], rfl, (isDigit_digit n small).1⟩
    next large =>
      obtain ⟨c, tail, eq, isOne⟩ := ih (n / 10) (by omega)
      exact ⟨c, tail ++ [digit (n % 10)], by rw [eq]; rfl, isOne⟩

theorem isDigit_of_mem_writeNat (n : Nat) : ∀ c ∈ writeNat n, isDigit c = true := by
  induction n using Nat.strong_induction_on with
  | _ n ih =>
    intro c member
    rw [writeNat] at member
    split at member
    next small =>
      rw [List.mem_singleton.mp member]
      exact (isDigit_digit n small).1
    next large =>
      rcases List.mem_append.mp member with front | last
      · exact ih (n / 10) (by omega) c front
      · rw [List.mem_singleton.mp last]
        exact (isDigit_digit (n % 10) (by omega)).1

end LorawanFeeds.Lib.Decimal
