import Mathlib.Data.List.Chain
import LorawanFeeds.Lib.Quoted

/-!
# Pairs of adjacent characters

Texts in which one character never comes right before another one, and how escaping and quoting
keep them so.
-/
namespace LorawanFeeds.Lib

/-- `a` is nowhere followed by `b`. -/
def Unpaired (a b : Char) (text : List Char) : Prop := text.IsChain fun x y => ¬ (x = a ∧ y = b)

theorem unpaired_iff (a b : Char) (text : List Char) : Unpaired a b text ↔ ¬ [a, b] <:+: text := by
  rw [Unpaired, List.isChain_iff_forall_rel_of_append_cons_cons]
  constructor
  · rintro free ⟨before, after, eq⟩
    exact @free a b before after (by rw [← eq]; simp) ⟨rfl, rfl⟩
  · rintro free x y before after rfl ⟨rfl, rfl⟩
    exact free ⟨before, after, by simp⟩

section

variable {a b c : Char} {first second text : List Char}

theorem unpaired_append : Unpaired a b (first ++ second) ↔ Unpaired a b first ∧ Unpaired a b second ∧
    (first.getLast? = some a → second.head? ≠ some b) := by
  rw [Unpaired, List.isChain_append]
  refine and_congr Iff.rfl (and_congr Iff.rfl ?_)
  constructor
  · intro free last head
    exact free a last b head ⟨rfl, rfl⟩
  · rintro free x last y head ⟨rfl, rfl⟩
    exact free last head

theorem unpaired_nil : Unpaired a b [] := .nil

theorem unpaired_singleton : Unpaired a b [c] := .singleton c

theorem unpaired_cons : Unpaired a b (c :: text) ↔ Unpaired a b text ∧ (c = a → text.head? ≠ some b) := by
  have split := @unpaired_append a b [c] text
  rw [List.singleton_append] at split
  rw [split]
  simp [unpaired_singleton]

/-- Without the first character there is no pair. -/
theorem unpaired_of_notMem (absent : a ∉ text) : Unpaired a b text := by
  induction text with
  | nil => exact unpaired_nil
  | cons c text ih =>
    rw [List.mem_cons, not_or] at absent
    exact unpaired_cons.mpr ⟨ih absent.2, fun same => absurd same.symm absent.1⟩

end

namespace Quoted

/-- The characters that an escape is made of. -/
def escapeChars : List Char := '\\' :: '"' :: "bfnrtu0123456789abcdef".toList

theorem hexDigit_mem : ∀ n < 16, hexDigit n ∈ escapeChars := by decide

/-- A character is written as it is, or as characters of escapes with a backslash at the front. -/
theorem escape_cases (c : Char) : (escape c = [c] ∧ c ≠ '"') ∨
    ∃ rest, escape c = '\\' :: rest ∧ ∀ d ∈ escape c, d ∈ escapeChars := by
  rw [escape]
  split
  next short found =>
    right
    refine ⟨[short], rfl, ?_⟩
    have member : (c, short) ∈ shortEscapes := by
      obtain ⟨before, after, eq, _⟩ := List.lookup_eq_some_iff.mp found
      rw [eq]
      simp
    have known : ∀ e ∈ shortEscapes, e.2 ∈ escapeChars := by decide
    intro d here
    rcases List.mem_cons.mp here with rfl | here
    · decide
    · rw [List.mem_singleton.mp here]
      exact known _ member
  next plain =>
    split
    next control =>
      right
      refine ⟨_, rfl, ?_⟩
      have high := hexDigit_mem (c.toNat / 16) (by omega)
      have low := hexDigit_mem (c.toNat % 16) (by omega)
      simp only [List.forall_mem_cons, high, low, List.not_mem_nil, false_implies, implies_true,
        and_true]
      decide
    next printed =>
      left
      refine ⟨rfl, ?_⟩
      rintro rfl
      simp [shortEscapes] at plain

theorem escape_ne_nil (c : Char) : escape c ≠ [] := by
  rcases escape_cases c with ⟨eq, _⟩ | ⟨rest, eq, _⟩ <;> simp [eq]

section

variable {a : Char} (own : a ∉ escapeChars) (plain : escape a = [a])

include own plain

theorem mem_escape (c : Char) : a ∈ escape c ↔ c = a := by
  constructor
  · intro here
    rcases escape_cases c with ⟨eq, _⟩ | ⟨_, _, known⟩
    · rw [eq] at here
      exact (List.mem_singleton.mp here).symm
    · exact absurd (known a here) own
  · rintro rfl
    simp [plain]

theorem getLast?_escape (c : Char) : (escape c).getLast? = some a ↔ c = a := by
  constructor
  · intro last
    exact (mem_escape own plain c).mp (List.mem_of_getLast? last)
  · rintro rfl
    simp [plain]

theorem head?_escape (c : Char) : (escape c).head? = some a ↔ c = a := by
  constructor
  · intro head
    exact (mem_escape own plain c).mp (List.mem_of_head? head)
  · rintro rfl
    simp [plain]

theorem mem_escaped (s : List Char) : a ∈ s.flatMap escape ↔ a ∈ s := by
  rw [List.mem_flatMap]
  constructor
  · rintro ⟨c, member, here⟩
    rwa [← (mem_escape own plain c).mp here]
  · intro member
    exact ⟨a, member, by simp [plain]⟩

theorem getLast?_escaped (s : List Char) :
    (s.flatMap escape).getLast? = some a ↔ s.getLast? = some a := by
  rcases List.eq_nil_or_concat s with rfl | ⟨init, c, rfl⟩
  · simp
  · rw [List.concat_eq_append, List.flatMap_append, List.getLast?_append_of_ne_nil _ (by simp [escape_ne_nil])]
    simp [getLast?_escape own plain c]

theorem head?_escaped (s : List Char) :
    (s.flatMap escape).head? = some a ↔ s.head? = some a := by
  cases s with
  | nil => simp
  | cons c s =>
    rw [List.flatMap_cons, List.head?_append_of_ne_nil _ (escape_ne_nil c)]
    simp [head?_escape own plain c]

/-- A pair of characters is in the escaped text if it is in the text. -/
theorem unpaired_escaped {b : Char} (ownB : b ∉ escapeChars) (plainB : escape b = [b])
    {s : List Char} (free : Unpaired a b s) : Unpaired a b (s.flatMap escape) := by
  induction s with
  | nil => exact unpaired_nil
  | cons c s ih =>
    rw [unpaired_cons] at free
    rw [List.flatMap_cons, unpaired_append]
    refine ⟨?_, ih free.1, ?_⟩
    · rcases escape_cases c with ⟨eq, _⟩ | ⟨_, _, known⟩
      · rw [eq]
        exact unpaired_singleton
      · exact unpaired_of_notMem fun here => own (known a here)
    · intro last head
      rw [getLast?_escape own plain] at last
      rw [head?_escaped ownB plainB] at head
      exact free.2 last head

omit plain in
/-- A quote in the escaped text is right after a backslash. -/
theorem unpaired_escaped_quote (s : List Char) : Unpaired a '"' (s.flatMap escape) := by
  induction s with
  | nil => exact unpaired_nil
  | cons c s ih =>
    rw [List.flatMap_cons, unpaired_append]
    refine ⟨?_, ih, ?_⟩
    · rcases escape_cases c with ⟨eq, _⟩ | ⟨_, _, known⟩
      · rw [eq]
        exact unpaired_singleton
      · exact unpaired_of_notMem fun here => own (known a here)
    · intro _ head
      cases s with
      | nil => simp at head
      | cons d s =>
        rw [List.flatMap_cons, List.head?_append_of_ne_nil _ (escape_ne_nil d)] at head
        rcases escape_cases d with ⟨eq, noQuote⟩ | ⟨rest, eq, _⟩
        · rw [eq] at head
          exact noQuote (Option.some.inj head)
        · rw [eq] at head
          cases head

end

end Quoted

end LorawanFeeds.Lib
