import Mathlib.Data.List.Basic
import Mathlib.Tactic.Tauto

/-!
# Topic filters of MQTT

A topic is a text of levels that are separated by slashes. In a filter a level `+` stands for any
one level, and a last level `#` for any number of them; a filter that begins with either of them
does not match a topic that begins with a dollar sign.
-/
namespace LorawanFeeds.Lib.TopicFilter

abbrev Level := List Char

def single : Level := ['+']

def multi : Level := ['#']

def levels (topic : List Char) : List Level := topic.splitOn '/'

/-- A wildcard fills its level, and `#` the last one. -/
def WellFormed : List Level → Prop
  | [] => True
  | level :: rest =>
    (level = multi → rest = []) ∧ (level ≠ multi → '#' ∉ level) ∧ (level ≠ single → '+' ∉ level) ∧
      WellFormed rest

/-- The levels of a topic are those of the filter. -/
def LevelsMatch : List Level → List Level → Prop
  | [], names => names = []
  | level :: rest, names =>
    if level = multi then True
    else match names with
      -- Without a level to compare there is no match, apart from a final `#` above.
      | [] => False
      | name :: names => (level = single ∨ level = name) ∧ LevelsMatch rest names

/-- The topics with a dollar sign are not in reach of a wildcard at the front. -/
def Reserved (filter topic : List Char) : Prop :=
  ((levels filter).head? = some single ∨ (levels filter).head? = some multi) ∧
    topic.head? = some '$'

/-- The subscription takes what is published under this topic. -/
def Matches (filter topic : List Char) : Prop :=
  WellFormed (levels filter) ∧ ¬ Reserved filter topic ∧ LevelsMatch (levels filter) (levels topic)

instance WellFormed.decidable : ∀ filter : List Level, Decidable (WellFormed filter)
  | [] => inferInstanceAs (Decidable True)
  | level :: rest =>
    have := WellFormed.decidable rest
    inferInstanceAs (Decidable ((level = multi → rest = []) ∧ (level ≠ multi → '#' ∉ level) ∧
      (level ≠ single → '+' ∉ level) ∧ WellFormed rest))

instance LevelsMatch.decidable : ∀ filter names : List Level, Decidable (LevelsMatch filter names)
  | [], names => inferInstanceAs (Decidable (names = []))
  | level :: _, [] =>
    inferInstanceAs (Decidable (if level = multi then True else False))
  | level :: rest, name :: names =>
    have := LevelsMatch.decidable rest names
    inferInstanceAs (Decidable (if level = multi then True
      else (level = single ∨ level = name) ∧ LevelsMatch rest names))

instance (filter topic : List Char) : Decidable (Reserved filter topic) :=
  inferInstanceAs (Decidable ((_ ∨ _) ∧ _))

instance (filter topic : List Char) : Decidable (Matches filter topic) :=
  inferInstanceAs (Decidable (_ ∧ _ ∧ _))

/-! ### The levels that a match compares -/

/-- The levels before `#`. -/
def compared (filter : List Level) : List Level := filter.takeWhile (· ≠ multi)

/-- The topic has another level where the filter has no wildcard, or the wrong number of them. -/
def Differs (filter names : List Level) : Prop :=
  names.length < (compared filter).length ∨
    (multi ∉ filter ∧ filter.length < names.length) ∨
    ∃ (i : Nat) (level name : Level), (compared filter)[i]? = some level ∧ names[i]? = some name ∧
      level ≠ single ∧ level ≠ name

@[simp] theorem compared_multi (rest : List Level) : compared (multi :: rest) = [] := by
  simp [compared]

theorem compared_cons {level : Level} (other : level ≠ multi) (rest : List Level) :
    compared (level :: rest) = level :: compared rest := by
  simp [compared, other]

theorem differs_cons {level : Level} (other : level ≠ multi) (rest : List Level) (name : Level)
    (names : List Level) :
    Differs (level :: rest) (name :: names) ↔
      (level ≠ single ∧ level ≠ name) ∨ Differs rest names := by
  simp only [Differs, compared_cons other, List.length_cons, Nat.add_lt_add_iff_right,
    List.mem_cons, not_or]
  constructor
  · rintro (short | ⟨⟨_, absent⟩, long⟩ | ⟨i, l, n, here, there, fixed, different⟩)
    · exact .inr (.inl short)
    · exact .inr (.inr (.inl ⟨absent, long⟩))
    · cases i with
      | zero =>
        simp only [List.getElem?_cons_zero, Option.some.injEq] at here there
        subst here there
        exact .inl ⟨fixed, different⟩
      | succ i => exact .inr (.inr (.inr ⟨i, l, n, here, there, fixed, different⟩))
  · rintro (⟨fixed, different⟩ | short | ⟨absent, long⟩ | ⟨i, l, n, here, there, apart⟩)
    · exact .inr (.inr ⟨0, level, name, rfl, rfl, fixed, different⟩)
    · exact .inl short
    · exact .inr (.inl ⟨⟨fun same => other same.symm, absent⟩, long⟩)
    · exact .inr (.inr ⟨i + 1, l, n, here, there, apart⟩)

/-- A match compares the levels one by one. -/
theorem levelsMatch_iff (filter names : List Level) :
    LevelsMatch filter names ↔ ¬ Differs filter names := by
  induction filter generalizing names with
  | nil =>
    cases names with
    | nil => simp [LevelsMatch, Differs, compared]
    | cons name names => simp [LevelsMatch, Differs]
  | cons level rest ih =>
    by_cases all : level = multi
    · subst all
      simp [LevelsMatch, Differs]
    · cases names with
      | nil => simp [LevelsMatch, Differs, all, compared_cons all]
      | cons name names =>
        rw [LevelsMatch, if_neg all, differs_cons all, ih]
        tauto

/-- Without a wildcard a filter takes its own topic only. -/
theorem levelsMatch_literal {filter names : List Level} (noSingle : single ∉ filter)
    (noMulti : multi ∉ filter) (taken : LevelsMatch filter names) : filter = names := by
  induction filter generalizing names with
  | nil => exact Eq.symm taken
  | cons level rest ih =>
    rw [List.mem_cons, not_or] at noSingle noMulti
    have fixed : level ≠ multi := Ne.symm noMulti.1
    cases names with
    | nil => simp [LevelsMatch, fixed] at taken
    | cons name names =>
      rw [LevelsMatch, if_neg fixed] at taken
      obtain ⟨plus | same, later⟩ := taken
      · exact absurd plus.symm noSingle.1
      · rw [same, ih noSingle.2 noMulti.2 later]

theorem levels_injective {a b : List Char} (same : levels a = levels b) : a = b := by
  have joined : List.intercalate ['/'] (levels a) = List.intercalate ['/'] (levels b) := by rw [same]
  rwa [levels, levels, List.intercalate_splitOn, List.intercalate_splitOn] at joined

end LorawanFeeds.Lib.TopicFilter
