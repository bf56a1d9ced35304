import Mathlib.Data.List.Basic
import Mathlib.Data.Nat.Init

/-!
# Lines of a stream

A stream is cut at the elements that end a line. The pieces before an end are complete, and the
one after the last end is still open: what comes in later goes on with it.
-/
namespace LorawanFeeds.Lib.Lines

variable {α : Type} (isEnd : α → Bool)

/-- No element ends a line. -/
def Unbroken (piece : List α) : Prop := ∀ c ∈ piece, isEnd c = false

/-- The complete pieces and the open one. -/
def split : List α → List (List α) × List α
  | [] => ([], [])
  | c :: rest =>
    if isEnd c then ([] :: (split rest).1, (split rest).2)
    else match (split rest).1 with
      | [] => ([], c :: (split rest).2)
      | piece :: more => ((c :: piece) :: more, (split rest).2)

variable {isEnd}

theorem unbroken_nil : Unbroken isEnd [] := fun _ member => nomatch member

theorem Unbroken.of_cons {c : α} {piece : List α} (unbroken : Unbroken isEnd (c :: piece)) :
    Unbroken isEnd piece := fun d member => unbroken d (.tail _ member)

theorem Unbroken.append {piece more : List α} (first : Unbroken isEnd piece)
    (second : Unbroken isEnd more) : Unbroken isEnd (piece ++ more) := fun c member =>
  (List.mem_append.mp member).elim (first c) (second c)

theorem split_unbroken {piece : List α} (unbroken : Unbroken isEnd piece) :
    split isEnd piece = ([], piece) := by
  induction piece with
  | nil => rfl
  | cons c piece ih =>
    have goesOn : isEnd c = false := unbroken c (.head _)
    simp [split, goesOn, ih unbroken.of_cons]

theorem split_append_end {piece : List α} (unbroken : Unbroken isEnd piece) {c : α}
    (ends : isEnd c = true) (rest : List α) :
    split isEnd (piece ++ c :: rest) = (piece :: (split isEnd rest).1, (split isEnd rest).2) := by
  induction piece with
  | nil => simp [split, ends]
  | cons d piece ih =>
    have goesOn : isEnd d = false := unbroken d (.head _)
    simp [split, goesOn, ih unbroken.of_cons]

/-- A stream has no end in it, or it goes on after its first. -/
theorem unbroken_or_append (stream : List α) : Unbroken isEnd stream ∨
    ∃ piece c rest, stream = piece ++ c :: rest ∧ Unbroken isEnd piece ∧ isEnd c = true := by
  induction stream with
  | nil => exact .inl unbroken_nil
  | cons d stream ih =>
    by_cases ends : isEnd d = true
    · exact .inr ⟨[], d, stream, rfl, unbroken_nil, ends⟩
    · have goesOn : Unbroken isEnd [d] := by simpa [Unbroken] using ends
      rcases ih with unbroken | ⟨piece, c, rest, rfl, unbroken, last⟩
      · exact .inl (goesOn.append unbroken)
      · exact .inr ⟨d :: piece, c, rest, rfl, goesOn.append unbroken, last⟩

/-- Induction along the lines of a stream. -/
theorem line_induction (isEnd : α → Bool) {motive : List α → Prop}
    (last : ∀ piece, Unbroken isEnd piece → motive piece)
    (line : ∀ piece c rest, Unbroken isEnd piece → isEnd c = true → motive rest →
      motive (piece ++ c :: rest)) (stream : List α) : motive stream := by
  induction size : stream.length using Nat.strong_induction_on generalizing stream with
  | _ n ih =>
    rcases @unbroken_or_append _ isEnd stream with
      unbroken | ⟨piece, c, rest, rfl, unbroken, ends⟩
    · exact last stream unbroken
    · refine line piece c rest unbroken ends (ih rest.length ?_ rest rfl)
      rw [← size, List.length_append, List.length_cons]
      omega

theorem unbroken_split (stream : List α) :
    (∀ piece ∈ (split isEnd stream).1, Unbroken isEnd piece) ∧
      Unbroken isEnd (split isEnd stream).2 := by
  induction stream using line_induction isEnd with
  | last piece unbroken => simp [split_unbroken unbroken, unbroken]
  | line piece c rest unbroken ends ih =>
    rw [split_append_end unbroken ends]
    exact ⟨List.forall_mem_cons.mpr ⟨unbroken, ih.1⟩, ih.2⟩

/-! ### Words -/

/-- The complete pieces that are not empty, and the open one. -/
def words (isEnd : α → Bool) (stream : List α) : List (List α) × List α :=
  ((split isEnd stream).1.filter fun piece => !piece.isEmpty, (split isEnd stream).2)

theorem words_unbroken {piece : List α} (unbroken : Unbroken isEnd piece) :
    words isEnd piece = ([], piece) := by
  simp [words, split_unbroken unbroken]

theorem words_append_end {piece : List α} (some : piece ≠ []) (unbroken : Unbroken isEnd piece)
    {c : α} (ends : isEnd c = true) (rest : List α) :
    words isEnd (piece ++ c :: rest) = (piece :: (words isEnd rest).1, (words isEnd rest).2) := by
  simp [words, split_append_end unbroken ends, some]

/-- Ends at the front of a stream are of no account. -/
theorem words_dropWhile_append (stream more : List α) :
    words isEnd (stream.dropWhile isEnd ++ more) = words isEnd (stream ++ more) := by
  induction stream with
  | nil => rfl
  | cons c stream ih =>
    cases ends : isEnd c with
    | false => rw [List.dropWhile_cons_of_neg (by simp [ends])]
    | true =>
      rw [List.dropWhile_cons_of_pos ends, ih]
      simp [words, split, ends]

/-- What comes in later goes on with the first word of a stream that has no end in it. -/
theorem exists_word {piece : List α} (some : piece ≠ []) (unbroken : Unbroken isEnd piece)
    (more : List α) :
    ∃ word ∈ (words isEnd (piece ++ more)).1 ++ [(words isEnd (piece ++ more)).2],
      piece <+: word := by
  rcases @unbroken_or_append _ isEnd more with goesOn | ⟨front, c, rest, rfl, goesOn, ends⟩
  · rw [words_unbroken (unbroken.append goesOn)]
    exact ⟨piece ++ more, by simp, List.prefix_append _ _⟩
  · rw [← List.append_assoc, words_append_end (by simp [some]) (unbroken.append goesOn) ends]
    exact ⟨piece ++ front, by simp, List.prefix_append _ _⟩

/-! ### Files -/

variable [DecidableEq α] (newline : α)

/-- The lines of a file. The last needs no newline. -/
def lines (content : List α) : List (List α) :=
  let pieces := split (· = newline) content
  pieces.1 ++ if pieces.2 = [] then [] else [pieces.2]

/-- A file with a newline after each line. -/
def unlines (lines : List (List α)) : List α := lines.flatMap (· ++ [newline])

/-- `fgets` with room for `room` bytes: a line with its newline, or what fits of it; and what is
left of the stream. -/
def fgets : Nat → List α → List α × List α
  | 0, stream => ([], stream)
  | _ + 1, [] => ([], [])
  | room + 1, c :: stream =>
    if c = newline then ([c], stream)
    else (c :: (fgets room stream).1, (fgets room stream).2)

/-- What `fgets` returns until the end of the stream; each call takes at least one byte. -/
def fgetsAll (room : Nat) : Nat → List α → List (List α)
  | 0, _ => []
  | _ + 1, [] => []
  | calls + 1, c :: stream =>
    (fgets newline room (c :: stream)).1 ::
      fgetsAll room calls (fgets newline room (c :: stream)).2

variable {newline}

theorem unbroken_iff {piece : List α} :
    Unbroken (fun c => decide (c = newline)) piece ↔ newline ∉ piece := by
  constructor
  · intro unbroken member
    simpa using unbroken newline member
  · intro free c member
    simpa using fun same : c = newline => free (same ▸ member)

theorem lines_last {piece : List α} (free : newline ∉ piece) :
    lines newline piece = if piece = [] then [] else [piece] := by
  simp [lines, split_unbroken (unbroken_iff.mpr free)]

theorem lines_append {piece : List α} (free : newline ∉ piece) (rest : List α) :
    lines newline (piece ++ newline :: rest) = piece :: lines newline rest := by
  simp [lines, split_append_end (unbroken_iff.mpr free) (decide_eq_true rfl)]

theorem newline_not_mem_lines {content line : List α} (member : line ∈ lines newline content) :
    newline ∉ line := by
  obtain ⟨pieces, tail⟩ := @unbroken_split _ (fun c => decide (c = newline)) content
  rcases List.mem_append.mp member with complete | last
  · exact unbroken_iff.mp (pieces line complete)
  · split at last
    · cases last
    · cases List.mem_singleton.mp last
      exact unbroken_iff.mp tail

/-- Lines that are written are read back. -/
theorem lines_unlines {written : List (List α)} (free : ∀ line ∈ written, newline ∉ line) :
    lines newline (unlines newline written) = written := by
  induction written with
  | nil => rfl
  | cons line written ih =>
    rw [unlines, List.flatMap_cons, List.append_assoc, List.singleton_append,
      lines_append (free line (.head _))]
    exact congrArg (line :: ·) (ih fun other member => free other (.tail _ member))

theorem fgets_line {piece : List α} (free : newline ∉ piece) {room : Nat}
    (fits : piece.length < room) (rest : List α) :
    fgets newline room (piece ++ newline :: rest) = (piece ++ [newline], rest) := by
  induction piece generalizing room with
  | nil =>
    obtain ⟨room, rfl⟩ := Nat.exists_eq_add_of_lt fits
    simp [fgets]
  | cons c piece ih =>
    cases room with
    | zero => cases fits
    | succ room =>
      have different : c ≠ newline := fun same => free (same ▸ .head _)
      have tail := ih (fun member => free (.tail _ member)) (Nat.lt_of_succ_lt_succ fits)
      simp [fgets, different, tail]

theorem fgets_last {piece : List α} (free : newline ∉ piece) {room : Nat}
    (fits : piece.length ≤ room) : fgets newline room piece = (piece, []) := by
  induction piece generalizing room with
  | nil => cases room <;> rfl
  | cons c piece ih =>
    cases room with
    | zero => cases fits
    | succ room =>
      have different : c ≠ newline := fun same => free (same ▸ .head _)
      have tail := ih (fun member => free (.tail _ member)) (Nat.le_of_succ_le_succ fits)
      simp [fgets, different, tail]

/-- A file of short lines is read line by line, whatever is made of a line and its newline. -/
theorem map_fgetsAll {β : Type} (f : List α → β) {room : Nat} {content : List α}
    (short : ∀ line ∈ lines newline content, line.length < room)
    (g : List α → β) (complete : ∀ line, newline ∉ line → f (line ++ [newline]) = g line)
    (last : ∀ line, newline ∉ line → line ≠ [] → f line = g line) {calls : Nat}
    (enough : content.length ≤ calls) :
    (fgetsAll newline room calls content).map f = (lines newline content).map g := by
  induction content using line_induction (fun c => decide (c = newline))
    generalizing calls with
  | last piece unbroken =>
    have free := unbroken_iff.mp unbroken
    rw [lines_last free] at short ⊢
    cases piece with
    | nil => cases calls <;> rfl
    | cons c piece =>
      cases calls with
      | zero => cases enough
      | succ calls =>
        have fits : (c :: piece).length ≤ room := by
          have bound := short (c :: piece) (by simp)
          omega
        rw [fgetsAll, fgets_last free fits]
        have done : fgetsAll newline room calls ([] : List α) = [] := by cases calls <;> rfl
        simp [done, last (c :: piece) free (by simp)]
  | line piece c rest unbroken ends ih =>
    have free := unbroken_iff.mp unbroken
    obtain rfl : c = newline := of_decide_eq_true ends
    rw [lines_append free] at short ⊢
    rw [List.length_append, List.length_cons] at enough
    cases calls with
    | zero => omega
    | succ calls =>
      have read := fgets_line free (short piece (.head _)) rest
      have step : fgetsAll c room (calls + 1) (piece ++ c :: rest) =
          (piece ++ [c]) :: fgetsAll c room calls rest := by
        cases front : piece ++ c :: rest with
        | nil => simp at front
        | cons d more => rw [fgetsAll, ← front, read]
      rw [step, List.map_cons, List.map_cons, complete piece free,
        ih (fun line member => short line (.tail _ member)) (by omega)]

end LorawanFeeds.Lib.Lines
