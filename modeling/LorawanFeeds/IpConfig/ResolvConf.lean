import Mathlib.Data.List.Infix
import Mathlib.Data.List.TakeDrop
import Mathlib.Data.List.TakeWhile
import LorawanFeeds.Lib.Decimal
import LorawanFeeds.Lib.Lines

/-!
# The name servers of an interface

`update_resolv_conf` of `util.c` puts the name servers of a connection into `/etc/resolv.conf`. The
lines of an interface are marked by a comment at their end. The others are kept in a table of
sixteen, and the file is written anew. A line counts as the interface's own wherever the mark
stands in it, also at the front of the mark of another interface.
-/
namespace LorawanFeeds.IpConfig.ResolvConf

open Lib Lines Decimal

abbrev Bytes := List UInt8

def newline : UInt8 := 10
def maxDns : Nat := 16

/-- The bytes `fgets` puts into `dns_line`, before the null byte. -/
def dnsLineRoom : Nat := 254

/-- The bytes of `dns_tag`, before the null byte. -/
def dnsTagRoom : Nat := 63

/-- A text that can be part of a line. -/
structure Word where
  bytes : Bytes
  whole : 0 ∉ bytes
  unbroken : newline ∉ bytes
  deriving DecidableEq

/-- The text of an address; its callers have 64 bytes for it. -/
structure Address extends Word where
  short : bytes.length < 64
  deriving DecidableEq

def ascii (text : List Char) : Bytes := text.map Char.toUInt8

/-- `%d`. -/
def decimal : Int → Bytes
  | .ofNat n => ascii (writeNat n)
  | .negSucc n => ascii ('-' :: writeNat (n + 1))

/-- The mark of the lines of an interface. -/
def mark (iptype : Int) (ifname : Word) : Bytes :=
  ascii ['#', ' ', 'I', 'P', 'V'] ++ decimal iptype ++ ascii [' '] ++ ifname.bytes

/-- `dns_tag`: what `snprintf` has room for. -/
def dnsTag (iptype : Int) (ifname : Word) : Bytes := (mark iptype ifname).take dnsTagRoom

def nameserver (tag : Bytes) (dns : Address) : Bytes :=
  ascii ['n', 'a', 'm', 'e', 's', 'e', 'r', 'v', 'e', 'r', ' '] ++ dns.bytes ++ ascii [' '] ++ tag

/-- The lines of the interface. -/
def nameservers (tag : Bytes) (dns1 dns2 : Option Address) : List Bytes :=
  (dns1.toList ++ dns2.toList).map (nameserver tag)

def cString (buffer : Bytes) : Bytes := buffer.takeWhile (· ≠ 0)

/-- The newline is taken off a line, but not off one that is nothing else. -/
def chomp (dnsLine : Bytes) : Bytes :=
  if 1 < dnsLine.length ∧ dnsLine.getLast? = some newline then dnsLine.dropLast else dnsLine

/-- The lines of the file as the loop gets to see them. -/
def dnsLines : Option Bytes → List Bytes
  | none => []
  | some content =>
    (fgetsAll newline dnsLineRoom content.length content).map fun line => chomp (cString line)

structure Table where
  dnsInfo : List Bytes := []
  dnsMatch : Nat := 0
  deriving DecidableEq, Repr

/-- The loop over the lines. -/
def readLoop (tag : Bytes) (table : Table) : List Bytes → Table
  | [] => table
  | dnsLine :: rest =>
    if tag <:+: dnsLine then readLoop tag { table with dnsMatch := table.dnsMatch + 1 } rest
    else
      let table := { table with dnsInfo := table.dnsInfo ++ [dnsLine] }
      if table.dnsInfo.length = maxDns then table else readLoop tag table rest

/-- `update_resolv_conf`, on a file that need not be there. -/
def updateResolvConf (iptype : Int) (ifname : Word) (dns1 dns2 : Option Address)
    (file : Option Bytes) : Option Bytes :=
  let tag := dnsTag iptype ifname
  let table := readLoop tag {} (dnsLines file)
  if dns1 = none ∧ table.dnsMatch = 0 then file
  else some (unlines newline (nameservers tag dns1 dns2 ++ table.dnsInfo))

/-! ### What is meant -/

def linesOf : Option Bytes → List Bytes
  | none => []
  | some content => lines newline content

/-- The line ends in the mark of the interface. One with a null byte is no text, and none of the
lines that are written. -/
def Tagged (iptype : Int) (ifname : Word) (line : Bytes) : Prop :=
  0 ∉ line ∧ mark iptype ifname <:+ line

instance (iptype : Int) (ifname : Word) (line : Bytes) : Decidable (Tagged iptype ifname line) :=
  inferInstanceAs (Decidable (_ ∧ _))

/-- The lines that are not the interface's own. -/
def others (iptype : Int) (ifname : Word) (file : Option Bytes) : List Bytes :=
  (linesOf file).filter fun line => ¬ Tagged iptype ifname line

/-- The file has the new lines, and the others as they were. -/
def Updated (iptype : Int) (ifname : Word) (dns1 dns2 : Option Address)
    (before after : Option Bytes) : Prop :=
  linesOf after = nameservers (mark iptype ifname) dns1 dns2 ++ others iptype ifname before

instance (iptype : Int) (ifname : Word) (dns1 dns2 : Option Address) (before after : Option Bytes) :
    Decidable (Updated iptype ifname dns1 dns2 before after) :=
  inferInstanceAs (Decidable (_ = _))

/-! ### What the loop sees of a line -/

/-- An empty line is left with its newline, and a null byte ends a line. -/
def seen (line : Bytes) : Bytes := if line = [] then [newline] else cString line

/-- The lines that a line becomes when it is written again. -/
def printed (line : Bytes) : List Bytes := if line = [] then [[], []] else [cString line]

theorem cString_eq_self {text : Bytes} (whole : 0 ∉ text) : cString text = text := by
  rw [cString, List.takeWhile_eq_self_iff]
  intro c member
  simpa using fun zero : c = 0 => whole (zero ▸ member)

theorem not_mem_cString (text : Bytes) : 0 ∉ cString text := fun member => by
  simpa using List.mem_takeWhile_imp member

theorem newline_not_mem_cString {text : Bytes} (free : newline ∉ text) : newline ∉ cString text :=
  fun member => free ((List.takeWhile_sublist _).mem member)

theorem chomp_eq_self {text : Bytes} (free : newline ∉ text) : chomp text = text := by
  rw [chomp, if_neg]
  rintro ⟨-, last⟩
  exact free (List.mem_of_getLast? last)

theorem seen_complete {line : Bytes} (free : newline ∉ line) :
    chomp (cString (line ++ [newline])) = seen line := by
  by_cases empty : line = []
  · subst empty
    decide
  rw [seen, if_neg empty]
  by_cases whole : 0 ∈ line
  · -- The line ends at its null byte, and the newline is not seen.
    have cut : cString (line ++ [newline]) = cString line := by
      rw [cString, List.takeWhile_append, if_neg]
      · rfl
      · intro all
        have same : cString line = line := (List.takeWhile_prefix _).eq_of_length all
        exact not_mem_cString line (same.symm ▸ whole)
    rw [cut, chomp_eq_self (newline_not_mem_cString free)]
  · have text : 0 ∉ line ++ [newline] := by
      rw [List.mem_append, not_or]
      exact ⟨whole, by decide⟩
    rw [cString_eq_self text, cString_eq_self whole, chomp, if_pos]
    · simp
    · have some := List.length_pos_of_ne_nil empty
      exact ⟨by simp; omega, by simp⟩

theorem dnsLines_eq {file : Option Bytes}
    (short : ∀ line ∈ linesOf file, line.length < dnsLineRoom) :
    dnsLines file = (linesOf file).map seen := by
  cases file with
  | none => rfl
  | some content =>
    refine map_fgetsAll _ short seen (fun line free => seen_complete free) ?_ (le_refl _)
    intro line free some
    rw [seen, if_neg some, chomp_eq_self (newline_not_mem_cString free)]

theorem unlines_seen (kept : List Bytes) :
    unlines newline (kept.map seen) = unlines newline (kept.flatMap printed) := by
  induction kept with
  | nil => rfl
  | cons line kept ih =>
    rw [List.map_cons, List.flatMap_cons, unlines, unlines, List.flatMap_cons, List.flatMap_append]
    refine congrArg₂ (· ++ ·) ?_ ih
    rw [seen, printed]
    split <;> simp

/-! ### The loop over the lines -/

/-- The loop takes the line for one of the interface. -/
def Matched (tag line : Bytes) : Prop := tag <:+: seen line

instance (tag line : Bytes) : Decidable (Matched tag line) := inferInstanceAs (Decidable (_ <:+: _))

/-- The lines that are put into the table, if there is room. -/
def unmatched (tag : Bytes) (found : List Bytes) : List Bytes :=
  found.filter fun line => ¬ Matched tag line

/-- A line that the loop takes for one of the interface stands before the table is full. -/
def Reached (tag : Bytes) (found : List Bytes) : Prop :=
  ∃ front line rest, found = front ++ line :: rest ∧ Matched tag line ∧
    (unmatched tag front).length < maxDns

theorem readLoop_matched {tag line : Bytes} (matched : Matched tag line) (table : Table)
    (rest : List Bytes) : readLoop tag table (seen line :: rest) =
      readLoop tag { table with dnsMatch := table.dnsMatch + 1 } rest := if_pos matched

theorem readLoop_unmatched {tag line : Bytes} (unmatched : ¬ Matched tag line) (table : Table)
    (rest : List Bytes) : readLoop tag table (seen line :: rest) =
      if (table.dnsInfo ++ [seen line]).length = maxDns then
        { table with dnsInfo := table.dnsInfo ++ [seen line] }
      else readLoop tag { table with dnsInfo := table.dnsInfo ++ [seen line] } rest :=
  if_neg unmatched

theorem readLoop_dnsInfo (tag : Bytes) (found : List Bytes) (table : Table)
    (room : table.dnsInfo.length < maxDns) :
    (readLoop tag table (found.map seen)).dnsInfo = table.dnsInfo ++
      ((unmatched tag found).take (maxDns - table.dnsInfo.length)).map seen := by
  induction found generalizing table with
  | nil => simp [readLoop, unmatched]
  | cons line found ih =>
    rw [List.map_cons]
    by_cases matched : Matched tag line
    · have rest := ih { table with dnsMatch := table.dnsMatch + 1 } room
      rw [readLoop_matched matched, rest]
      simp [unmatched, matched]
    · rw [readLoop_unmatched matched]
      have kept : unmatched tag (line :: found) = line :: unmatched tag found := by
        simp [unmatched, matched]
      obtain ⟨left, size⟩ : ∃ left, maxDns - table.dnsInfo.length = left + 1 :=
        ⟨maxDns - table.dnsInfo.length - 1, by omega⟩
      rw [kept, size, List.take_succ_cons, List.map_cons]
      split
      next full =>
        -- The sixteenth line is the last that is read.
        have none : left = 0 := by
          rw [List.length_append, List.length_singleton] at full
          omega
        simp [none]
      next more =>
        rw [List.length_append, List.length_singleton] at more
        rw [ih _ (by simp only [List.length_append, List.length_singleton]; omega)]
        have next : maxDns - (table.dnsInfo ++ [seen line]).length = left := by
          rw [List.length_append, List.length_singleton]
          omega
        rw [next, List.append_assoc, List.singleton_append]

theorem readLoop_dnsMatch_le (tag : Bytes) (found : List Bytes) (table : Table) :
    table.dnsMatch ≤ (readLoop tag table found).dnsMatch := by
  induction found generalizing table with
  | nil => exact le_refl _
  | cons line found ih =>
    rw [readLoop]
    split
    · exact (Nat.le_succ _).trans (ih { table with dnsMatch := table.dnsMatch + 1 })
    · dsimp only
      split
      · exact le_refl _
      · exact ih { table with dnsInfo := table.dnsInfo ++ [line] }

/-- What the count of the loop says. -/
theorem readLoop_dnsMatch (tag : Bytes) (found : List Bytes) (table : Table)
    (room : table.dnsInfo.length < maxDns) :
    (readLoop tag table (found.map seen)).dnsMatch ≠ table.dnsMatch ↔
      ∃ front line rest, found = front ++ line :: rest ∧ Matched tag line ∧
        table.dnsInfo.length + (unmatched tag front).length < maxDns := by
  induction found generalizing table with
  | nil => simp [readLoop]
  | cons line found ih =>
    rw [List.map_cons]
    by_cases matched : Matched tag line
    · rw [readLoop_matched matched]
      refine iff_of_true ?_ ⟨[], line, found, rfl, matched, by simpa [unmatched] using room⟩
      have grown := readLoop_dnsMatch_le tag (found.map seen)
        { table with dnsMatch := table.dnsMatch + 1 }
      dsimp only at grown
      omega
    · rw [readLoop_unmatched matched]
      have kept (front : List Bytes) :
          unmatched tag (line :: front) = line :: unmatched tag front := by
        simp [unmatched, matched]
      split
      next full =>
        rw [List.length_append, List.length_singleton] at full
        refine iff_of_false (fun changed => changed rfl) ?_
        rintro ⟨front, other, rest, eq, also, bound⟩
        cases front with
        | nil => cases eq; exact matched also
        | cons first front =>
          cases eq
          rw [kept, List.length_cons] at bound
          omega
      next more =>
        rw [List.length_append, List.length_singleton] at more
        have room : (table.dnsInfo ++ [seen line]).length < maxDns := by
          rw [List.length_append, List.length_singleton]
          omega
        refine (ih { table with dnsInfo := table.dnsInfo ++ [seen line] } room).trans ?_
        simp only [List.length_append, List.length_singleton]
        constructor
        · rintro ⟨front, other, rest, rfl, also, bound⟩
          refine ⟨line :: front, other, rest, rfl, also, ?_⟩
          rw [kept, List.length_cons]
          omega
        · rintro ⟨front, other, rest, eq, also, bound⟩
          cases front with
          | nil => cases eq; exact absurd also matched
          | cons first front =>
            cases eq
            rw [kept, List.length_cons] at bound
            exact ⟨front, other, rest, rfl, also, by omega⟩

theorem dnsMatch_ne_zero (tag : Bytes) (found : List Bytes) :
    (readLoop tag {} (found.map seen)).dnsMatch ≠ 0 ↔ Reached tag found := by
  rw [readLoop_dnsMatch tag found {} (by decide), Reached]
  simp only [List.length_nil, Nat.zero_add]

/-! ### Empty lines -/

/-- No line is lost and none is doubled. An empty line is written twice, so a file can also come
out right if its last lines are empty and twice as many as the table had room for. -/
def Fits (room : Nat) (kept : List Bytes) : Prop :=
  kept.length ≤ room ∧ [] ∉ kept ∨
    ∃ full : List Bytes, full.length < room ∧ [] ∉ full ∧
      kept = full ++ List.replicate (2 * (room - full.length)) []

/-- What becomes of the lines, if they hold no null byte. -/
def doubled (line : Bytes) : List Bytes := if line = [] then [[], []] else [line]

theorem eq_replicate_iff (room count : Nat) (kept : List Bytes) :
    kept = List.replicate (count + 1) [] ++ (kept.take room).flatMap doubled ↔
      kept = List.replicate (count + 1 + 2 * room) [] := by
  induction room generalizing count kept with
  | zero => simp
  | succ room ih =>
    cases kept with
    | nil => simp [List.replicate_succ]
    | cons line kept =>
      rw [List.take_succ_cons, List.flatMap_cons, List.replicate_succ, List.cons_append]
      have total : count + 1 + 2 * (room + 1) = count + 1 + 1 + 2 * room + 1 := by omega
      rw [total, @List.replicate_succ _ _ (count + 1 + 1 + 2 * room), List.cons_eq_cons,
        List.cons_eq_cons]
      refine and_congr_right fun empty => ?_
      rw [← ih (count + 1) kept, empty, doubled, if_pos rfl]
      simp [List.replicate_succ']

theorem flatMap_doubled_iff (room : Nat) (kept : List Bytes) :
    (kept.take room).flatMap doubled = kept ↔ Fits room kept := by
  induction room generalizing kept with
  | zero => cases kept <;> simp [Fits]
  | succ room ih =>
    cases kept with
    | nil => simp [Fits]
    | cons line kept =>
      rw [List.take_succ_cons, List.flatMap_cons]
      by_cases empty : line = []
      · -- From the first empty line on, all have to be.
        subst empty
        rw [doubled, if_pos rfl, List.cons_append, List.cons_append, List.nil_append,
          List.cons_eq_cons, and_iff_right rfl, eq_comm]
        have rest := eq_replicate_iff room 0 kept
        rw [Nat.zero_add, List.replicate_one, List.singleton_append] at rest
        rw [rest]
        constructor
        · rintro rfl
          refine .inr ⟨[], by simp, by simp, ?_⟩
          rw [List.nil_append, List.length_nil, ← List.replicate_succ]
          congr 1
          omega
        · rintro (⟨-, none⟩ | ⟨full, -, free, eq⟩)
          · exact absurd (List.mem_cons_self ..) none
          · cases full with
            | nil =>
              rw [List.nil_append, List.length_nil, Nat.sub_zero] at eq
              have total : 2 * (room + 1) = (1 + 2 * room) + 1 := by omega
              rw [total, List.replicate_succ] at eq
              exact (List.cons_eq_cons.mp eq).2
            | cons first full =>
              cases eq
              exact absurd (List.mem_cons_self ..) free
      · rw [doubled, if_neg empty, List.singleton_append, List.cons_eq_cons, and_iff_right rfl, ih]
        constructor
        · rintro (⟨size, free⟩ | ⟨full, size, free, rfl⟩)
          · refine .inl ⟨Nat.succ_le_succ size, ?_⟩
            simpa [empty] using free
          · refine .inr ⟨line :: full, Nat.succ_lt_succ size, ?_, ?_⟩
            · simpa [empty] using free
            · rw [List.length_cons, Nat.succ_sub_succ, List.cons_append]
        · rintro (⟨size, free⟩ | ⟨full, size, free, eq⟩)
          · exact .inl ⟨Nat.le_of_succ_le_succ size, fun member => free (.tail _ member)⟩
          · cases full with
            | nil =>
              rw [List.nil_append, List.length_nil, Nat.sub_zero] at eq
              have total : 2 * (room + 1) = (1 + 2 * room) + 1 := by omega
              rw [total, List.replicate_succ] at eq
              exact absurd (List.cons_eq_cons.mp eq).1 empty
            | cons first full =>
              cases eq
              rw [List.length_cons] at size
              refine .inr ⟨full, by omega, fun member => free (.tail _ member), ?_⟩
              rw [List.length_cons, Nat.succ_sub_succ]
              rfl

/-! ### The update -/

section

variable {iptype : Int} {ifname : Word} {dns1 dns2 : Option Address} {file : Option Bytes}

/-- What the update does to a file of short lines. -/
theorem updateResolvConf_eq (short : ∀ line ∈ linesOf file, line.length < dnsLineRoom)
    [Decidable (Reached (dnsTag iptype ifname) (linesOf file))] :
    updateResolvConf iptype ifname dns1 dns2 file =
      if dns1 = none ∧ ¬ Reached (dnsTag iptype ifname) (linesOf file) then file
      else some (unlines newline (nameservers (dnsTag iptype ifname) dns1 dns2 ++
        ((unmatched (dnsTag iptype ifname) (linesOf file)).take maxDns).flatMap printed)) := by
  rw [updateResolvConf, dnsLines_eq short]
  have info := readLoop_dnsInfo (dnsTag iptype ifname) (linesOf file) {} (by decide)
  rw [List.nil_append, List.length_nil, Nat.sub_zero] at info
  have count := dnsMatch_ne_zero (dnsTag iptype ifname) (linesOf file)
  have written (front kept : List Bytes) : unlines newline (front ++ kept.map seen) =
      unlines newline (front ++ kept.flatMap printed) := by
    rw [unlines, List.flatMap_append, unlines, List.flatMap_append]
    exact congrArg (_ ++ ·) (unlines_seen kept)
  rw [info, written]
  refine if_congr (and_congr_right fun _ => ?_) rfl rfl
  rw [← count, not_not]

theorem dnsTag_begins : dnsTag iptype ifname <+: mark iptype ifname := List.take_prefix _ _

theorem dnsTag_ne_nil : dnsTag iptype ifname ≠ [] := by
  simp [dnsTag, mark, ascii, dnsTagRoom]

theorem not_matched_nil : ¬ Matched (dnsTag iptype ifname) [] := fun inside => by
  have size := inside.length_le
  simp only [seen, if_true, dnsTag, mark, ascii, dnsTagRoom, List.length_take, List.length_append,
    List.length_map, List.length_cons, List.length_nil] at size
  omega

/-- A line of the interface is taken for one. -/
theorem matched_of_tagged {line : Bytes} (tagged : Tagged iptype ifname line) :
    Matched (dnsTag iptype ifname) line := by
  obtain ⟨whole, last⟩ := tagged
  have inside : dnsTag iptype ifname <:+: line := dnsTag_begins.isInfix.trans last.isInfix
  have some : line ≠ [] := by
    rintro rfl
    exact dnsTag_ne_nil (List.infix_nil.mp inside)
  rw [Matched, seen, if_neg some, cString_eq_self whole]
  exact inside

/-- What is written of a line is not taken for one of the interface. -/
theorem not_infix_of_printed {tag line written : Bytes} (some : tag ≠ [])
    (unmatched : ¬ Matched tag line) (member : written ∈ printed line) : ¬ tag <:+: written := by
  rw [printed] at member
  rw [Matched, seen] at unmatched
  split at member
  · have empty : written = [] := by simpa using member
    rw [empty]
    exact fun inside => some (List.infix_nil.mp inside)
  next full =>
    rw [List.mem_singleton.mp member]
    rwa [if_neg full] at unmatched

theorem not_mem_printed {line written : Bytes} (member : written ∈ printed line) : 0 ∉ written := by
  rw [printed] at member
  split at member
  · have empty : written = [] := by simpa using member
    simp [empty]
  · rw [List.mem_singleton.mp member]
    exact not_mem_cString line

theorem newline_not_mem_printed {line written : Bytes} (free : newline ∉ line)
    (member : written ∈ printed line) : newline ∉ written := by
  rw [printed] at member
  split at member
  · have empty : written = [] := by simpa using member
    simp [empty]
  · rw [List.mem_singleton.mp member]
    exact newline_not_mem_cString free

theorem printed_eq_doubled {line : Bytes} (whole : 0 ∉ line) : printed line = doubled line := by
  rw [printed, doubled, cString_eq_self whole]

/-- The file can be written anew with the other lines as they are. -/
structure Kept (iptype : Int) (ifname : Word) (file : Option Bytes) : Prop where
  /-- The mark stands in no line of another interface. -/
  separate : ∀ line ∈ linesOf file, Matched (dnsTag iptype ifname) line → Tagged iptype ifname line
  whole : ∀ line ∈ others iptype ifname file, 0 ∉ line
  fits : Fits maxDns (others iptype ifname file)

theorem unmatched_eq_others (separate : ∀ line ∈ linesOf file,
      Matched (dnsTag iptype ifname) line → Tagged iptype ifname line) :
    unmatched (dnsTag iptype ifname) (linesOf file) = others iptype ifname file := by
  refine List.filter_congr fun line member => ?_
  have same : Matched (dnsTag iptype ifname) line ↔ Tagged iptype ifname line :=
    ⟨separate line member, matched_of_tagged⟩
  simp [same]

theorem flatMap_printed {kept : List Bytes} (whole : ∀ line ∈ kept, 0 ∉ line) (room : Nat) :
    (kept.take room).flatMap printed = (kept.take room).flatMap doubled :=
  List.flatMap_congr fun line member => printed_eq_doubled (whole line (List.mem_of_mem_take member))

/-- The lines in the table come out as the other lines of the file. -/
theorem table_eq_iff :
    ((unmatched (dnsTag iptype ifname) (linesOf file)).take maxDns).flatMap printed =
      others iptype ifname file ↔ Kept iptype ifname file := by
  constructor
  · intro same
    -- Each of the other lines is one that has been written.
    have source : ∀ line ∈ others iptype ifname file,
        ∃ kept, ¬ Matched (dnsTag iptype ifname) kept ∧ line ∈ printed kept := by
      intro line member
      rw [← same] at member
      obtain ⟨kept, inTable, written⟩ := List.mem_flatMap.mp member
      have unmatched := (List.mem_filter.mp (List.mem_of_mem_take inTable)).2
      exact ⟨kept, by simpa using unmatched, written⟩
    have whole : ∀ line ∈ others iptype ifname file, 0 ∉ line := fun line member =>
      have ⟨_, _, written⟩ := source line member
      not_mem_printed written
    have separate : ∀ line ∈ linesOf file,
        Matched (dnsTag iptype ifname) line → Tagged iptype ifname line := by
      intro line member matched
      by_contra foreign
      have other : line ∈ others iptype ifname file :=
        List.mem_filter.mpr ⟨member, decide_eq_true foreign⟩
      obtain ⟨kept, unmatched, written⟩ := source line other
      refine not_infix_of_printed dnsTag_ne_nil unmatched written ?_
      -- The line has no null byte, so the mark stands in all of it.
      have some : line ≠ [] := by
        rintro rfl
        exact not_matched_nil matched
      rwa [Matched, seen, if_neg some, cString_eq_self (whole line other)] at matched
    refine ⟨separate, whole, ?_⟩
    rw [unmatched_eq_others separate, flatMap_printed whole] at same
    exact (flatMap_doubled_iff _ _).mp same
  · rintro ⟨separate, whole, fits⟩
    rw [unmatched_eq_others separate, flatMap_printed whole]
    exact (flatMap_doubled_iff _ _).mpr fits

/-! ### The new lines -/

theorem plain_writeNat (n : Nat) : 0 ∉ ascii (writeNat n) ∧ newline ∉ ascii (writeNat n) := by
  have digits : ∀ c ∈ ascii (writeNat n), 48 ≤ c.toNat := by
    intro c member
    obtain ⟨char, inside, rfl⟩ := List.mem_map.mp member
    have range := isDigit_of_mem_writeNat n char inside
    simp only [isDigit, decide_eq_true_eq] at range
    have low : 48 ≤ char.toNat := range.1
    have high : char.toNat ≤ 57 := range.2
    change 48 ≤ char.toNat % 256
    omega
  exact ⟨fun member => absurd (digits _ member) (by decide),
    fun member => absurd (digits _ member) (by decide)⟩

theorem plain_decimal (i : Int) : 0 ∉ decimal i ∧ newline ∉ decimal i := by
  cases i with
  | ofNat n => exact plain_writeNat n
  | negSucc n =>
    have rest := plain_writeNat (n + 1)
    have sign : (0 : UInt8) ≠ Char.toUInt8 '-' ∧ newline ≠ Char.toUInt8 '-' := by decide
    rw [decimal, ascii, List.map_cons, List.mem_cons, List.mem_cons, not_or, not_or]
    exact ⟨⟨sign.1, rest.1⟩, ⟨sign.2, rest.2⟩⟩

theorem plain_mark : 0 ∉ mark iptype ifname ∧ newline ∉ mark iptype ifname := by
  have number := plain_decimal iptype
  have name := And.intro ifname.whole ifname.unbroken
  simp only [mark, List.mem_append, not_or]
  exact ⟨⟨⟨⟨by decide, number.1⟩, by decide⟩, name.1⟩, ⟨⟨⟨by decide, number.2⟩, by decide⟩, name.2⟩⟩

theorem plain_nameserver {tag : Bytes} (plain : 0 ∉ tag ∧ newline ∉ tag) (dns : Address) :
    0 ∉ nameserver tag dns ∧ newline ∉ nameserver tag dns := by
  have address := And.intro dns.whole dns.unbroken
  simp only [nameserver, List.mem_append, not_or]
  exact ⟨⟨⟨⟨by decide, address.1⟩, by decide⟩, plain.1⟩,
    ⟨⟨⟨by decide, address.2⟩, by decide⟩, plain.2⟩⟩

theorem tagged_nameserver (dns : Address) :
    Tagged iptype ifname (nameserver (mark iptype ifname) dns) :=
  ⟨(plain_nameserver plain_mark dns).1, List.suffix_append _ _⟩

/-- The new lines have the whole mark if there are none, or if the mark fits. -/
theorem nameservers_eq_iff : nameservers (dnsTag iptype ifname) dns1 dns2 =
    nameservers (mark iptype ifname) dns1 dns2 ↔
      dns1 = none ∧ dns2 = none ∨ (mark iptype ifname).length ≤ dnsTagRoom := by
  have cut : dnsTag iptype ifname = mark iptype ifname ↔
      (mark iptype ifname).length ≤ dnsTagRoom := List.take_eq_self_iff _
  have line (dns : Address) : nameserver (dnsTag iptype ifname) dns =
      nameserver (mark iptype ifname) dns ↔ dnsTag iptype ifname = mark iptype ifname :=
    List.append_right_inj _
  rw [← cut]
  cases dns1 <;> cases dns2 <;> simp [nameservers, line]

end

/-! ### The same update again -/

section

variable {iptype : Int} {ifname : Word} {dns1 dns2 : Option Address} {before after : Option Bytes}
  (updated : Updated iptype ifname dns1 dns2 before after)

include updated

theorem line_of_updated {line : Bytes} (member : line ∈ linesOf after) :
    (∃ dns ∈ dns1.toList ++ dns2.toList, line = nameserver (mark iptype ifname) dns) ∨
      line ∈ others iptype ifname before := by
  rw [updated] at member
  refine (List.mem_append.mp member).imp_left fun new => ?_
  obtain ⟨dns, given, rfl⟩ := List.mem_map.mp new
  exact ⟨dns, given, rfl⟩

theorem others_of_updated : others iptype ifname after = others iptype ifname before := by
  have own : (nameservers (mark iptype ifname) dns1 dns2).filter
      (fun line => ¬ Tagged iptype ifname line) = [] := by
    rw [List.filter_eq_nil_iff]
    intro line member
    obtain ⟨dns, -, rfl⟩ := List.mem_map.mp member
    simpa using tagged_nameserver dns
  rw [others, updated, List.filter_append, own, List.nil_append, others, List.filter_filter]
  simp

theorem kept_of_updated (kept : Kept iptype ifname before) : Kept iptype ifname after where
  separate line member matched := by
    rcases line_of_updated updated member with ⟨dns, -, rfl⟩ | other
    · exact tagged_nameserver dns
    · exact kept.separate line (List.mem_of_mem_filter other) matched
  whole := by
    rw [others_of_updated updated]
    exact kept.whole
  fits := by
    rw [others_of_updated updated]
    exact kept.fits

theorem short_of_updated
    (fits : dns1 = none ∧ dns2 = none ∨ (mark iptype ifname).length ≤ dnsTagRoom)
    (short : ∀ line ∈ linesOf before, line.length < dnsLineRoom) :
    ∀ line ∈ linesOf after, line.length < dnsLineRoom := by
  intro line member
  rcases line_of_updated updated member with ⟨dns, given, rfl⟩ | other
  · have fits : (mark iptype ifname).length ≤ dnsTagRoom := by
      rcases fits with ⟨rfl, rfl⟩ | fits
      · cases given
      · exact fits
    have address := dns.short
    simp only [nameserver, ascii, dnsTagRoom, dnsLineRoom, List.length_append, List.length_map,
      List.length_cons, List.length_nil] at *
    omega
  · exact short line (List.mem_of_mem_filter other)

/-- The update writes the file that it finds, or leaves it. -/
theorem update_again
    (fits : dns1 = none ∧ dns2 = none ∨ (mark iptype ifname).length ≤ dnsTagRoom)
    (short : ∀ line ∈ linesOf before, line.length < dnsLineRoom)
    (kept : Kept iptype ifname before)
    (written : after = some (unlines newline (nameservers (mark iptype ifname) dns1 dns2 ++
      others iptype ifname before))) :
    updateResolvConf iptype ifname dns1 dns2 after = after := by
  classical
  rw [updateResolvConf_eq (short_of_updated updated fits short)]
  split
  · rfl
  · rw [table_eq_iff.mpr (kept_of_updated updated kept),
      nameservers_eq_iff.mpr fits, others_of_updated updated, ← written]

end

/-! ### When the update is right -/

/-- The update has nothing to do, or the mark is whole and the other lines are kept. -/
structure Clean (iptype : Int) (ifname : Word) (dns1 dns2 : Option Address)
    (file : Option Bytes) : Prop where
  untouched : dns1 = none → ¬ Reached (dnsTag iptype ifname) (linesOf file) →
    dns2 = none ∧ ∀ line ∈ linesOf file, ¬ Tagged iptype ifname line
  rewritten : dns1 ≠ none ∨ Reached (dnsTag iptype ifname) (linesOf file) →
    (dns1 = none ∧ dns2 = none ∨ (mark iptype ifname).length ≤ dnsTagRoom) ∧
      Kept iptype ifname file

section

variable {iptype : Int} {ifname : Word} {dns1 dns2 : Option Address} {file : Option Bytes}

theorem newline_not_mem_linesOf {line : Bytes} (member : line ∈ linesOf file) :
    newline ∉ line := by
  cases file with
  | none => cases member
  | some content => exact newline_not_mem_lines member

/-- The lines of a file that is written anew. -/
theorem linesOf_rewritten (tag : Bytes) (room : Nat) :
    let written := nameservers (dnsTag iptype ifname) dns1 dns2 ++
      ((unmatched tag (linesOf file)).take room).flatMap printed
    linesOf (some (unlines newline written)) = written := by
  refine lines_unlines fun line member => ?_
  rcases List.mem_append.mp member with new | old
  · obtain ⟨dns, -, rfl⟩ := List.mem_map.mp new
    have plain := @plain_mark iptype ifname
    have part := (@dnsTag_begins iptype ifname).subset
    exact (plain_nameserver ⟨fun zero => plain.1 (part zero), fun ended => plain.2 (part ended)⟩
      dns).2
  · obtain ⟨kept, inTable, written⟩ := List.mem_flatMap.mp old
    have found := List.mem_of_mem_filter (List.mem_of_mem_take inTable)
    exact newline_not_mem_printed (newline_not_mem_linesOf found) written

theorem updated_self_iff (unreached : ¬ Reached (dnsTag iptype ifname) (linesOf file)) :
    Updated iptype ifname none dns2 file file ↔
      dns2 = none ∧ ∀ line ∈ linesOf file, ¬ Tagged iptype ifname line := by
  cases dns2 with
  | none =>
    rw [Updated, others, eq_comm, and_iff_right rfl]
    simp [nameservers]
  | some dns =>
    refine iff_of_false (fun updated => unreached ?_) (by simp)
    -- The first line would be a new one, and the loop would have found it.
    have first : linesOf file = nameserver (mark iptype ifname) dns :: others iptype ifname file :=
      updated
    have tagged := @tagged_nameserver iptype ifname dns
    exact ⟨[], _, _, first, matched_of_tagged tagged, (by decide : 0 < maxDns)⟩

/-- The update changes only the lines of its interface, and a second one nothing, exactly if the
file is left alone for a reason, or the other lines are few enough, not empty, and do not hold the
mark of the interface. -/
theorem update_exact_iff (iptype : Int) (ifname : Word) (dns1 dns2 : Option Address)
    (file : Option Bytes) (short : ∀ line ∈ linesOf file, line.length < dnsLineRoom) :
    (Updated iptype ifname dns1 dns2 file (updateResolvConf iptype ifname dns1 dns2 file) ∧
      updateResolvConf iptype ifname dns1 dns2 (updateResolvConf iptype ifname dns1 dns2 file) =
        updateResolvConf iptype ifname dns1 dns2 file) ↔
      Clean iptype ifname dns1 dns2 file := by
  classical
  have update := @updateResolvConf_eq iptype ifname dns1 dns2 file short _
  by_cases left : dns1 = none ∧ ¬ Reached (dnsTag iptype ifname) (linesOf file)
  · rw [if_pos left] at update
    obtain ⟨rfl, unreached⟩ := left
    rw [update, update, and_iff_left rfl, updated_self_iff unreached]
    constructor
    · exact fun right => ⟨fun _ _ => right, fun found => absurd found (by simpa using unreached)⟩
    · exact fun clean => clean.untouched rfl unreached
  · rw [if_neg left] at update
    have found : dns1 ≠ none ∨ Reached (dnsTag iptype ifname) (linesOf file) := by
      rwa [not_and_or, not_not] at left
    have written := @linesOf_rewritten iptype ifname dns1 dns2 file (dnsTag iptype ifname) maxDns
    constructor
    · rintro ⟨updated, -⟩
      rw [Updated, update, written] at updated
      obtain ⟨new, old⟩ := List.append_inj updated (by simp [nameservers])
      refine ⟨fun none unreached => absurd ⟨none, unreached⟩ left, fun _ => ?_⟩
      exact ⟨nameservers_eq_iff.mp new, table_eq_iff.mp old⟩
    · intro clean
      obtain ⟨fits, kept⟩ := clean.rewritten found
      dsimp only at written
      rw [nameservers_eq_iff.mpr fits, table_eq_iff.mpr kept] at update written
      have updated : Updated iptype ifname dns1 dns2 file
          (updateResolvConf iptype ifname dns1 dns2 file) := by
        rw [Updated, update, written]
      exact ⟨updated, update_again updated fits short kept update⟩

end

/-- An interface as the connection manager names it. -/
def wwan0 : Word := ⟨ascii "wwan0".toList, by decide, by decide⟩

def resolver : Address := ⟨⟨ascii "8.8.8.8".toList, by decide, by decide⟩, by decide⟩

/-- The old line of the interface is replaced, and the line of the user stays. -/
theorem own_line_replaced :
    let file := some (ascii "nameserver 9.9.9.9\nnameserver 1.1.1.1 # IPV4 wwan0\n".toList)
    (∀ line ∈ linesOf file, line.length < dnsLineRoom) ∧
      updateResolvConf 4 wwan0 (some resolver) none file =
        some (ascii "nameserver 8.8.8.8 # IPV4 wwan0\nnameserver 9.9.9.9\n".toList) ∧
      Clean 4 wwan0 (some resolver) none file := by
  intro file
  have short : ∀ line ∈ linesOf file, line.length < dnsLineRoom := by decide +kernel
  have after : updateResolvConf 4 wwan0 (some resolver) none file =
      some (ascii "nameserver 8.8.8.8 # IPV4 wwan0\nnameserver 9.9.9.9\n".toList) := by
    decide +kernel
  refine ⟨short, after, (update_exact_iff 4 wwan0 _ none file short).mp ?_⟩
  rw [after]
  exact ⟨by decide +kernel, by decide +kernel⟩

/-- The line of another interface is lost. -/
theorem other_interface_lost :
    let file := some (ascii "nameserver 1.1.1.1 # IPV4 wwan0_1\n".toList)
    (∀ line ∈ linesOf file, line.length < dnsLineRoom) ∧
      (∀ line ∈ linesOf file, ¬ Tagged 4 wwan0 line) ∧
      updateResolvConf 4 wwan0 (some resolver) none file =
        some (ascii "nameserver 8.8.8.8 # IPV4 wwan0\n".toList) ∧
      ¬ Updated 4 wwan0 (some resolver) none file
        (updateResolvConf 4 wwan0 (some resolver) none file) := by
  decide +kernel

end LorawanFeeds.IpConfig.ResolvConf
