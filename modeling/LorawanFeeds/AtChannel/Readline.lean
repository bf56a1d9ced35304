import Mathlib.Data.Bool.AllAny
import Mathlib.Data.List.TakeWhile
import LorawanFeeds.Lib.Lines
import LorawanFeeds.Lib.Memory

/-!
# The lines of the AT channel

`readline` of `atchannel.c` returns the next line that the modem has sent. What has been read and
not been returned stays in the buffer, from a cursor on and up to a null byte. The modem ends a
line with a carriage return, a line feed or both, and a read may end anywhere.
-/
namespace LorawanFeeds.AtChannel.Readline

open Lib Lines

abbrev Bytes := List UInt8

/-- `MAX_AT_RESPONSE`, the size of `cm_recv_buf`. -/
def maxAtResponse : Nat := 4096

def cr : UInt8 := 13
def lf : UInt8 := 10

def isNewline (c : UInt8) : Bool := c = cr ∨ c = lf

/-- The line that tells of a new SIM card. -/
def simInserted : Bytes := "+QSIMSTAT: 1,1".toList.map Char.toUInt8

/-- The static variables of `readline`, with the memory behind the buffer, and its local `p_read`. -/
structure Reader where
  atBuffer : Memory := fun _ => 0
  atBufferCur : Nat := 0
  pRead : Nat := 0
  rebootModem : Bool := false
  /-- A read has filled the buffer, and the null byte was written behind it. -/
  filled : Bool := false

/-- `while (*p == '\r' || *p == '\n') p++;`, which ends at the null byte of the buffer at the
latest. -/
def skipNewlines (m : Memory) (cur : Nat) : Nat := m.advance isNewline maxAtResponse cur

/-- `strlen`. -/
def strlen (m : Memory) (cur : Nat) : Nat := m.advance (fun c => c ≠ 0) maxAtResponse cur - cur

/-- `findNextEOL`. The SMS prompt is a line without an end. -/
def findNextEOL (m : Memory) (cur : Nat) : Option Nat :=
  if m cur = 62 ∧ m (cur + 1) = 32 ∧ m (cur + 2) = 0 then some (cur + 2)
  else
    let eol := m.advance (fun c => c ≠ 0 ∧ !isNewline c) maxAtResponse cur
    if m eol = 0 then none else some eol

/-- Leading newlines are skipped, and the end of the line is looked for. -/
def nextEOL (r : Reader) : Reader × Option Nat :=
  let cur := skipNewlines r.atBuffer r.atBufferCur
  ({ r with atBufferCur := cur }, findNextEOL r.atBuffer cur)

/-- The buffer is given up. -/
def ditch (r : Reader) : Reader :=
  { r with atBuffer := Memory.Write.apply r.atBuffer ⟨0, [0]⟩, atBufferCur := 0, pRead := 0 }

/-- What `readline` does before its loop: a line may be there already, and a part of one is moved
to the front. -/
def enter (r : Reader) : Reader × Option Nat :=
  if r.atBuffer r.atBufferCur = 0 then (ditch r, none)
  else
    match nextEOL r with
    | (r, some eol) => (r, some eol)
    | (r, none) =>
      let len := strlen r.atBuffer r.atBufferCur
      ({ r with
        atBuffer := Memory.memcpy r.atBuffer (r.atBuffer.tail r.atBufferCur) (len + 1)
        atBufferCur := 0
        pRead := len }, none)

/-- A turn of the loop begins with room for a read. -/
def makeRoom (r : Reader) : Reader := if maxAtResponse - r.pRead = 0 then ditch r else r

/-- One turn of the loop, with what `read` returns. -/
def receive (r : Reader) (bytes : Bytes) : Reader × Option Nat :=
  let r := makeRoom r
  let room := maxAtResponse - r.pRead
  let (next, eol) := nextEOL { r with
    atBuffer := Memory.Write.apply r.atBuffer ⟨r.pRead, bytes.take room ++ [0]⟩
    filled := r.filled || room ≤ bytes.length }
  ({ next with pRead := next.pRead + (bytes.take room).length }, eol)

/-- What `readline` does after its loop, and the line that it returns. -/
def leave (r : Reader) (eol : Nat) : Bytes × Reader :=
  let m := Memory.Write.apply r.atBuffer ⟨eol, [0]⟩
  let ret := m.read r.atBufferCur (strlen m r.atBufferCur)
  (ret, { r with
    atBuffer := m
    atBufferCur := eol + 1
    rebootModem := r.rebootModem || ret = simInserted })

/-- The loop of `readline`, over what the reads return; `none` is `NULL`, at the end of the file. -/
def readLoop (r : Reader) : List Bytes → Option Bytes × Reader × List Bytes
  | [] => (none, makeRoom r, [])
  | bytes :: reads =>
    if bytes = [] then (none, makeRoom r, reads)
    else
      match receive r bytes with
      | (r, some eol) => (some (leave r eol).1, (leave r eol).2, reads)
      | (r, none) => readLoop r reads

/-- `readline`, with the reads that are left for the next call. -/
def readline (r : Reader) (reads : List Bytes) : Option Bytes × Reader × List Bytes :=
  match enter r with
  | (r, some eol) => (some (leave r eol).1, (leave r eol).2, reads)
  | (r, none) => readLoop r reads

/-- The lines that successive calls return, up to the first `NULL`. -/
def readlines : Nat → Reader → List Bytes → List Bytes × Reader
  | 0, r, _ => ([], r)
  | calls + 1, r, reads =>
    match readline r reads with
    | (none, r, _) => ([], r)
    | (some line, r, reads) =>
      let (lines, r) := readlines calls r reads
      (line :: lines, r)

/-! ### What is in the buffer -/

/-- What has been read and not been returned. -/
structure Pending (r : Reader) (data : Bytes) : Prop where
  holds : r.atBuffer.Holds r.atBufferCur (data ++ [0])
  whole : 0 ∉ data
  inside : r.atBufferCur + data.length < maxAtResponse

/-- The SMS prompt. -/
def prompt : Bytes := [62, 32]

theorem isPrompt_iff {m : Memory} {cur : Nat} {data : Bytes} (holds : m.Holds cur (data ++ [0]))
    (whole : 0 ∉ data) :
    (m cur = 62 ∧ m (cur + 1) = 32 ∧ m (cur + 2) = 0) ↔ data = prompt := by
  have first : m cur = (data ++ [0]).get ⟨0, by simp⟩ := holds 0 (by simp)
  rcases data with _ | ⟨a, _ | ⟨b, _ | ⟨c, data⟩⟩⟩
  · simpa [prompt] using fun same => absurd (first.symm.trans same) (by decide)
  · have second : m (cur + 1) = 0 := holds 1 (by simp)
    simp [prompt, second]
  · have second : m (cur + 1) = b := holds 1 (by simp)
    have third : m (cur + 2) = 0 := holds 2 (by simp)
    simp at first
    simp [prompt, first, second, third]
  · have third : m (cur + 2) = c := holds 2 (by simp)
    have some : c ≠ 0 := fun zero => whole (by simp [zero])
    simp [prompt, third, some]

theorem findNextEOL_unbroken {m : Memory} {cur : Nat} {data : Bytes}
    (holds : m.Holds cur (data ++ [0])) (whole : 0 ∉ data) (unbroken : Unbroken isNewline data)
    (short : data.length ≤ maxAtResponse) (unprompted : data ≠ prompt) :
    findNextEOL m cur = none := by
  have goesOn : ∀ b ∈ data, decide (b ≠ 0 ∧ !isNewline b) = true := by
    intro b member
    simpa [unbroken b member] using fun zero : b = 0 => whole (zero ▸ member)
  have last : m (cur + data.length) = 0 := (Memory.holds_append.mp holds).2 0 (by simp)
  rw [findNextEOL, if_neg (by rwa [isPrompt_iff holds whole]),
    Memory.advance_eq holds goesOn (by decide) short]
  exact if_pos last

theorem findNextEOL_line {m : Memory} {cur : Nat} {line rest : Bytes} {e : UInt8}
    (holds : m.Holds cur (line ++ e :: rest ++ [0])) (whole : 0 ∉ line ++ e :: rest)
    (unbroken : Unbroken isNewline line) (ends : isNewline e = true)
    (short : line.length ≤ maxAtResponse) : findNextEOL m cur = some (cur + line.length) := by
  have goesOn : ∀ b ∈ line, decide (b ≠ 0 ∧ !isNewline b) = true := by
    intro b member
    simpa [unbroken b member] using fun zero : b = 0 => whole (by simp [← zero, member])
  have unprompted : line ++ e :: rest ≠ prompt := by
    intro same
    have member : e ∈ prompt := by simp [← same]
    have solid : ∀ b ∈ prompt, isNewline b = false := List.all_iff_forall_prop.mp (by decide)
    exact absurd ends (by simp [solid e member])
  have front : m.Holds cur (line ++ [e]) := by
    rw [List.append_assoc, List.cons_append, ← List.singleton_append, ← List.append_assoc] at holds
    exact (Memory.holds_append.mp holds).1
  have last : m (cur + line.length) = e := (Memory.holds_append.mp front).2 0 (by simp)
  have some : e ≠ 0 := fun zero => whole (by simp [zero])
  rw [findNextEOL, if_neg (by rwa [isPrompt_iff holds whole]),
    Memory.advance_eq front goesOn (by simp [ends]) short]
  exact if_neg (by rwa [last])

/-! ### One call -/

section

variable {r : Reader} {data : Bytes} (pending : Pending r data)

include pending

/-- The newlines at the front are skipped. -/
theorem nextEOL_fst : (nextEOL r).1 =
    { r with atBufferCur := r.atBufferCur + (data.takeWhile isNewline).length } := by
  have parts := List.takeWhile_append_dropWhile (p := isNewline) (l := data)
  have short : (data.takeWhile isNewline).length ≤ maxAtResponse := by
    have size := congrArg List.length parts
    rw [List.length_append] at size
    have inside := pending.inside
    omega
  have goesOn : ∀ b ∈ data.takeWhile isNewline, isNewline b = true :=
    fun b member => List.mem_takeWhile_imp member
  have holds := pending.holds
  rw [← parts, List.append_assoc] at holds
  -- What follows is the null byte, or no newline.
  obtain ⟨stop, more, eq, stops⟩ : ∃ stop more,
      data.dropWhile isNewline ++ [0] = stop :: more ∧ isNewline stop = false := by
    cases rest : data.dropWhile isNewline with
    | nil => exact ⟨0, [], rfl, by decide⟩
    | cons stop more =>
      refine ⟨stop, more ++ [0], rfl, ?_⟩
      have first := List.head_dropWhile_not isNewline (l := data) (by simp [rest])
      simpa [rest] using first
  rw [eq, ← List.singleton_append, ← List.append_assoc] at holds
  have front := (Memory.holds_append.mp holds).1
  rw [nextEOL, skipNewlines, Memory.advance_eq front goesOn stops short]

theorem pending_nextEOL : Pending (nextEOL r).1 (data.dropWhile isNewline) := by
  have parts := List.takeWhile_append_dropWhile (p := isNewline) (l := data)
  have size := congrArg List.length parts
  rw [List.length_append] at size
  have holds := pending.holds
  have inside := pending.inside
  rw [← parts, List.append_assoc] at holds
  rw [nextEOL_fst pending]
  refine ⟨(Memory.holds_append.mp holds).2, fun zero => pending.whole ?_, ?_⟩
  · exact (List.dropWhile_sublist _).mem zero
  · dsimp only
    omega

/-- There is a line, or there is none. -/
theorem nextEOL_cases (unprompted : data.dropWhile isNewline ≠ prompt) :
    Unbroken isNewline (data.dropWhile isNewline) ∧ (nextEOL r).2 = none ∨
      ∃ line e rest, data.dropWhile isNewline = line ++ e :: rest ∧ line ≠ [] ∧
        Unbroken isNewline line ∧ isNewline e = true ∧
          (nextEOL r).2 = some ((nextEOL r).1.atBufferCur + line.length) := by
  have left := pending_nextEOL pending
  have look : (nextEOL r).2 = findNextEOL (nextEOL r).1.atBuffer (nextEOL r).1.atBufferCur := rfl
  have inside := left.inside
  rcases @unbroken_or_append _ isNewline (data.dropWhile isNewline) with
    unbroken | ⟨line, e, rest, eq, unbroken, ends⟩
  · refine .inl ⟨unbroken, ?_⟩
    rw [look, findNextEOL_unbroken left.holds left.whole unbroken (by omega) unprompted]
  · have some : line ≠ [] := by
      rintro rfl
      have first := List.head_dropWhile_not isNewline (l := data) (by simp [eq])
      simp [eq, ends] at first
    refine .inr ⟨line, e, rest, eq, some, unbroken, ends, ?_⟩
    have holds := left.holds
    have whole := left.whole
    rw [eq] at holds whole inside
    rw [List.length_append] at inside
    rw [look, findNextEOL_line holds whole unbroken ends (by omega)]

end

theorem makeRoom_of_lt {r : Reader} (inside : r.pRead < maxAtResponse) : makeRoom r = r :=
  if_neg (by omega)

/-- A line is returned, and what follows it stays. -/
theorem leave_eq {r : Reader} {line rest : Bytes} {e : UInt8}
    (pending : Pending r (line ++ e :: rest)) :
    (leave r (r.atBufferCur + line.length)).1 = line ∧
      Pending (leave r (r.atBufferCur + line.length)).2 rest := by
  have inside := pending.inside
  rw [List.length_append, List.length_cons] at inside
  have holds := pending.holds
  rw [List.append_assoc, List.cons_append, ← List.singleton_append, Memory.holds_append,
    Memory.holds_append] at holds
  obtain ⟨first, -, second⟩ := holds
  have whole : 0 ∉ line := fun zero => pending.whole (by simp [zero])
  -- The null byte takes the place of the end of the line.
  have text : (Memory.Write.apply r.atBuffer ⟨r.atBufferCur + line.length, [0]⟩).Holds r.atBufferCur
      (line ++ [0]) :=
    Memory.holds_append.mpr ⟨Memory.Write.holds_before first (le_refl _),
      Memory.Write.holds_apply _ ⟨_, _⟩⟩
  have goesOn : ∀ b ∈ line, decide (b ≠ 0) = true := by
    intro b member
    simpa using fun zero : b = 0 => whole (zero ▸ member)
  have length : strlen (Memory.Write.apply r.atBuffer ⟨r.atBufferCur + line.length, [0]⟩)
      r.atBufferCur = line.length := by
    rw [strlen, Memory.advance_eq text goesOn (by decide) (by omega), Nat.add_sub_cancel_left]
  refine ⟨?_, ?_, fun zero => pending.whole (by simp [zero]), by simp [leave]; omega⟩
  · rw [leave, length]
    exact (Memory.holds_append.mp text).1.read_eq
  · exact Memory.Write.holds_behind second (le_refl _)

/-- `readline` waits for more than the part of a line that it has. -/
structure InLoop (r : Reader) (data : Bytes) : Prop extends Pending r data where
  unbroken : Unbroken isNewline data
  atEnd : r.pRead = r.atBufferCur + data.length

/-- What `readline` has found in the data: a part of a line, or a line. -/
inductive Found (r : Reader) (data : Bytes) : Reader × Option Nat → Prop
  | part {next : Reader} (reboot : next.rebootModem = r.rebootModem)
      (inLoop : InLoop next (data.dropWhile isNewline)) : Found r data (next, none)
  | line {next : Reader} {line rest : Bytes} {e : UInt8}
      (reboot : next.rebootModem = r.rebootModem)
      (eq : data.dropWhile isNewline = line ++ e :: rest) (some : line ≠ [])
      (unbroken : Unbroken isNewline line) (ends : isNewline e = true)
      (pending : Pending next (line ++ e :: rest)) :
      Found r data (next, Option.some (next.atBufferCur + line.length))

theorem enter_found {r : Reader} {data : Bytes} (pending : Pending r data)
    (unprompted : data.dropWhile isNewline ≠ prompt) : Found r data (enter r) := by
  rw [enter]
  by_cases empty : data = []
  · subst empty
    have here : r.atBuffer r.atBufferCur = 0 := pending.holds 0 (by simp)
    rw [if_pos here]
    refine .part rfl ⟨⟨?_, List.not_mem_nil, (by decide : 0 < maxAtResponse)⟩, unbroken_nil, rfl⟩
    exact Memory.Write.holds_apply r.atBuffer ⟨0, [0]⟩
  · have here : r.atBuffer r.atBufferCur ≠ 0 := by
      obtain ⟨c, more, rfl⟩ := List.exists_cons_of_ne_nil empty
      have first : r.atBuffer r.atBufferCur = c := pending.holds 0 (by simp)
      exact fun zero => pending.whole (by simp [← zero, first])
    rw [if_neg here]
    have left := pending_nextEOL pending
    have reboot : (nextEOL r).1.rebootModem = r.rebootModem := rfl
    rcases nextEOL_cases pending unprompted with
      ⟨unbroken, none⟩ | ⟨line, e, rest, eq, some, unbroken, ends, found⟩
    · rw [← Prod.eta (nextEOL r), none]
      -- The part is moved to the front of the buffer, with its null byte.
      have goesOn : ∀ b ∈ data.dropWhile isNewline, decide (b ≠ 0) = true := by
        intro b member
        simpa using fun zero : b = 0 => left.whole (zero ▸ member)
      have inside := left.inside
      have length : strlen (nextEOL r).1.atBuffer (nextEOL r).1.atBufferCur =
          (data.dropWhile isNewline).length := by
        rw [strlen, Memory.advance_eq left.holds goesOn (by decide) (by omega),
          Nat.add_sub_cancel_left]
      dsimp only
      rw [length]
      refine .part reboot ⟨⟨?_, left.whole, by dsimp only; omega⟩, unbroken, (Nat.zero_add _).symm⟩
      have moved : ((nextEOL r).1.atBuffer.tail (nextEOL r).1.atBufferCur).Holds 0
          (data.dropWhile isNewline ++ [0]) := Memory.holds_tail.mpr left.holds
      refine Memory.Holds.congr moved fun k _ inside => ?_
      rw [List.length_append, List.length_singleton, Nat.zero_add] at inside
      exact Memory.memcpy_of_lt _ _ inside
    · rw [← Prod.eta (nextEOL r), found]
      exact .line reboot eq some unbroken ends (eq ▸ left)

/-- The new bytes are put behind the part that is there. -/
theorem pending_written {r : Reader} {data bytes : Bytes} (inLoop : InLoop r data)
    (room : bytes.length < maxAtResponse - r.pRead) (whole : 0 ∉ bytes) (filled : Bool) :
    Pending { r with
      atBuffer := Memory.Write.apply r.atBuffer ⟨r.pRead, bytes ++ [0]⟩
      filled := filled } (data ++ bytes) := by
  have atEnd := inLoop.atEnd
  refine ⟨?_, ?_, ?_⟩
  · rw [List.append_assoc]
    have old := (Memory.holds_append.mp inLoop.holds).1
    refine Memory.holds_append.mpr ⟨Memory.Write.holds_before old (by simp; omega), ?_⟩
    dsimp only
    rw [← atEnd]
    exact Memory.Write.holds_apply _ ⟨_, _⟩
  · rw [List.mem_append, not_or]
    exact ⟨inLoop.whole, whole⟩
  · rw [List.length_append]
    dsimp only
    omega

theorem receive_found {r : Reader} {data bytes : Bytes} (inLoop : InLoop r data)
    (room : bytes.length < maxAtResponse - r.pRead) (whole : 0 ∉ bytes)
    (unprompted : (data ++ bytes).dropWhile isNewline ≠ prompt) :
    Found r (data ++ bytes) (receive r bytes) := by
  have atEnd := inLoop.atEnd
  rw [receive, makeRoom_of_lt (by omega)]
  dsimp only
  rw [List.take_of_length_le (Nat.le_of_lt room)]
  have pending := pending_written inLoop room whole
    (r.filled || decide (maxAtResponse - r.pRead ≤ bytes.length))
  have left := pending_nextEOL pending
  have start := nextEOL_fst pending
  have cases := nextEOL_cases pending unprompted
  generalize look : nextEOL _ = found at left start cases ⊢
  obtain ⟨next, eol⟩ := found
  dsimp only at left start cases ⊢
  have still : Pending { next with pRead := next.pRead + bytes.length }
      ((data ++ bytes).dropWhile isNewline) := ⟨left.holds, left.whole, left.inside⟩
  have reboot : next.rebootModem = r.rebootModem := by rw [start]
  rcases cases with ⟨unbroken, rfl⟩ | ⟨line, e, rest, eq, some, unbroken, ends, rfl⟩
  · refine .part reboot ⟨still, unbroken, ?_⟩
    have parts := List.takeWhile_append_dropWhile (p := isNewline) (l := data ++ bytes)
    have size := congrArg List.length parts
    rw [List.length_append, List.length_append] at size
    rw [start]
    dsimp only
    omega
  · exact .line reboot eq some unbroken ends (eq ▸ still)

/-! ### Room in the buffer -/

/-- If a read has not filled the buffer, no earlier one has, and there was room for it. -/
theorem of_receive_filled {r : Reader} {bytes : Bytes} (free : (receive r bytes).1.filled = false)
    (inside : r.pRead < maxAtResponse) :
    r.filled = false ∧ bytes.length < maxAtResponse - r.pRead := by
  rw [receive, makeRoom_of_lt inside] at free
  have both : (r.filled || decide (maxAtResponse - r.pRead ≤ bytes.length)) = false := free
  rw [Bool.or_eq_false_iff, decide_eq_false_iff_not, Nat.not_le] at both
  exact both

theorem makeRoom_filled (r : Reader) : (makeRoom r).filled = r.filled := by
  rw [makeRoom]
  split <;> rfl

theorem filled_of_receive {r : Reader} (bytes : Bytes) (full : r.filled = true) :
    (receive r bytes).1.filled = true := by
  exact (congrArg (· || _) ((makeRoom_filled r).trans full)).trans (Bool.true_or _)

theorem enter_filled (r : Reader) : (enter r).1.filled = r.filled := by
  rw [enter]
  split
  · rfl
  · have same : (nextEOL r).1.filled = r.filled := rfl
    generalize nextEOL r = found at same
    obtain ⟨next, eol⟩ := found
    cases eol with
    | none => exact same
    | some eol => exact same

theorem filled_of_readLoop {r : Reader} (reads : List Bytes) (full : r.filled = true) :
    (readLoop r reads).2.1.filled = true := by
  induction reads generalizing r with
  | nil => exact (makeRoom_filled r).trans full
  | cons bytes reads ih =>
    rw [readLoop]
    split
    · exact (makeRoom_filled r).trans full
    · have still := filled_of_receive bytes full
      generalize receive r bytes = found at still
      obtain ⟨next, eol⟩ := found
      cases eol with
      | none => exact ih still
      | some eol => exact still

theorem filled_of_readline {r : Reader} (reads : List Bytes) (full : r.filled = true) :
    (readline r reads).2.1.filled = true := by
  rw [readline]
  have still := (enter_filled r).trans full
  generalize enter r = found at still
  obtain ⟨next, eol⟩ := found
  cases eol with
  | none => exact filled_of_readLoop reads still
  | some eol => exact still

theorem filled_of_readlines (calls : Nat) {r : Reader} (reads : List Bytes)
    (full : r.filled = true) : (readlines calls r reads).2.filled = true := by
  induction calls generalizing r reads with
  | zero => exact full
  | succ calls ih =>
    rw [readlines]
    have still := filled_of_readline reads full
    generalize readline r reads = call at still
    obtain ⟨line, next, left⟩ := call
    cases line with
    | none => exact still
    | some line => exact ih left still

/-! ### Successive calls -/

/-- No line begins with the SMS prompt; the one that is not complete counts as one. -/
def Unprompted (stream : Bytes) : Prop :=
  ∀ line ∈ (words isNewline stream).1 ++ [(words isNewline stream).2], ¬ prompt <+: line

instance (stream : Bytes) : Decidable (Unprompted stream) := inferInstanceAs (Decidable (∀ _ ∈ _, _))

theorem Unprompted.ne_prompt {data more : Bytes} (unprompted : Unprompted (data ++ more)) :
    data.dropWhile isNewline ≠ prompt := by
  intro same
  have unbroken : Unbroken isNewline prompt := List.all_iff_forall_prop.mp (by decide)
  obtain ⟨word, member, front⟩ := exists_word (by decide) unbroken more
  rw [← same, words_dropWhile_append] at member
  exact unprompted word member front

/-- What a call leaves to be returned, of a stream that begins in the buffer. -/
inductive Returned (r : Reader) (reads : List Bytes) (stream : Bytes) :
    Option Bytes × Reader × List Bytes → Prop
  | line {line data : Bytes} {next : Reader} {left : List Bytes} (pending : Pending next data)
      (later : left <:+ reads)
      (found : words isNewline stream = (line :: (words isNewline (data ++ left.flatten)).1,
        (words isNewline (data ++ left.flatten)).2))
      (shorter : (data ++ left.flatten).length < stream.length)
      (reboot : next.rebootModem = (r.rebootModem || decide (line = simInserted))) :
      Returned r reads stream (some line, next, left)
  | last {tail : Bytes} {next : Reader} (pending : Pending next tail)
      (found : words isNewline stream = ([], tail)) (reboot : next.rebootModem = r.rebootModem) :
      Returned r reads stream (none, next, [])

/-- A line that has been found is returned. -/
theorem Returned.of_line {r next : Reader} {reads left : List Bytes} {data line rest : Bytes}
    {e : UInt8} (reboot : next.rebootModem = r.rebootModem) (later : left <:+ reads)
    (eq : data.dropWhile isNewline = line ++ e :: rest) (some : line ≠ [])
    (unbroken : Unbroken isNewline line) (ends : isNewline e = true)
    (pending : Pending next (line ++ e :: rest)) :
    Returned r reads (data ++ left.flatten)
      (Option.some (leave next (next.atBufferCur + line.length)).1,
        (leave next (next.atBufferCur + line.length)).2, left) := by
  obtain ⟨text, follows⟩ := leave_eq pending
  have flag : (leave next (next.atBufferCur + line.length)).2.rebootModem = (next.rebootModem ||
      decide ((leave next (next.atBufferCur + line.length)).1 = simInserted)) := rfl
  rw [text] at flag ⊢
  refine .line follows later ?_ ?_ (by rw [flag, reboot])
  · rw [← words_dropWhile_append, eq, List.append_assoc, List.cons_append,
      words_append_end some unbroken ends]
  · have size := (List.dropWhile_sublist (l := data) isNewline).length_le
    rw [eq, List.length_append, List.length_cons] at size
    rw [List.length_append, List.length_append]
    omega

/-- A call goes on with more newlines taken away and a part of the stream read. -/
theorem Returned.of_part {r next : Reader} {reads later : List Bytes} {data more : Bytes}
    {call : Option Bytes × Reader × List Bytes} (reboot : next.rebootModem = r.rebootModem)
    (suffix : later <:+ reads)
    (returned : Returned next later (data.dropWhile isNewline ++ more) call) :
    Returned r reads (data ++ more) call := by
  have size := (List.dropWhile_sublist (l := data) isNewline).length_le
  cases returned with
  | line pending left found shorter flag =>
    rw [words_dropWhile_append] at found
    refine .line pending (left.trans suffix) found (shorter.trans_le ?_) (by rw [flag, reboot])
    rw [List.length_append, List.length_append]
    exact Nat.add_le_add_right size _
  | last pending found flag =>
    rw [words_dropWhile_append] at found
    exact .last pending found (by rw [flag, reboot])

theorem Unprompted.dropWhile {data more : Bytes} (unprompted : Unprompted (data ++ more)) :
    Unprompted (data.dropWhile isNewline ++ more) := by
  rw [Unprompted, words_dropWhile_append]
  exact unprompted

theorem readLoop_returned {r : Reader} {reads : List Bytes} {data : Bytes} (inLoop : InLoop r data)
    (nonempty : ∀ bytes ∈ reads, bytes ≠ []) (whole : 0 ∉ reads.flatten)
    (unprompted : Unprompted (data ++ reads.flatten))
    (free : (readLoop r reads).2.1.filled = false) :
    Returned r reads (data ++ reads.flatten) (readLoop r reads) := by
  induction reads generalizing r data with
  | nil =>
    have inside : r.pRead < maxAtResponse := inLoop.atEnd ▸ inLoop.inside
    rw [readLoop, makeRoom_of_lt inside]
    refine .last inLoop.toPending ?_ rfl
    rw [List.flatten_nil, List.append_nil, words_unbroken inLoop.unbroken]
  | cons bytes reads ih =>
    have some : bytes ≠ [] := nonempty bytes (.head _)
    rw [List.flatten_cons, List.mem_append, not_or] at whole
    rw [List.flatten_cons, ← List.append_assoc] at unprompted ⊢
    have inside : r.pRead < maxAtResponse := inLoop.atEnd ▸ inLoop.inside
    rw [readLoop, if_neg some] at free ⊢
    have room : (receive r bytes).1.filled = false := by
      generalize receive r bytes = found at free
      obtain ⟨next, eol⟩ := found
      cases eol with
      | some eol => exact free
      | none =>
        by_contra full
        rw [Bool.not_eq_false] at full
        exact absurd (filled_of_readLoop reads full) (by simpa using free)
    have found := receive_found inLoop (of_receive_filled room inside).2 whole.1
      unprompted.ne_prompt
    generalize receive r bytes = call at free found
    cases found with
    | line reboot eq some unbroken ends pending =>
      exact .of_line reboot (List.suffix_cons _ _) eq some unbroken ends pending
    | part reboot inLoop =>
      refine .of_part reboot (List.suffix_cons _ _) ?_
      exact ih inLoop (fun other member => nonempty other (.tail _ member)) whole.2
        unprompted.dropWhile free

theorem readline_returned {r : Reader} {reads : List Bytes} {data : Bytes} (pending : Pending r data)
    (nonempty : ∀ bytes ∈ reads, bytes ≠ []) (whole : 0 ∉ reads.flatten)
    (unprompted : Unprompted (data ++ reads.flatten))
    (free : (readline r reads).2.1.filled = false) :
    Returned r reads (data ++ reads.flatten) (readline r reads) := by
  have found := enter_found pending unprompted.ne_prompt
  rw [readline] at free ⊢
  generalize enter r = call at free found
  cases found with
  | line reboot eq some unbroken ends pending =>
    exact .of_line reboot (List.suffix_refl _) eq some unbroken ends pending
  | part reboot inLoop =>
    exact .of_part reboot (List.suffix_refl _)
      (readLoop_returned inLoop nonempty whole unprompted.dropWhile free)

/-- Successive calls, from a buffer with data in it. -/
theorem readlines_eq {calls : Nat} {r : Reader} {reads : List Bytes} {data : Bytes}
    (pending : Pending r data) (nonempty : ∀ bytes ∈ reads, bytes ≠ []) (whole : 0 ∉ reads.flatten)
    (unprompted : Unprompted (data ++ reads.flatten))
    (enough : (data ++ reads.flatten).length < calls)
    (free : (readlines calls r reads).2.filled = false) :
    (readlines calls r reads).1 = (words isNewline (data ++ reads.flatten)).1 ∧
      Pending (readlines calls r reads).2 (words isNewline (data ++ reads.flatten)).2 ∧
        (readlines calls r reads).2.rebootModem =
          (r.rebootModem || decide (simInserted ∈ (readlines calls r reads).1)) := by
  induction calls generalizing r reads data with
  | zero => cases enough
  | succ calls ih =>
    rw [readlines] at free ⊢
    have room : (readline r reads).2.1.filled = false := by
      generalize readline r reads = call at free
      obtain ⟨line, next, left⟩ := call
      cases line with
      | none => exact free
      | some line =>
        by_contra full
        rw [Bool.not_eq_false] at full
        exact absurd (filled_of_readlines calls left full) (by simpa using free)
    have returned := readline_returned pending nonempty whole unprompted room
    generalize readline r reads = call at free returned
    cases returned with
    | last pending found reboot =>
      rw [found]
      exact ⟨rfl, pending, by simp [reboot]⟩
    | @line line rest next left pending later found shorter reboot =>
      rw [found]
      rw [Unprompted, found] at unprompted
      have wholeLater : 0 ∉ left.flatten := by
        intro zero
        obtain ⟨bytes, member, inside⟩ := List.mem_flatten.mp zero
        exact whole (List.mem_flatten.mpr ⟨bytes, later.mem member, inside⟩)
      obtain ⟨lines, tail, flag⟩ := ih pending
        (fun bytes member => nonempty bytes (later.mem member)) wholeLater
        (fun line member => unprompted line (.tail _ member)) (by omega) free
      refine ⟨congrArg _ lines, tail, ?_⟩
      simp [flag, reboot, Bool.or_assoc, eq_comm]

/-- Successive calls of `readline` return the lines that the modem has sent, however they have come
in, and keep what is not yet a line. The modem is to be started again exactly if one of them says
that a SIM card has been inserted. -/
theorem lines_of_any_reads (reads : List Bytes) (nonempty : ∀ bytes ∈ reads, bytes ≠ [])
    (whole : 0 ∉ reads.flatten) (unprompted : Unprompted reads.flatten) (calls : Nat)
    (enough : reads.flatten.length < calls)
    (room : (readlines calls {} reads).2.filled = false) :
    (readlines calls {} reads).1 = (words isNewline reads.flatten).1 ∧
      Pending (readlines calls {} reads).2 (words isNewline reads.flatten).2 ∧
        ((readlines calls {} reads).2.rebootModem = true ↔
          simInserted ∈ (words isNewline reads.flatten).1) := by
  have empty : Pending {} [] := ⟨fun _ inside => by
    cases Nat.lt_one_iff.mp inside
    rfl, List.not_mem_nil, by decide⟩
  obtain ⟨lines, tail, reboot⟩ := readlines_eq empty nonempty whole unprompted enough room
  refine ⟨lines, tail, ?_⟩
  rw [reboot, lines]
  simp

/-- A carriage return and its line feed, a line and a part of one, cut apart by the reads. -/
theorem sim_inserted_in_pieces :
    let reads := [[13], [10, 79, 75, 13], 10 :: simInserted.take 5, simInserted.drop 5 ++ [13, 10, 43]]
    (∀ bytes ∈ reads, bytes ≠ []) ∧ 0 ∉ reads.flatten ∧ Unprompted reads.flatten ∧
      (readlines 30 {} reads).2.filled = false ∧
        words isNewline reads.flatten = ([[79, 75], simInserted], [43]) ∧
      (readlines 30 {} reads).1 = [[79, 75], simInserted] ∧
        Pending (readlines 30 {} reads).2 [43] ∧
          (readlines 30 {} reads).2.rebootModem = true := by
  intro reads
  have nonempty : ∀ bytes ∈ reads, bytes ≠ [] := by decide
  have whole : 0 ∉ reads.flatten := by decide
  have unprompted : Unprompted reads.flatten := by decide
  have room : (readlines 30 {} reads).2.filled = false := by decide +kernel
  have found : words isNewline reads.flatten = ([[79, 75], simInserted], [43]) := by decide
  obtain ⟨lines, tail, reboot⟩ :=
    lines_of_any_reads reads nonempty whole unprompted 30 (by decide) room
  rw [found] at lines tail reboot
  exact ⟨nonempty, whole, unprompted, room, found, lines, tail, reboot.mpr (by simp)⟩

end LorawanFeeds.AtChannel.Readline
