import LorawanFeeds.Lib.Run
import LorawanFeeds.AtChannel.Readline

/-!
# Where the AT channel writes

The buffer of `readline` has the size of `cm_recv_buf`, and every read asks for all that is free in
it. The null byte behind what has been read, and the cursor behind a line, are set without a look at
the end of the buffer.
-/
namespace LorawanFeeds.AtChannel.Readline

open Lib Lines Memory

/-! ### What is written -/

/-- The writes of `makeRoom`. -/
def roomWrites (r : Reader) : List Write := if maxAtResponse - r.pRead = 0 then [⟨0, [0]⟩] else []

/-- The writes of `enter`: the buffer is empty, or a part of a line is moved. -/
def enterWrites (r : Reader) : List Write :=
  if r.atBuffer r.atBufferCur = 0 then [⟨0, [0]⟩]
  else
    match nextEOL r with
    | (_, some _) => []
    | (r, none) =>
      [⟨0, r.atBuffer.read r.atBufferCur (strlen r.atBuffer r.atBufferCur + 1)⟩]

/-- What a read puts into the buffer. -/
def taken (r : Reader) (bytes : Bytes) : Bytes := bytes.take (maxAtResponse - (makeRoom r).pRead)

/-- The writes of `receive`: those of the read, and the null byte. -/
def receiveWrites (r : Reader) (bytes : Bytes) : List Write :=
  roomWrites r ++ [⟨(makeRoom r).pRead, taken r bytes⟩,
    ⟨(makeRoom r).pRead + (taken r bytes).length, [0]⟩]

/-- The reader and where it is in `readline`, with everything that has been written so far, and the
cursor and the place of the last null byte at each return. Between two calls `pRead` still tells this
place. -/
structure Session where
  reader : Reader := {}
  inLoop : Bool := false
  writes : List Write := []
  returns : List (Nat × Nat) := []

/-- `readline` is called, or a `read` of its loop returns; it has got no more than it has asked for,
and nothing at the end of the file. -/
inductive Event where
  | call
  | read (bytes : Bytes)

namespace Session

def exit (s : Session) : Session :=
  { s with inLoop := false, returns := s.returns ++ [(s.reader.atBufferCur, s.reader.pRead)] }

/-- A line is returned, or the loop goes on. -/
def goOn (s : Session) : Reader × Option Nat → Session
  | (r, none) => { s with reader := r, inLoop := true }
  | (r, some eol) =>
    exit { s with reader := (leave r eol).2, writes := s.writes ++ [⟨eol, [0]⟩] }

def step (s : Session) : Event → Session
  | .call =>
    if s.inLoop then s
    else goOn { s with writes := s.writes ++ enterWrites s.reader } (enter s.reader)
  | .read bytes =>
    if s.inLoop = false then s
    else if bytes = [] then
      exit { s with reader := makeRoom s.reader, writes := s.writes ++ roomWrites s.reader }
    else goOn { s with writes := s.writes ++ receiveWrites s.reader bytes } (receive s.reader bytes)

/-- Every write is one into the buffer, and no return has left the cursor behind the null byte. -/
structure InBounds (s : Session) : Prop where
  writes : ∀ w ∈ s.writes, w.Inside maxAtResponse
  cursor : ∀ p ∈ s.returns, p.1 ≤ p.2

end Session

/-! ### The writes are those of the reader -/

theorem makeRoom_atBuffer (r : Reader) :
    (makeRoom r).atBuffer = Write.applyAll r.atBuffer (roomWrites r) := by
  rw [makeRoom, roomWrites]
  split <;> rfl

theorem enter_atBuffer (r : Reader) :
    (enter r).1.atBuffer = Write.applyAll r.atBuffer (enterWrites r) := by
  rw [enter, enterWrites]
  split
  · rfl
  · have same : (nextEOL r).1.atBuffer = r.atBuffer := rfl
    generalize nextEOL r = found at same
    obtain ⟨next, eol⟩ := found
    cases eol with
    | some eol => exact same
    | none =>
      dsimp only at same ⊢
      rw [← same]
      funext k
      simp only [memcpy, Write.applyAll, List.foldl_cons, List.foldl_nil, Write.apply, length_read,
        Nat.zero_add, Nat.zero_le, true_and, Nat.sub_zero]
      split
      next inside => simp [Memory.read, inside, tail]
      next => rfl

theorem receive_atBuffer (r : Reader) (bytes : Bytes) :
    (receive r bytes).1.atBuffer = Write.applyAll r.atBuffer (receiveWrites r bytes) := by
  have parts : Write.applyAll r.atBuffer (receiveWrites r bytes) =
      Write.applyAll (makeRoom r).atBuffer [⟨(makeRoom r).pRead, taken r bytes⟩,
        ⟨(makeRoom r).pRead + (taken r bytes).length, [0]⟩] := by
    rw [makeRoom_atBuffer]
    exact List.foldl_append
  rw [parts]
  have whole : (receive r bytes).1.atBuffer =
      Write.apply (makeRoom r).atBuffer ⟨(makeRoom r).pRead, taken r bytes ++ [0]⟩ := rfl
  rw [whole]
  funext k
  simp only [Write.applyAll, List.foldl_cons, List.foldl_nil, Write.apply, List.length_append, List.length_singleton]
  by_cases last : k = (makeRoom r).pRead + (taken r bytes).length
  · subst last
    simp
  · by_cases inside : (makeRoom r).pRead ≤ k ∧ k < (makeRoom r).pRead + (taken r bytes).length
    · rw [if_pos (by omega), if_neg (by omega), if_pos inside,
        List.getD_append _ _ _ _ (by omega)]
    · rw [if_neg (by omega), if_neg (by omega), if_neg inside]

/-! ### A reader with its null byte in the buffer -/

/-- The cursor is not behind the null byte, and that is in the buffer. -/
structure Ended (r : Reader) : Prop where
  cursor : r.atBufferCur ≤ r.pRead
  inside : r.pRead < maxAtResponse
  null : r.atBuffer r.pRead = 0

/-- What has been received and not been returned. -/
def held (r : Reader) : Bytes := r.atBuffer.read r.atBufferCur (r.pRead - r.atBufferCur)

section

variable {r : Reader} (ended : Ended r)

include ended

/-- The cursor after leading newlines: what is left of the bytes stands there. -/
theorem skipNewlines_spec :
    let cur := skipNewlines r.atBuffer r.atBufferCur
    r.atBufferCur ≤ cur ∧ cur ≤ r.pRead ∧
      r.atBuffer.read cur (r.pRead - cur) = (held r).dropWhile isNewline := by
  intro cur
  have inside := ended.inside
  have null : isNewline (r.atBuffer r.pRead) = false := by
    rw [ended.null]
    decide
  obtain ⟨least, most, rests, passed⟩ :=
    @advance_spec r.atBuffer isNewline _ _ maxAtResponse ended.cursor null (by omega)
  change r.atBufferCur ≤ cur at least
  change cur ≤ r.pRead at most
  change isNewline (r.atBuffer cur) = false at rests
  refine ⟨least, most, ?_⟩
  have parts := read_add r.atBuffer r.atBufferCur (cur - r.atBufferCur) (r.pRead - cur)
  rw [show cur - r.atBufferCur + (r.pRead - cur) = r.pRead - r.atBufferCur by omega,
    Nat.add_sub_cancel' least] at parts
  rw [held, parts, List.dropWhile_append_of_pos]
  · -- What follows the newlines is the null byte, or no newline.
    cases left : r.pRead - cur with
    | zero => rfl
    | succ n =>
      have first : r.atBuffer.read cur (n + 1) = r.atBuffer cur :: r.atBuffer.read (cur + 1) n := by
        rw [Nat.add_comm, read_add]
        rfl
      rw [first, List.dropWhile_cons_of_neg (by simpa using rests)]
  · intro b member
    obtain ⟨k, small, rfl⟩ := List.mem_map.mp member
    have here := List.mem_range.mp small
    exact passed _ (by omega) (by change _ < cur; omega)

/-- A line ends before the null byte, unless nothing is left but the SMS prompt. -/
theorem nextEOL_le {eol : Nat} (found : (nextEOL r).2 = some eol) :
    eol ≤ r.pRead ∧ (eol + 1 ≤ r.pRead ↔ (held r).dropWhile isNewline ≠ prompt) := by
  obtain ⟨-, most, left⟩ := skipNewlines_spec ended
  have null := ended.null
  have inside := ended.inside
  rw [nextEOL] at found
  dsimp only at found left most
  generalize skipNewlines r.atBuffer r.atBufferCur = cur at found left most
  rw [← left]
  rw [findNextEOL] at found
  split at found
  next isPrompt =>
    cases found
    obtain ⟨first, second, third⟩ := isPrompt
    -- Neither of the two characters is the null byte.
    have one : cur ≠ r.pRead := by
      rintro rfl
      exact absurd first (by simp [null])
    have two : cur + 1 ≠ r.pRead := by
      intro same
      rw [same, null] at second
      exact absurd second (by decide)
    refine ⟨by omega, ?_⟩
    constructor
    · intro behind same
      have size := congrArg List.length same
      rw [length_read] at size
      change _ = 2 at size
      omega
    · intro other
      by_contra atEnd
      have two : r.pRead - cur = 2 := by omega
      rw [two] at other
      exact other (by simp [Memory.read, prompt, List.range_succ, first, second])
  next unprompted =>
    dsimp only at found
    split at found
    next => cases found
    next some =>
      cases found
      have stops : (fun c => decide (c ≠ 0 ∧ !isNewline c)) (r.atBuffer r.pRead) = false := by
        simp [null]
      obtain ⟨least, last, rests, -⟩ :=
        @advance_spec r.atBuffer (fun c => decide (c ≠ 0 ∧ !isNewline c)) _ _ maxAtResponse most
          stops (by omega)
      have before := Nat.lt_of_le_of_ne last fun same => some (by rw [same, null])
      refine ⟨last, fun _ same => unprompted ?_, fun _ => before⟩
      have size := congrArg List.length same
      rw [length_read] at size
      have two : r.pRead - cur = 2 := size
      rw [two] at same
      have bytes : [r.atBuffer cur, r.atBuffer (cur + 1)] = [62, 32] := same
      rw [List.cons.injEq, List.cons.injEq] at bytes
      refine ⟨bytes.1, bytes.2.1, ?_⟩
      rw [show cur + 2 = r.pRead by omega, null]

/-- The reader after a line that leaves the cursor in front of the null byte. -/
theorem ended_leave {next : Reader} {eol : Nat} (same : next.pRead = r.pRead)
    (buffer : next.atBuffer = r.atBuffer) (before : eol + 1 ≤ r.pRead) :
    Ended (leave next eol).2 := by
  have inside := ended.inside
  refine ⟨by rw [leave]; dsimp only; omega, by rw [leave]; dsimp only; omega, ?_⟩
  rw [leave]
  dsimp only
  rw [same, buffer, Write.apply_outside _ _ (.inr before)]
  exact ended.null

/-- The text at a place before the null byte ends there at the latest. -/
theorem strlen_spec {cur : Nat} (before : cur ≤ r.pRead) :
    cur + strlen r.atBuffer cur ≤ r.pRead ∧ r.atBuffer (cur + strlen r.atBuffer cur) = 0 := by
  have inside := ended.inside
  have stops : (fun c => decide (c ≠ 0)) (r.atBuffer r.pRead) = false := by simp [ended.null]
  obtain ⟨least, last, rests, -⟩ :=
    @advance_spec r.atBuffer (fun c => decide (c ≠ 0)) _ _ maxAtResponse before stops (by omega)
  rw [strlen, Nat.add_sub_cancel' least]
  exact ⟨last, by simpa using rests⟩

/-- Without a line, `readline` goes on with what is left at the front of the buffer. -/
theorem ended_enter_none (unfound : (enter r).2 = none) : Ended (enter r).1 := by
  have inside := ended.inside
  rw [enter] at unfound ⊢
  split
  · exact ⟨Nat.le_refl 0, (by decide : 0 < maxAtResponse), rfl⟩
  next some =>
    rw [if_neg some] at unfound
    obtain ⟨-, most, -⟩ := skipNewlines_spec ended
    obtain ⟨short, null⟩ := strlen_spec ended most
    have same : (nextEOL r).1.atBuffer = r.atBuffer := rfl
    have cur : (nextEOL r).1.atBufferCur = skipNewlines r.atBuffer r.atBufferCur := rfl
    generalize nextEOL r = found at same cur unfound
    obtain ⟨next, eol⟩ := found
    cases eol with
    | some eol => cases unfound
    | none =>
      dsimp only at same cur ⊢
      rw [same, cur]
      refine ⟨Nat.zero_le _, ?_, ?_⟩
      · dsimp only
        omega
      · dsimp only
        rw [memcpy_of_lt _ _ (Nat.lt_succ_self _)]
        exact null

/-- What `enter` writes before it returns a line or goes into the loop. -/
theorem enterWrites_inside : ∀ w ∈ enterWrites r, w.Inside maxAtResponse := by
  have inside := ended.inside
  intro w member
  rw [enterWrites] at member
  split at member
  · cases List.mem_singleton.mp member
    exact (by decide : 1 ≤ maxAtResponse)
  next =>
    obtain ⟨-, most, -⟩ := skipNewlines_spec ended
    have short := (strlen_spec ended most).1
    have same : (nextEOL r).1.atBuffer = r.atBuffer := rfl
    have cur : (nextEOL r).1.atBufferCur = skipNewlines r.atBuffer r.atBufferCur := rfl
    generalize nextEOL r = found at same cur member
    obtain ⟨next, eol⟩ := found
    cases eol with
    | some eol => cases member
    | none =>
      dsimp only at same cur member
      cases List.mem_singleton.mp member
      rw [same, cur, Write.Inside, length_read]
      dsimp only
      omega

/-- The reader after a read that leaves room for the null byte, before it looks for a line. -/
theorem ended_read {bytes : Bytes} (room : bytes.length < maxAtResponse - r.pRead) :
    let next := { r with
      atBuffer := Write.apply r.atBuffer ⟨r.pRead, bytes ++ [0]⟩, pRead := r.pRead + bytes.length }
    Ended next ∧ held next = held r ++ bytes := by
  intro next
  have cursor := ended.cursor
  have written : next.atBuffer.Holds r.pRead (bytes ++ [0]) :=
    Write.holds_apply r.atBuffer ⟨r.pRead, bytes ++ [0]⟩
  obtain ⟨front, last⟩ := holds_append.mp written
  refine ⟨⟨?_, ?_, ?_⟩, ?_⟩
  · exact Nat.le_trans cursor (Nat.le_add_right _ _)
  · change r.pRead + bytes.length < maxAtResponse
    omega
  · exact last 0 (by simp)
  · change next.atBuffer.read r.atBufferCur (r.pRead + bytes.length - r.atBufferCur) = _
    rw [show r.pRead + bytes.length - r.atBufferCur = (r.pRead - r.atBufferCur) + bytes.length by
      omega, read_add, Nat.add_sub_cancel' cursor, front.read_eq, held]
    refine congrArg (· ++ bytes) (read_congr fun k _ inside => ?_)
    exact Write.apply_outside _ _ (.inl (by dsimp only; omega))

/-- Leading newlines are taken away. -/
theorem ended_nextEOL : Ended (nextEOL r).1 :=
  ⟨(skipNewlines_spec ended).2.1, ended.inside, ended.null⟩

omit ended in
/-- A line that is there already is the next one. -/
theorem enter_some {eol : Nat} (found : (enter r).2 = some eol) : enter r = nextEOL r := by
  rw [enter] at found ⊢
  split at found
  · cases found
  next some =>
    rw [if_neg some]
    generalize nextEOL r = next at found
    obtain ⟨next, eol⟩ := next
    cases eol with
    | some eol => rfl
    | none => cases found

/-- The SMS prompt at the end of the buffer is a line. -/
theorem nextEOL_prompt (left : (held r).dropWhile isNewline = prompt) :
    ∃ eol, (nextEOL r).2 = some eol := by
  obtain ⟨-, most, same⟩ := skipNewlines_spec ended
  rw [left] at same
  have null := ended.null
  rw [nextEOL]
  dsimp only
  generalize skipNewlines r.atBuffer r.atBufferCur = cur at most same
  have size := congrArg List.length same
  rw [length_read] at size
  have two : r.pRead - cur = 2 := size
  rw [two] at same
  have bytes : [r.atBuffer cur, r.atBuffer (cur + 1)] = [62, 32] := same
  rw [List.cons.injEq, List.cons.injEq] at bytes
  rw [show r.pRead = cur + 2 by omega] at null
  exact ⟨cur + 2, by rw [findNextEOL, if_pos ⟨bytes.1, bytes.2.1, null⟩]⟩

/-- Without a line, the buffer does not end with the prompt. -/
theorem enter_none (unfound : (enter r).2 = none) : (held r).dropWhile isNewline ≠ prompt := by
  intro same
  rw [enter] at unfound
  split at unfound
  next empty =>
    -- What begins with a null byte is not the prompt.
    rw [held] at same
    cases left : r.pRead - r.atBufferCur with
    | zero =>
      rw [left] at same
      cases same
    | succ n =>
      have first : r.atBuffer.read r.atBufferCur (n + 1) =
          0 :: r.atBuffer.read (r.atBufferCur + 1) n := by
        rw [Nat.add_comm, read_add, ← empty]
        rfl
      rw [left, first, List.dropWhile_cons_of_neg (by decide)] at same
      exact absurd (List.cons.inj same).1 (by decide)
  next =>
    obtain ⟨eol, line⟩ := nextEOL_prompt ended same
    generalize nextEOL r = next at unfound line
    obtain ⟨next, found⟩ := next
    dsimp only at line
    subst line
    cases unfound

/-- A line is looked for in what has been received: only the prompt at its end is not followed by
the null byte. -/
theorem goOn_nextEOL {s : Session} (sound : s.InBounds) :
    ((s.goOn (nextEOL r)).InBounds ↔ (held r).dropWhile isNewline ≠ prompt) ∧
      ((held r).dropWhile isNewline ≠ prompt → Ended (s.goOn (nextEOL r)).reader) := by
  have inside := ended.inside
  have next := ended_nextEOL ended
  have size : (nextEOL r).1.pRead = r.pRead := rfl
  have bound (eol : Nat) := @nextEOL_le r ended eol
  have prompted := nextEOL_prompt ended
  generalize nextEOL r = found at next size bound prompted
  obtain ⟨next', eol⟩ := found
  dsimp only at next size bound prompted
  cases eol with
  | none =>
    have unprompted : (held r).dropWhile isNewline ≠ prompt := fun same => by
      obtain ⟨eol, none⟩ := prompted same
      cases none
    exact ⟨⟨fun _ => unprompted, fun _ => ⟨sound.writes, sound.cursor⟩⟩, fun _ => next⟩
  | some eol =>
    obtain ⟨last, before⟩ := bound eol rfl
    rw [← before]
    constructor
    · constructor
      · intro inBounds
        have cursor := inBounds.cursor (eol + 1, next'.pRead)
          (by simp [Session.goOn, Session.exit, leave])
        rw [size] at cursor
        exact cursor
      · intro before
        constructor
        · intro w member
          rcases List.mem_append.mp member with earlier | ends
          · exact sound.writes w earlier
          · cases List.mem_singleton.mp ends
            change eol + 1 ≤ maxAtResponse
            omega
        · intro p member
          rcases List.mem_append.mp member with earlier | ends
          · exact sound.cursor p earlier
          · cases List.mem_singleton.mp ends
            change eol + 1 ≤ next'.pRead
            omega
    · intro before
      exact ended_leave next rfl rfl (by omega)

end

/-! ### Which reads stay in the buffer -/

/-- A read does not fill the buffer, and when a line is looked for what has been received does not
end with the SMS prompt. -/
def Session.Spares (s : Session) : Event → Prop
  | .call => s.inLoop = false → (held s.reader).dropWhile isNewline ≠ prompt
  | .read bytes => s.inLoop = true → bytes ≠ [] →
      bytes.length < maxAtResponse - s.reader.pRead ∧
        (held s.reader ++ bytes).dropWhile isNewline ≠ prompt

instance (s : Session) : (e : Event) → Decidable (s.Spares e)
  | .call => inferInstanceAs (Decidable (_ → _))
  | .read _ => inferInstanceAs (Decidable (_ → _ → _))

section

variable {s : Session} (ended : Ended s.reader) (sound : s.InBounds)

include ended sound

theorem call_spec (out : s.inLoop = false) :
    ((s.step .call).InBounds ↔ s.Spares .call) ∧
      (s.Spares .call → Ended (s.step .call).reader) := by
  have written : Session.InBounds { s with writes := s.writes ++ enterWrites s.reader } := by
    refine ⟨fun w member => ?_, sound.cursor⟩
    rcases List.mem_append.mp member with earlier | enters
    · exact sound.writes w earlier
    · exact enterWrites_inside ended w enters
  have spares : s.Spares .call ↔ (held s.reader).dropWhile isNewline ≠ prompt :=
    ⟨fun spares => spares out, fun unprompted _ => unprompted⟩
  have entered : s.step .call =
      Session.goOn { s with writes := s.writes ++ enterWrites s.reader } (enter s.reader) :=
    if_neg (by simp [out])
  rw [spares, entered]
  cases found : (enter s.reader).2 with
  | some eol =>
    rw [enter_some found]
    exact goOn_nextEOL ended written
  | none =>
    have unprompted := enter_none ended found
    have next := ended_enter_none ended found
    generalize enter s.reader = call at found next
    obtain ⟨reader, eol⟩ := call
    dsimp only at found
    subst found
    exact ⟨⟨fun _ => unprompted, fun _ => ⟨written.writes, written.cursor⟩⟩, fun _ => next⟩

/-- The end of the file, or an error. -/
theorem eof_spec (waits : s.inLoop = true) :
    (s.step (.read [])).InBounds ∧ Ended (s.step (.read [])).reader := by
  have left : s.step (.read []) =
      Session.exit { s with
        reader := makeRoom s.reader, writes := s.writes ++ roomWrites s.reader } := by
    rw [Session.step, if_neg (by simp [waits]), if_pos rfl]
  have nothing : roomWrites s.reader = [] := if_neg (by have := ended.inside; omega)
  rw [left, makeRoom_of_lt ended.inside, nothing, List.append_nil]
  refine ⟨⟨sound.writes, fun p member => ?_⟩, ended⟩
  rcases List.mem_append.mp member with earlier | ends
  · exact sound.cursor p earlier
  · cases List.mem_singleton.mp ends
    exact ended.cursor

theorem read_spec {bytes : Bytes} (waits : s.inLoop = true) (some : bytes ≠ []) :
    ((s.step (.read bytes)).InBounds ↔ s.Spares (.read bytes)) ∧
      (s.Spares (.read bytes) → Ended (s.step (.read bytes)).reader) := by
  have inside := ended.inside
  have spares : s.Spares (.read bytes) ↔ bytes.length < maxAtResponse - s.reader.pRead ∧
      (held s.reader ++ bytes).dropWhile isNewline ≠ prompt :=
    ⟨fun spares => spares waits some, fun spares _ _ => spares⟩
  have received : s.step (.read bytes) =
      Session.goOn { s with writes := s.writes ++ receiveWrites s.reader bytes }
        (receive s.reader bytes) := by
    rw [Session.step, if_neg (by simp [waits]), if_neg some]
  have same := makeRoom_of_lt inside
  have nothing : roomWrites s.reader = [] := if_neg (by omega)
  rw [spares, received]
  by_cases room : bytes.length < maxAtResponse - s.reader.pRead
  · have whole : taken s.reader bytes = bytes := by
      rw [taken, same]
      exact List.take_of_length_le (Nat.le_of_lt room)
    have written : Session.InBounds
        { s with writes := s.writes ++ receiveWrites s.reader bytes } := by
      refine ⟨fun w member => ?_, sound.cursor⟩
      rcases List.mem_append.mp member with earlier | reads
      · exact sound.writes w earlier
      · rw [receiveWrites, nothing, whole, same, List.nil_append] at reads
        rcases List.mem_pair.mp reads with rfl | rfl
        · change s.reader.pRead + bytes.length ≤ maxAtResponse
          omega
        · change s.reader.pRead + bytes.length + 1 ≤ maxAtResponse
          omega
    obtain ⟨next, data⟩ := ended_read ended room
    have looked : receive s.reader bytes = nextEOL { s.reader with
        atBuffer := Write.apply s.reader.atBuffer ⟨s.reader.pRead, bytes ++ [0]⟩
        pRead := s.reader.pRead + bytes.length } := by
      have free : decide (maxAtResponse - s.reader.pRead ≤ bytes.length) = false := by
        rw [decide_eq_false_iff_not]
        omega
      rw [receive, same]
      dsimp only
      rw [List.take_of_length_le (Nat.le_of_lt room), free, Bool.or_false]
      rfl
    have searched := goOn_nextEOL next written
    rw [data] at searched
    rw [looked]
    exact ⟨searched.1.trans (and_iff_right room).symm, fun spares => searched.2 spares.2⟩
  · -- The null byte behind a read that fills the buffer.
    have full : (taken s.reader bytes).length = maxAtResponse - s.reader.pRead := by
      rw [taken, same, List.length_take]
      omega
    refine ⟨⟨fun inBounds => ?_, fun spares => absurd spares.1 room⟩,
      fun spares => absurd spares.1 room⟩
    have written : ∀ found, ⟨s.reader.pRead + (taken s.reader bytes).length, [0]⟩ ∈
        (Session.goOn { s with writes := s.writes ++ receiveWrites s.reader bytes } found).writes := by
      rintro ⟨next, eol⟩
      cases eol <;> simp [Session.goOn, Session.exit, receiveWrites, same]
    have behind := inBounds.writes _ (written _)
    rw [Write.Inside, full] at behind
    change s.reader.pRead + (maxAtResponse - s.reader.pRead) + 1 ≤ maxAtResponse at behind
    omega

/-- A read that fills the buffer has no room for its null byte. -/
theorem not_inBounds_of_full {bytes : Bytes} (waits : s.inLoop = true)
    (full : maxAtResponse ≤ bytes.length) : ¬(s.step (.read bytes)).InBounds := by
  have size : 0 < maxAtResponse := by decide
  have some : bytes ≠ [] := List.ne_nil_of_length_pos (by omega)
  intro inBounds
  have room := ((read_spec ended sound waits some).1.mp inBounds waits some).1
  omega

theorem step_spec (e : Event) :
    ((s.step e).InBounds ↔ s.Spares e) ∧ (s.Spares e → Ended (s.step e).reader) := by
  cases e with
  | call =>
    cases waits : s.inLoop with
    | false => exact call_spec ended sound waits
    | true =>
      have same : s.step .call = s := by rw [Session.step, if_pos waits]
      have spares : s.Spares .call := fun out => absurd (out.symm.trans waits) Bool.false_ne_true
      rw [same]
      exact ⟨⟨fun _ => spares, fun _ => sound⟩, fun _ => ended⟩
  | read bytes =>
    cases waits : s.inLoop with
    | false =>
      have same : s.step (.read bytes) = s := by rw [Session.step, if_pos waits]
      have spares : s.Spares (.read bytes) := fun loops =>
        absurd (waits.symm.trans loops) Bool.false_ne_true
      rw [same]
      exact ⟨⟨fun _ => spares, fun _ => sound⟩, fun _ => ended⟩
    | true =>
      by_cases some : bytes = []
      · subst some
        obtain ⟨inBounds, next⟩ := eof_spec ended sound waits
        exact ⟨⟨fun _ _ some => absurd rfl some, fun _ => inBounds⟩, fun _ => next⟩
      · exact read_spec ended sound waits some

end

/-- What has been written, and the returns, stay. -/
theorem step_extends (s : Session) (e : Event) :
    s.writes <+: (s.step e).writes ∧ s.returns <+: (s.step e).returns := by
  have goOn (s : Session) (found : Reader × Option Nat) :
      s.writes <+: (s.goOn found).writes ∧ s.returns <+: (s.goOn found).returns := by
    obtain ⟨r, eol⟩ := found
    cases eol with
    | none => exact ⟨List.prefix_refl _, List.prefix_refl _⟩
    | some eol => exact ⟨List.prefix_append _ _, List.prefix_append _ _⟩
  cases e with
  | call =>
    rw [Session.step]
    split
    · exact ⟨List.prefix_refl _, List.prefix_refl _⟩
    · obtain ⟨writes, returns⟩ := goOn
        { s with writes := s.writes ++ enterWrites s.reader } (enter s.reader)
      exact ⟨(List.prefix_append _ _).trans writes, returns⟩
  | read bytes =>
    rw [Session.step]
    split
    · exact ⟨List.prefix_refl _, List.prefix_refl _⟩
    · split
      · exact ⟨List.prefix_append _ _, List.prefix_append _ _⟩
      · obtain ⟨writes, returns⟩ := goOn
          { s with writes := s.writes ++ receiveWrites s.reader bytes } (receive s.reader bytes)
        exact ⟨(List.prefix_append _ _).trans writes, returns⟩

/-- Before the first call the buffer is empty. -/
theorem ended_initial : Ended {} := ⟨Nat.le_refl 0, (by decide : 0 < maxAtResponse), rfl⟩

theorem inBounds_initial : Session.InBounds {} :=
  ⟨fun _ member => absurd member List.not_mem_nil, fun _ member => absurd member List.not_mem_nil⟩

/-- Everything that `readline` writes is written into its buffer, and the cursor never stands behind
the null byte, exactly if no read fills the buffer and no line is looked for where the SMS prompt
ends what has been received. -/
theorem in_bounds_iff (events : List Event) :
    (run Session.step {} events).InBounds ↔ Guarded Session.step Session.Spares {} events := by
  apply @run_iff_guarded _ _ _ _ fun s => Ended s.reader ∧ s.InBounds
  case stays =>
    intro s e inBounds
    obtain ⟨writes, returns⟩ := step_extends s e
    exact ⟨fun w member => inBounds.writes w (writes.mem member),
      fun p member => inBounds.cursor p (returns.mem member)⟩
  case breaks =>
    rintro s e ⟨ended, sound⟩ -
    exact (step_spec ended sound e).1
  case preserved =>
    rintro s e ⟨ended, sound⟩ spares
    obtain ⟨inBounds, next⟩ := step_spec ended sound e
    exact ⟨next spares, inBounds.mpr spares⟩
  case initial => exact ⟨ended_initial, inBounds_initial⟩
  case sound => exact inBounds_initial

/-- The cursor behind the prompt, and the null byte behind a buffer that a read has filled. -/
theorem prompt_and_full_read :
    ¬(run Session.step {} [.call, .read prompt]).InBounds ∧
      ¬(run Session.step {} [.call, .read (List.replicate 4096 65)]).InBounds := by
  constructor
  · intro inBounds
    have returns : (3, 2) ∈ (run Session.step {} [.call, .read prompt]).returns := by decide +kernel
    exact absurd (inBounds.cursor _ returns) (by decide)
  · rw [run_cons, run_cons, run_nil]
    obtain ⟨sound, ended⟩ := step_spec ended_initial inBounds_initial .call
    have enters : Session.Spares {} .call := fun _ => by decide
    exact not_inBounds_of_full (ended enters) (sound.mpr enters) (by decide)
      (Nat.le_of_eq List.length_replicate.symm)

/-! ### A session is successive calls -/

theorem run_idle {s : Session} (out : s.inLoop = false) (reads : List Bytes) :
    run Session.step s (reads.map .read) = s := by
  induction reads with
  | nil => rfl
  | cons bytes reads ih =>
    rw [List.map_cons, run_cons, Session.step, if_pos out]
    exact ih

/-- In its loop the session reads as `readLoop` does, up to the end of the file. -/
theorem run_readLoop {s : Session} (waits : s.inLoop = true) (reads : List Bytes) :
    (run Session.step s ((reads ++ [[]]).map .read)).reader = (readLoop s.reader reads).2.1 := by
  induction reads generalizing s with
  | nil =>
    change (s.step (.read [])).reader = _
    rw [Session.step, if_neg (by simp [waits]), if_pos rfl]
    rfl
  | cons bytes reads ih =>
    rw [List.cons_append, List.map_cons, run_cons, Session.step, if_neg (by simp [waits]), readLoop]
    split
    · exact congrArg Session.reader (run_idle rfl _)
    · generalize receive s.reader bytes = found
      obtain ⟨next, eol⟩ := found
      cases eol with
      | none => exact ih rfl
      | some eol => exact congrArg Session.reader (run_idle rfl _)

/-- A call of `readline` is the event of the call and those of its reads. -/
theorem run_readline {s : Session} (out : s.inLoop = false) (reads : List Bytes) :
    (run Session.step s (.call :: (reads ++ [[]]).map .read)).reader =
      (readline s.reader reads).2.1 := by
  rw [run_cons, Session.step, if_neg (by simp [out]), readline]
  generalize enter s.reader = found
  obtain ⟨next, eol⟩ := found
  cases eol with
  | none => exact run_readLoop rfl reads
  | some eol => exact congrArg Session.reader (run_idle rfl _)

end LorawanFeeds.AtChannel.Readline
