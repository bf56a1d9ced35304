import LorawanFeeds.AtChannel.RegistrationState
import LorawanFeeds.AtChannel.Channel

/-!
# The data call over the AT channel

`requestSetupDataCall` and `requestQueryDataCall` of `atc.c`. A command that the modem refuses and a
command that does not get through end the set-up alike, but only the second one leaves an error in
`err`, which is what the function returns. The query keeps its variables from one line to the next,
also over the lines of other contexts.
-/
namespace LorawanFeeds.AtChannel.DataCall

open Lib Scanf
open RegistrationState (Line storedInt)

/-! ### The commands -/

/-- `STYLE_ATC`. -/
inductive StyleAtc where
  | unknown
  | eg800q
  | eg800g
  deriving DecidableEq, Repr

/-- `asr_style_atc` and `style_atc`. -/
structure Style where
  asr : Bool
  atc : StyleAtc
  deriving DecidableEq, Repr

inductive Command where
  /-- `AT+CGACT?` -/
  | cgactQuery
  /-- `AT+CGACT=1,<cid>` -/
  | cgact (pdp : Int)
  /-- `AT+QNETDEVCTL=1,<cid>,1`, or `AT+QNETDEVCTL=<cid>,1,1` -/
  | netdevctl (asr : Bool) (pdp : Int)
  /-- `AT+QNETDEVSTATUS=<cid>` -/
  | netdevstatus (pdp : Int)
  deriving DecidableEq, Repr

def Command.isStatus : Command → Bool
  | .netdevstatus _ => true
  | _ => false

/-- What `at_send_command` and its variants return, and the response. -/
structure Answer where
  err : Int := 0
  response : Option Response := none
  deriving DecidableEq, Repr

/-- `at_response_error`. -/
def atResponseError (answer : Answer) : Bool :=
  answer.err ≠ 0 || answer.response.elim true fun r => r.finalResponse.isNone || !r.success

def Answer.lines (answer : Answer) : List Line :=
  (answer.response.map Response.intermediates).getD []

structure Exchange where
  command : Command
  answer : Answer
  deriving DecidableEq, Repr

/-! ### The set-up -/

/-- A call of `requestSetupDataCall`: `err`, and whether it has gone to `_error`, past the event for
the main thread. -/
structure Call where
  asked : List Exchange := []
  err : Int := 0
  failed : Bool := false
  deriving DecidableEq, Repr

/-- The call goes to `_error` if the command is not answered with success. -/
def Call.demand (modem : Nat → Answer) (call : Call) (command : Command) : Call :=
  if call.failed then call
  else
    let answer := modem call.asked.length
    { asked := call.asked ++ [⟨command, answer⟩]
      err := answer.err
      failed := atResponseError answer }

def scanCgact (line : Line) : Result := Scanf.atTokScanf line "%d%d".toList

/-- The loop over the lines of `+CGACT`, with `cid` and `state`: the state of the context. `cid` is
set anew for a line, or it is what an earlier line has left; `state` is reset for each line, and so
stays as it was where there is none. -/
def cgactState (anew : Int → Int) (pdp : Int) : Int → Int → List Line → Int
  | _, state, [] => state
  | cid, _, line :: rest =>
    let result := scanCgact line
    if storedInt result 0 (anew cid) = pdp then storedInt result 1 0
    else cgactState anew pdp (storedInt result 0 (anew cid)) 0 rest

/-- The loop over `AT+QNETDEVSTATUS`, with the rounds that are left. -/
def Call.poll (modem : Nat → Answer) (pdp : Int) : Nat → Call → Call
  | 0, call => call
  | t + 1, call =>
    let answer := modem call.asked.length
    let call : Call :=
      { asked := call.asked ++ [⟨.netdevstatus pdp, answer⟩]
        err := answer.err
        failed := answer.err ≠ 0 }
    if answer.err ≠ 0 then call
    else if !atResponseError answer then call
    else poll modem pdp t call

/-- The part for the modems of ASR: the context is activated if it is not active. -/
def Call.activate (modem : Nat → Answer) (pdp : Int) (call : Call) : Call :=
  let asked := call.demand modem .cgactQuery
  if cgactState (fun _ => 0) pdp 0 0 (modem call.asked.length).lines = 0 then
    asked.demand modem (.cgact pdp)
  else asked

/-- The modem is asked for the state behind the command. -/
def Style.polls (style : Style) : Bool := !style.asr && style.atc ≠ .eg800q

/-- `requestSetupDataCall`, with the answers of the modem by the number of the command. -/
def requestSetupDataCall (style : Style) (modem : Nat → Answer) (pdp : Int) : Call :=
  let call := if style.asr then Call.activate modem pdp {} else {}
  let call := call.demand modem (.netdevctl style.asr pdp)
  if !call.failed && style.polls then call.poll modem pdp 15 else call

/-- The modem has taken all that was demanded of it, and has told so where it was asked. -/
structure Accomplished (polls : Bool) (asked : List Exchange) : Prop where
  taken : ∀ x ∈ asked, x.command.isStatus = false → atResponseError x.answer = false
  told : polls = true →
    ∃ x ∈ asked, x.command.isStatus = true ∧ atResponseError x.answer = false

/-! ### The course of a set-up -/

theorem err_of_taken {answer : Answer} (taken : atResponseError answer = false) :
    answer.err = 0 := by
  rw [atResponseError, Bool.or_eq_false_iff] at taken
  simpa using taken.1

/-- What has been demanded and taken, the status queries that were refused, and the last command. -/
structure Course (polls : Bool) (call : Call) (demanded refused : List Exchange)
    (last : Exchange) : Prop where
  asked : call.asked = demanded ++ refused ++ [last]
  err : call.err = last.answer.err
  taken : ∀ x ∈ demanded, x.command.isStatus = false ∧ atResponseError x.answer = false
  few : demanded.length + refused.length ≤ 15
  refusals : ∀ x ∈ refused,
    x.command.isStatus = true ∧ x.answer.err = 0 ∧ atResponseError x.answer = true
  /-- The last command is a query. -/
  query : last.command.isStatus = true → polls = true
  /-- The last command was demanded. -/
  demand : last.command.isStatus = false →
    refused = [] ∧ (atResponseError last.answer = false → polls = false)
  failed : call.failed = true ↔ atResponseError last.answer = true ∧
    (last.command.isStatus = true → last.answer.err ≠ 0)

/-- A call that has not failed, before the status queries. -/
structure Call.Going (call : Call) : Prop where
  going : call.failed = false
  err : call.err = 0
  taken : ∀ x ∈ call.asked, x.command.isStatus = false ∧ atResponseError x.answer = false

/-- A call that has failed at a command that was demanded. -/
structure Call.Stopped (call : Call) (demanded : List Exchange) (last : Exchange) : Prop where
  stopped : call.failed = true
  asked : call.asked = demanded ++ [last]
  err : call.err = last.answer.err
  taken : ∀ x ∈ demanded, x.command.isStatus = false ∧ atResponseError x.answer = false
  command : last.command.isStatus = false
  refused : atResponseError last.answer = true

theorem Call.going_init : ({} : Call).Going := ⟨rfl, rfl, List.forall_mem_nil _⟩

/-- One demand: the command is taken, or the call stops there. -/
theorem Call.demand_cases (modem : Nat → Answer) {call : Call} (going : call.Going)
    (command : Command) (demand : command.isStatus = false) :
    ((call.demand modem command).Going ∧
        ∃ answer, (call.demand modem command).asked = call.asked ++ [⟨command, answer⟩]) ∨
      ∃ answer, (call.demand modem command).Stopped call.asked ⟨command, answer⟩ := by
  have same : call.demand modem command =
      { asked := call.asked ++ [⟨command, modem call.asked.length⟩]
        err := (modem call.asked.length).err
        failed := atResponseError (modem call.asked.length) } := by
    rw [Call.demand, if_neg (by simp [going.going])]
  rw [same]
  cases taken : atResponseError (modem call.asked.length) with
  | false =>
    left
    refine ⟨⟨rfl, err_of_taken taken, ?_⟩, _, rfl⟩
    intro x member
    rcases List.mem_append.mp member with old | new
    · exact going.taken x old
    · rw [List.mem_singleton.mp new]
      exact ⟨demand, taken⟩
  | true =>
    right
    exact ⟨_, rfl, rfl, rfl, going.taken, demand, taken⟩

theorem Call.demand_stopped (modem : Nat → Answer) {call : Call} (command : Command)
    (stopped : call.failed = true) : call.demand modem command = call := if_pos stopped

/-- The loop ends with a query, whatever is answered to it. -/
theorem course_query (pdp : Int) {call : Call} {demanded refused : List Exchange}
    (asked : call.asked = demanded ++ refused)
    (taken : ∀ x ∈ demanded, x.command.isStatus = false ∧ atResponseError x.answer = false)
    (refusals : ∀ x ∈ refused,
      x.command.isStatus = true ∧ x.answer.err = 0 ∧ atResponseError x.answer = true)
    (few : demanded.length + refused.length ≤ 15) {answer : Answer} {failed : Bool}
    (lost : failed = true ↔ answer.err ≠ 0) :
    Course true
      { asked := call.asked ++ [⟨.netdevstatus pdp, answer⟩], err := answer.err, failed := failed }
      demanded refused ⟨.netdevstatus pdp, answer⟩ where
  asked := by rw [asked]
  err := rfl
  taken := taken
  few := few
  refusals := refusals
  query _ := rfl
  demand other := absurd other (by simp [Command.isStatus])
  failed := by
    rw [lost]
    constructor
    · intro error
      exact ⟨by simp [atResponseError, error], fun _ => error⟩
    · intro error
      exact error.2 rfl

/-- The status queries that are refused come before the last one. -/
theorem Call.poll_course (modem : Nat → Answer) (pdp : Int) {demanded : List Exchange}
    (taken : ∀ x ∈ demanded, x.command.isStatus = false ∧ atResponseError x.answer = false)
    (t : Nat) (call : Call) (refused : List Exchange) (asked : call.asked = demanded ++ refused)
    (refusals : ∀ x ∈ refused,
      x.command.isStatus = true ∧ x.answer.err = 0 ∧ atResponseError x.answer = true)
    (few : demanded.length + refused.length + t ≤ 15) :
    ∃ more last, Course true (call.poll modem pdp (t + 1)) demanded more last := by
  induction t generalizing call refused with
  | zero =>
    simp only [Call.poll, ite_self]
    exact ⟨refused, _, course_query pdp asked taken refusals few (by simp)⟩
  | succ t ih =>
    have now : demanded.length + refused.length ≤ 15 := by omega
    rw [Call.poll]
    by_cases sent : (modem call.asked.length).err = 0
    · rw [if_neg (not_not.mpr sent)]
      cases answered : atResponseError (modem call.asked.length) with
      | false =>
        rw [if_pos (by rfl)]
        exact ⟨refused, _, course_query pdp asked taken refusals now (by simp)⟩
      | true =>
        rw [if_neg (by simp)]
        -- A query that is refused joins the ones before it.
        apply ih _ (refused ++ [⟨.netdevstatus pdp, modem call.asked.length⟩])
        · rw [asked, List.append_assoc]
        · intro x member
          rcases List.mem_append.mp member with old | new
          · exact refusals x old
          · rw [List.mem_singleton.mp new]
            exact ⟨rfl, sent, answered⟩
        · rw [List.length_append, List.length_singleton]
          omega
    · rw [if_pos sent]
      exact ⟨refused, _, course_query pdp asked taken refusals now (by simp)⟩

theorem Call.Stopped.course {polls : Bool} {call : Call} {demanded : List Exchange}
    {last : Exchange} (stopped : call.Stopped demanded last) (few : demanded.length ≤ 15) :
    Course polls call demanded [] last where
  asked := by rw [List.append_nil, stopped.asked]
  err := stopped.err
  taken := stopped.taken
  few := few
  refusals := List.forall_mem_nil _
  query same := absurd stopped.command (by simp [same])
  demand _ := ⟨rfl, fun taken => absurd stopped.refused (by simp [taken])⟩
  failed := by simp [stopped.stopped, stopped.refused, stopped.command]

/-- A call that asks for nothing more. -/
theorem Call.Going.course {call : Call} (going : call.Going) {demanded : List Exchange}
    {last : Exchange} (asked : call.asked = demanded ++ [last]) (few : demanded.length ≤ 15) :
    Course false call demanded [] last := by
  have taken := going.taken
  rw [asked] at taken
  have done := taken last List.mem_concat_self
  exact {
    asked := by rw [List.append_nil, asked]
    err := by rw [going.err, err_of_taken done.2]
    taken := fun x member => taken x (List.mem_append_left _ member)
    few := few
    refusals := List.forall_mem_nil _
    query := fun same => absurd done.1 (by simp [same])
    demand := fun _ => ⟨rfl, fun _ => rfl⟩
    failed := by simp [going.going, done] }

/-- The activation is taken, or the call stops in it. -/
theorem Call.activate_cases (modem : Nat → Answer) (pdp : Int) :
    ((Call.activate modem pdp {}).Going ∧ (Call.activate modem pdp {}).asked.length ≤ 2) ∨
      ∃ demanded last, demanded.length ≤ 1 ∧
        (Call.activate modem pdp {}).Stopped demanded last := by
  rcases Call.demand_cases modem Call.going_init .cgactQuery rfl with
    ⟨going, answer, asked⟩ | ⟨answer, stopped⟩
  · rw [Call.activate]
    dsimp only
    split
    · rcases Call.demand_cases modem going (.cgact pdp) rfl with
        ⟨active, more, both⟩ | ⟨more, stopped⟩
      · left
        refine ⟨active, ?_⟩
        rw [both, asked]
        exact Nat.le_refl 2
      · right
        refine ⟨_, _, ?_, stopped⟩
        rw [asked]
        exact Nat.le_refl 1
    · left
      refine ⟨going, ?_⟩
      rw [asked]
      exact Nat.le_succ 1
  · right
    refine ⟨[], ⟨.cgactQuery, answer⟩, Nat.zero_le _, ?_⟩
    rw [Call.activate]
    dsimp only
    rw [Call.demand_stopped modem _ stopped.stopped, ite_self]
    exact stopped

/-- From `AT+QNETDEVCTL` on. -/
theorem Call.netdevctl_course (style : Style) (modem : Nat → Answer) (pdp : Int) {call : Call}
    (going : call.Going) (few : call.asked.length ≤ if style.polls then 0 else 2) :
    ∃ demanded refused last, Course style.polls
      (let next := call.demand modem (.netdevctl style.asr pdp)
      if !next.failed && style.polls then next.poll modem pdp 15 else next)
      demanded refused last := by
  dsimp only
  rcases Call.demand_cases modem going (.netdevctl style.asr pdp) rfl with
    ⟨taken, answer, asked⟩ | ⟨answer, stopped⟩
  · rw [taken.going, Bool.not_false, Bool.true_and]
    cases polls : style.polls with
    | true =>
      rw [polls, if_pos rfl] at few
      have one : (call.demand modem (.netdevctl style.asr pdp)).asked.length ≤ 1 := by
        rw [asked, List.length_append]
        exact Nat.succ_le_succ few
      rw [if_pos rfl]
      exact ⟨_, Call.poll_course modem pdp taken.taken 14 _ [] (List.append_nil _).symm
        (List.forall_mem_nil _) (Nat.add_le_add_right one 14)⟩
    | false =>
      rw [polls, if_neg Bool.false_ne_true] at few
      rw [if_neg Bool.false_ne_true]
      exact ⟨_, _, _, taken.course asked (by omega)⟩
  · rw [stopped.stopped, Bool.not_true, Bool.false_and, if_neg Bool.false_ne_true]
    refine ⟨_, _, _, stopped.course ?_⟩
    split at few <;> omega

theorem setup_course (style : Style) (modem : Nat → Answer) (pdp : Int) :
    ∃ demanded refused last,
      Course style.polls (requestSetupDataCall style modem pdp) demanded refused last := by
  rw [requestSetupDataCall]
  by_cases asr : style.asr = true
  · have silent : style.polls = false := by rw [Style.polls, asr, Bool.not_true, Bool.false_and]
    rw [if_pos asr]
    rcases Call.activate_cases modem pdp with ⟨going, few⟩ | ⟨demanded, last, few, stopped⟩
    · apply Call.netdevctl_course style modem pdp going
      rw [silent]
      exact few
    · rw [Call.demand_stopped modem _ stopped.stopped, silent, Bool.and_false,
        if_neg Bool.false_ne_true]
      exact ⟨_, _, _, stopped.course (by omega)⟩
  · rw [if_neg asr]
    exact Call.netdevctl_course style modem pdp Call.going_init (Nat.zero_le _)

/-! ### What the set-up returns -/

theorem Course.err_eq_zero_iff {polls : Bool} {call : Call} {demanded refused : List Exchange}
    {last : Exchange} (course : Course polls call demanded refused last) :
    call.err = 0 ↔ ∀ x ∈ call.asked, x.answer.err = 0 := by
  rw [course.err, course.asked]
  constructor
  · intro sent x member
    simp only [List.mem_append, List.mem_singleton] at member
    rcases member with (taken | refused) | rfl
    · exact err_of_taken (course.taken x taken).2
    · exact (course.refusals x refused).2.1
    · exact sent
  · intro all
    exact all last List.mem_concat_self

theorem Course.accomplished_iff {polls : Bool} {call : Call} {demanded refused : List Exchange}
    {last : Exchange} (course : Course polls call demanded refused last) :
    Accomplished polls call.asked ↔ atResponseError last.answer = false := by
  rw [course.asked]
  constructor
  · rintro ⟨taken, told⟩
    cases kind : last.command.isStatus with
    | false => exact taken last List.mem_concat_self kind
    | true =>
      -- Only the last query can be the one that was answered.
      obtain ⟨x, member, status, answered⟩ := told (course.query kind)
      simp only [List.mem_append, List.mem_singleton] at member
      rcases member with (old | old) | rfl
      · exact absurd status (by simp [(course.taken x old).1])
      · exact absurd answered (by simp [(course.refusals x old).2.2])
      · exact answered
  · intro answered
    refine ⟨fun x member other => ?_, fun asks => ?_⟩
    · simp only [List.mem_append, List.mem_singleton] at member
      rcases member with (old | old) | rfl
      · exact (course.taken x old).2
      · exact absurd (course.refusals x old).1 (by simp [other])
      · exact answered
    · cases kind : last.command.isStatus with
      | true => exact ⟨last, List.mem_concat_self, kind, answered⟩
      | false => exact absurd ((course.demand kind).2 answered) (by simp [asks])

theorem Course.announced_iff {polls : Bool} {call : Call} {demanded refused : List Exchange}
    {last : Exchange} (course : Course polls call demanded refused last) :
    call.failed = false ↔ call.err = 0 ∧
      ∀ x ∈ call.asked, x.command.isStatus = false → atResponseError x.answer = false := by
  have failed := course.failed
  rw [course.err, course.asked]
  constructor
  · intro announced
    rw [announced, eq_false Bool.false_ne_true, false_iff, not_and_or, Bool.not_eq_true] at failed
    rcases failed with taken | sent
    · refine ⟨err_of_taken taken, fun x member other => ?_⟩
      simp only [List.mem_append, List.mem_singleton] at member
      rcases member with (old | old) | rfl
      · exact (course.taken x old).2
      · exact absurd (course.refusals x old).1 (by simp [other])
      · exact taken
    · have status := (Classical.not_imp.mp sent).1
      refine ⟨not_not.mp (Classical.not_imp.mp sent).2, fun x member other => ?_⟩
      simp only [List.mem_append, List.mem_singleton] at member
      rcases member with (old | old) | rfl
      · exact (course.taken x old).2
      · exact absurd (course.refusals x old).1 (by simp [other])
      · exact absurd status (by simp [other])
  · rintro ⟨sent, taken⟩
    rw [← Bool.not_eq_true, failed]
    rintro ⟨refused, lost⟩
    cases kind : last.command.isStatus with
    | true => exact lost kind sent
    | false => exact absurd refused (by simp [taken last List.mem_concat_self kind])

/-- The set-up returns zero where every command got through. It has been accomplished where the last
command was answered with success, and the main thread is told where nothing that was demanded has
been refused. -/
theorem setup_result (style : Style) (modem : Nat → Answer) (pdp : Int) :
    ((requestSetupDataCall style modem pdp).err = 0 ↔
        ∀ x ∈ (requestSetupDataCall style modem pdp).asked, x.answer.err = 0) ∧
      (Accomplished style.polls (requestSetupDataCall style modem pdp).asked ↔
        ∃ last ∈ (requestSetupDataCall style modem pdp).asked.getLast?,
          atResponseError last.answer = false) ∧
      ((requestSetupDataCall style modem pdp).failed = false ↔
        (requestSetupDataCall style modem pdp).err = 0 ∧
          ∀ x ∈ (requestSetupDataCall style modem pdp).asked,
            x.command.isStatus = false → atResponseError x.answer = false) ∧
      (requestSetupDataCall style modem pdp).asked.length ≤ 16 := by
  obtain ⟨demanded, refused, last, course⟩ := setup_course style modem pdp
  refine ⟨course.err_eq_zero_iff, ?_, course.announced_iff, ?_⟩
  · rw [course.accomplished_iff, course.asked, List.getLast?_concat]
    simp
  · rw [course.asked, List.length_append, List.length_append]
    exact Nat.succ_le_succ course.few

/-! ### The query -/

/-- `bind`, `cid` and `state`. -/
structure Variables where
  bind : Int := 0
  cid : Int
  state : Int := 0
  deriving DecidableEq, Repr

def scanNetdevctl (line : Line) : Result := Scanf.atTokScanf line "%d%d%d%d".toList

/-- A round of the loop over the lines of `+QNETDEVCTL`. What is scanned stays, also of a line that
is passed over. -/
def netdevctlLine (pdp : Int) (v : Variables) (line : Line) : Variables :=
  let result := scanNetdevctl line
  let bind := storedInt result 0 v.bind
  let cid := storedInt result 1 v.cid
  let state := storedInt result 3 v.state
  if result.n ≠ 4 ∨ cid ≠ pdp then { bind, cid, state }
  else if bind ≠ 1 then { bind := 0, cid, state }
  else { bind, cid, state }

/-- `requestQueryDataCall` with `asr_style_atc`, with the answers to `AT+QNETDEVCTL?` and
`AT+CGACT?` and what is in `cid` at first: the data call is connected. -/
def requestQueryDataCall (garbage pdp : Int) (netdevctl cgact : Answer) : Bool :=
  if atResponseError netdevctl then false
  else
    let v := netdevctl.lines.foldl (netdevctlLine pdp) { cid := garbage }
    if v.bind = 0 ∨ v.state = 0 then false
    else if atResponseError cgact then false
    else cgactState id pdp v.cid v.state cgact.lines ≠ 0

/-! ### The lines that decide -/

/-- What the scan of a line stores at a place. -/
def field (place : Nat) (result : Result) : Option Int :=
  match result.stores[place]? with
  | some (some (.int i)) => some i
  | _ => none

/-- What the last of the lines that have one has. -/
def lastOf (has : Line → Option Int) (lines : List Line) : Option Int :=
  (lines.filterMap has).getLast?

/-- What a line leaves in `bind`: an operation of the own context other than 1 is none. -/
def bindOf (pdp : Int) (line : Line) : Option Int :=
  (field 0 (scanNetdevctl line)).map fun op =>
    if (scanNetdevctl line).n = 4 ∧ field 1 (scanNetdevctl line) = some pdp ∧ op ≠ 1 then 0 else op

theorem storedInt_eq (result : Result) (place : Nat) (old : Int) :
    storedInt result place old = (field place result).getD old := by
  rw [storedInt, field]
  rcases result.stores[place]? with _ | _ | stored
  · rfl
  · rfl
  · cases stored <;> rfl

theorem lastOf_concat (has : Line → Option Int) (lines : List Line) (line : Line) :
    lastOf has (lines ++ [line]) = (has line).or (lastOf has lines) := by
  rw [lastOf, lastOf, List.filterMap_append, List.getLast?_append]
  cases same : has line <;> simp [same]

/-- A format of numbers only. -/
def numbers : Nat → List Char
  | 0 => []
  | k + 1 => '%' :: 'd' :: numbers k

/-- Every number is stored, one after the other; those that count come first. -/
theorem scan_numbers (k : Nat) (line : Option (List Char)) :
    ∃ ints : List Int, (scan (numbers k) line).stores = ints.map (some ∘ .int) ∧
      (scan (numbers k) line).n ≤ ints.length := by
  induction k generalizing line with
  | zero => exact ⟨[], rfl, Nat.le_refl 0⟩
  | succ k ih =>
    rw [numbers, scan, if_neg (by decide)]
    split
    · exact ⟨[], rfl, Nat.le_refl 0⟩
    · have stores : ∃ i, (take 'd' (line.getD [])).1 = some (.int i) := by
        rw [take, convert]
        split
        · exact ⟨-1, rfl⟩
        · exact ⟨_, rfl⟩
      obtain ⟨i, stored⟩ := stores
      split
      next store rest taken =>
        obtain ⟨ints, stored', few⟩ := ih rest
        rw [taken] at stored
        have first : store = some (.int i) := stored
        refine ⟨i :: ints, ?_, Nat.succ_le_succ few⟩
        rw [Result.counted, stored', first]
        rfl
      next store rest taken =>
        rw [taken] at stored
        have first : store = some (.int i) := stored
        refine ⟨[i], ?_, Nat.zero_le _⟩
        rw [first]
        rfl

theorem atTokScanf_numbers (k : Nat) (line : Line) :
    ∃ ints : List Int, (Scanf.atTokScanf line (numbers k)).stores = ints.map (some ∘ .int) ∧
      (Scanf.atTokScanf line (numbers k)).n ≤ ints.length := by
  rw [Scanf.atTokScanf]
  split
  · exact ⟨[], rfl, Nat.le_refl 0⟩
  · exact scan_numbers k _

theorem field_of_ints {result : Result} {ints : List Int}
    (stores : result.stores = ints.map (some ∘ .int)) (place : Nat) :
    field place result = ints[place]? := by
  rw [field, stores, List.getElem?_map]
  cases ints[place]? <;> rfl

/-- A number is stored behind the ones before it. -/
theorem field_earlier (k : Nat) (line : Line) {place later : Nat} (before : place ≤ later) {i : Int}
    (stored : field later (Scanf.atTokScanf line (numbers k)) = some i) :
    ∃ j, field place (Scanf.atTokScanf line (numbers k)) = some j := by
  obtain ⟨ints, stores, _⟩ := atTokScanf_numbers k line
  rw [field_of_ints stores] at stored ⊢
  have reached := (List.getElem?_eq_some_iff.mp stored).1
  exact ⟨_, List.getElem?_eq_getElem (Nat.lt_of_le_of_lt before reached)⟩

/-- A conversion that counts has stored its number. -/
theorem field_counted (k : Nat) (line : Line) (place : Nat)
    (counts : place < (Scanf.atTokScanf line (numbers k)).n) :
    ∃ i, field place (Scanf.atTokScanf line (numbers k)) = some i := by
  obtain ⟨ints, stores, few⟩ := atTokScanf_numbers k line
  rw [field_of_ints stores]
  exact ⟨_, List.getElem?_eq_getElem (Nat.lt_of_lt_of_le counts few)⟩

/-- A line with a state has a context. -/
theorem lastOf_cid {lines : List Line} {state : Int}
    (last : lastOf (fun line => field 3 (scanNetdevctl line)) lines = some state) :
    ∃ cid, lastOf (fun line => field 1 (scanNetdevctl line)) lines = some cid := by
  obtain ⟨line, member, stored⟩ := List.mem_filterMap.mp (List.mem_of_getLast? last)
  obtain ⟨cid, earlier⟩ := field_earlier 4 line (by decide : 1 ≤ 3) stored
  have some : lines.filterMap (fun line => field 1 (scanNetdevctl line)) ≠ [] :=
    List.ne_nil_of_mem (List.mem_filterMap.mpr ⟨line, member, earlier⟩)
  exact ⟨_, List.getLast?_eq_some_getLast some⟩

/-- One round keeps what each variable has: the last number that was stored into it. -/
theorem netdevctlLine_eq (pdp : Int) (v : Variables) (line : Line) :
    netdevctlLine pdp v line =
      { bind := (bindOf pdp line).getD v.bind
        cid := (field 1 (scanNetdevctl line)).getD v.cid
        state := (field 3 (scanNetdevctl line)).getD v.state } := by
  rw [netdevctlLine, bindOf]
  simp only [storedInt_eq]
  by_cases four : (scanNetdevctl line).n = 4
  · obtain ⟨op, has⟩ := field_counted 4 line 0 (by
      rw [show numbers 4 = "%d%d%d%d".toList from rfl, ← scanNetdevctl, four]
      decide)
    obtain ⟨cid, own⟩ := field_counted 4 line 1 (by
      rw [show numbers 4 = "%d%d%d%d".toList from rfl, ← scanNetdevctl, four]
      decide)
    change field 0 (scanNetdevctl line) = some op at has
    change field 1 (scanNetdevctl line) = some cid at own
    by_cases same : cid = pdp <;> by_cases one : op = 1 <;> simp [four, has, own, same, one]
  · simp [four]

theorem foldl_netdevctl (pdp garbage : Int) (lines : List Line) :
    lines.foldl (netdevctlLine pdp) { cid := garbage } =
      { bind := (lastOf (bindOf pdp) lines).getD 0
        cid := (lastOf (fun line => field 1 (scanNetdevctl line)) lines).getD garbage
        state := (lastOf (fun line => field 3 (scanNetdevctl line)) lines).getD 0 } := by
  induction lines using List.reverseRecOn with
  | nil => rfl
  | append_singleton lines line ih =>
    rw [List.foldl_concat, ih, netdevctlLine_eq]
    simp only [lastOf_concat, Option.getD_or]

/-- The loop over `+CGACT` stops at the first line of the context; an empty first line passes for
one if the context has been left in `cid`. -/
theorem cgactState_ne_zero_iff (pdp cid state : Int) (lines : List Line) :
    cgactState id pdp cid state lines ≠ 0 ↔
      lines = [] ∧ state ≠ 0 ∨
        (∀ line ∈ lines.head?, field 0 (scanCgact line) = none → cid ≠ pdp) ∧
          ∃ line ∈ lines.find? (fun line => field 0 (scanCgact line) = some pdp),
            ∃ state ∈ field 1 (scanCgact line), state ≠ 0 := by
  induction lines generalizing cid state with
  | nil => simp [cgactState]
  | cons line rest ih =>
    rw [cgactState]
    simp only [storedInt_eq, id_eq]
    cases has : field 0 (scanCgact line) with
    | none =>
      -- Nothing behind the prefix: there is no state either.
      have stateless : field 1 (scanCgact line) = none := by
        by_contra some
        obtain ⟨i, stored⟩ := Option.ne_none_iff_exists'.mp some
        obtain ⟨j, earlier⟩ := field_earlier 2 line (Nat.zero_le 1) stored
        change field 0 (scanCgact line) = _ at earlier
        exact absurd (has.symm.trans earlier) (by simp)
      rw [Option.getD_none, stateless]
      by_cases same : cid = pdp
      · simp [same, has]
      · rw [if_neg same, ih]
        simp [same, has]
    | some own =>
      rw [Option.getD_some]
      by_cases same : own = pdp
      · cases state : field 1 (scanCgact line) <;> simp [same, has, state]
      · rw [if_neg same, ih]
        simp [same, has]

/-- The data call is connected where both answers are successes, the last line with a state and the
last line with an operation say so, and so does the first line of the context behind `+CGACT:`, or
there is no line at all. What `cid` held at first plays no part. -/
theorem query_connected_iff (garbage pdp : Int) (netdevctl cgact : Answer) :
    requestQueryDataCall garbage pdp netdevctl cgact = true ↔
      atResponseError netdevctl = false ∧ atResponseError cgact = false ∧
        (∃ bind ∈ lastOf (bindOf pdp) netdevctl.lines, bind ≠ 0) ∧
        (∃ state ∈ lastOf (fun line => field 3 (scanNetdevctl line)) netdevctl.lines, state ≠ 0) ∧
        (cgact.lines = [] ∨
          (∃ line ∈ cgact.lines.find? (fun line => field 0 (scanCgact line) = some pdp),
            ∃ state ∈ field 1 (scanCgact line), state ≠ 0) ∧
          ∀ line ∈ cgact.lines.head?, field 0 (scanCgact line) = none →
            lastOf (fun line => field 1 (scanNetdevctl line)) netdevctl.lines ≠ some pdp) := by
  rw [requestQueryDataCall, foldl_netdevctl]
  cases asked : atResponseError netdevctl with
  | true => simp
  | false =>
    rw [if_neg Bool.false_ne_true]
    dsimp only
    cases bind : lastOf (bindOf pdp) netdevctl.lines with
    | none => simp
    | some op =>
      cases state : lastOf (fun line => field 3 (scanNetdevctl line)) netdevctl.lines with
      | none => simp
      | some s =>
        obtain ⟨cid, own⟩ := lastOf_cid state
        rw [own]
        simp only [Option.getD_some]
        by_cases idle : op = 0 ∨ s = 0
        · rw [if_pos idle]
          rcases idle with rfl | rfl <;> simp
        · rw [if_neg idle]
          have busy := not_or.mp idle
          cases active : atResponseError cgact with
          | true => simp
          | false => simp [busy, cgactState_ne_zero_iff, and_comm]

end LorawanFeeds.AtChannel.DataCall
