import LorawanFeeds.AtChannel.Channel

/-!
# The lines of a response

Between the signal for the final line and the moment at which the waiting thread has the mutex,
the reader can handle more lines. The response is still installed then: a second final line
takes the place of the first, and a line with the prefix is added to the response.
-/
namespace LorawanFeeds.AtChannel

open Lib Channel

/-! ### Reader and command thread -/

/-- A command, the lines that were handled while its response was installed, and those of them that
went to the handler of unsolicited lines. -/
structure Session where
  type : CommandType
  responsePrefix : Line
  /-- The caller has asked for the response. -/
  wanted : Bool
  lines : List Line := []
  passed : List Line := []
  outcome : Option Outcome := none
  deriving DecidableEq, Repr

structure System where
  channel : Channel := {}
  current : Option Session := none
  finished : List Session := []
  /-- The lines that were handled with no command pending, and those of them that went to the
  handler. -/
  idle : List Line := []
  idlePassed : List Line := []
  deriving DecidableEq, Repr

inductive Event where
  /-- The command thread writes a command and begins to wait. -/
  | send (command : Line) (type : CommandType) (responsePrefix : Line) (smsPDU : Option Line)
    (wanted : Bool)
  /-- `at_send_command_raw` stores the data that its command is to be followed by. -/
  | raw (data : Line)
  /-- The reader handles a line. -/
  | line (line : Line)
  /-- The command thread has the mutex again. -/
  | wake (timedOut : Bool)
  | close
  deriving DecidableEq, Repr

namespace System

def finish (s : System) (session : Session) (outcome : Outcome) : System :=
  { s with
    channel := s.channel.clearPendingCommand
    current := none
    finished := s.finished ++ [{ session with outcome := some outcome }] }

def handle (s : System) (line : Line) : System :=
  let channel := s.channel.processLine line
  let passed := channel.unsolicited.drop s.channel.unsolicited.length
  match s.current with
  | none => { s with
      channel := channel
      idle := s.idle ++ [line]
      idlePassed := s.idlePassed ++ passed }
  | some session => { s with
      channel := channel
      current := some { session with
        lines := session.lines ++ [line]
        passed := session.passed ++ passed } }

def step (s : System) : Event → System
  | .send command type responsePrefix smsPDU wanted =>
    -- There is one command thread, and nothing is written to a closed channel.
    if s.current.isSome ∨ s.channel.readerClosed then s
    else { s with
      channel := s.channel.beginCommand command type responsePrefix smsPDU
      current := some { type, responsePrefix, wanted } }
  | .raw data => { s with channel := { s.channel with rawData := some data } }
  | .line line => s.handle line
  | .wake timedOut =>
    match s.current, s.channel.response with
    | some session, some r =>
      if timedOut then s.finish session .timeout
      else if r.finalResponse.isNone ∧ ¬ s.channel.readerClosed then s
      else if s.channel.readerClosed then s.finish session .channelClosed
      else s.finish session (.ok (if session.wanted then some (reverseIntermediates r) else none))
    | _, _ => s
  | .close => { s with channel := { s.channel with readerClosed := true } }

end System

/-! ### What a response is to contain -/

def isFinal (line : Line) : Bool := isFinalResponseSuccess line || isFinalResponseError line

namespace Session

/-- The lines before the first final one. -/
def before (session : Session) : List Line := session.lines.takeWhile (!isFinal ·)

/-- The first final line, and what follows it. -/
def after (session : Session) : List Line := session.lines.dropWhile (!isFinal ·)

def Own (session : Session) (line : Line) : Bool :=
  matchesCommand session.type session.responsePrefix line

/-- The lines of the command: all that match, or the first of them. -/
def ownLines (session : Session) (lines : List Line) : List Line :=
  if session.type = .multiline then lines.filter session.Own else (lines.filter session.Own).take 1

/-- The other ones. -/
def otherLines (session : Session) (lines : List Line) : List Line :=
  if session.type = .multiline then lines.filter (!session.Own ·) else lines.eraseP session.Own

/-- A response that is returned has the lines of the command up to the first final line, and this
line; all others, in order, have gone to the handler. -/
structure Right (session : Session) : Prop where
  passed : session.passed = session.otherLines session.before ++ session.after.tail
  returned : ∀ r, session.outcome = some (.ok (some r)) →
    r.intermediates = session.ownLines session.before ∧ r.finalResponse.isSome ∧
      r.finalResponse = session.after.head?

end Session

namespace System

/-- All lines are accounted for. -/
structure Right (s : System) : Prop where
  idle : s.idlePassed = s.idle
  finished : ∀ session ∈ s.finished, session.Right

/-- A line that is none of a prompt and that, behind the final line, is neither final nor a line
that the response would take up. -/
def Undisturbed (s : System) : Event → Prop
  | .line line => ∀ r ∈ s.channel.response,
      ¬ (s.channel.rawData.isSome ∧ line = rawPrompt) ∧
      ¬ (s.channel.smsPDU.isSome ∧ line = smsPrompt) ∧
      (r.finalResponse.isSome → isFinal line = false ∧
        (matchesCommand s.channel.type s.channel.responsePrefix line →
          s.channel.type ≠ .multiline ∧ r.intermediates ≠ []))
  | _ => True

instance (s : System) : ∀ e, Decidable (s.Undisturbed e)
  | .line _ => inferInstanceAs (Decidable (∀ r ∈ s.channel.response, _ ∧ _ ∧ _))
  | .send .. | .raw _ | .wake _ | .close => inferInstanceAs (Decidable True)

end System

/-! ### One more line -/

namespace Session

variable (session : Session) (line : Line)

/-- The session with one more line. -/
def snoc : Session := { session with lines := session.lines ++ [line] }

variable {session line}

/-- No final line yet. -/
theorem after_eq_nil : session.after = [] ↔ ∀ l ∈ session.lines, isFinal l = false := by
  simp [after, List.dropWhile_eq_nil_iff]

theorem before_of_open (none : session.after = []) : session.before = session.lines := by
  rw [before, List.takeWhile_eq_self_iff]
  simpa using after_eq_nil.mp none

theorem snoc_of_open (none : session.after = []) (ordinary : isFinal line = false) :
    (session.snoc line).before = session.before ++ [line] ∧ (session.snoc line).after = [] := by
  have all : ∀ l ∈ session.lines, (!isFinal l) = true := by simpa using after_eq_nil.mp none
  rw [before_of_open none]
  constructor
  · rw [before, snoc, List.takeWhile_append_of_pos all]
    simp [ordinary]
  · rw [after, snoc, List.dropWhile_append_of_pos all]
    simp [ordinary]

theorem snoc_of_final (none : session.after = []) (final : isFinal line = true) :
    (session.snoc line).before = session.before ∧ (session.snoc line).after = [line] := by
  have all : ∀ l ∈ session.lines, (!isFinal l) = true := by simpa using after_eq_nil.mp none
  rw [before_of_open none]
  constructor
  · rw [before, snoc, List.takeWhile_append_of_pos all]
    simp [final]
  · rw [after, snoc, List.dropWhile_append_of_pos all]
    simp [final]

theorem snoc_of_closed (some : session.after ≠ []) :
    (session.snoc line).before = session.before ∧
      (session.snoc line).after = session.after ++ [line] := by
  have shorter : session.before.length ≠ session.lines.length := by
    have parts := congrArg List.length
      (@List.takeWhile_append_dropWhile _ (!isFinal ·) session.lines)
    rw [List.length_append] at parts
    have rest : 0 < session.after.length := List.length_pos_of_ne_nil some
    rw [before]
    rw [after] at rest
    omega
  constructor
  · rw [before, snoc, List.takeWhile_append]
    exact if_neg shorter
  · have rest : ¬ (session.lines.dropWhile (!isFinal ·)).isEmpty = true := by
      rwa [List.isEmpty_iff]
    rw [after, snoc, List.dropWhile_append]
    exact if_neg rest

/-- The response takes up the line: it matches, and is not the second of a single one. -/
def Takes (session : Session) (lines : List Line) (line : Line) : Prop :=
  session.Own line ∧ (session.type = .multiline ∨ session.ownLines lines = [])

theorem ownLines_append_of_takes {lines : List Line} (takes : session.Takes lines line) :
    session.ownLines (lines ++ [line]) = session.ownLines lines ++ [line] ∧
      session.otherLines (lines ++ [line]) = session.otherLines lines := by
  obtain ⟨own, multi | single⟩ := takes
  · simp [ownLines, otherLines, multi, own]
  · by_cases multi : session.type = .multiline
    · simp [ownLines, otherLines, multi, own]
    · have none : lines.filter session.Own = [] := by
        simpa [ownLines, multi] using single
      have noOwn : ∀ l ∈ lines, ¬ session.Own l = true := List.filter_eq_nil_iff.mp none
      constructor
      · simp [ownLines, multi, none, own]
      · rw [otherLines, otherLines, if_neg multi, if_neg multi, List.eraseP_append_right _ noOwn,
          List.eraseP_of_forall_not noOwn]
        simp [own]

theorem ownLines_append_of_not_takes {lines : List Line} (leaves : ¬ session.Takes lines line) :
    session.ownLines (lines ++ [line]) = session.ownLines lines ∧
      session.otherLines (lines ++ [line]) = session.otherLines lines ++ [line] := by
  by_cases own : session.Own line
  · -- The second line of a single one.
    have multi : session.type ≠ .multiline := fun multi => leaves ⟨own, .inl multi⟩
    have some : lines.filter session.Own ≠ [] := fun none =>
      leaves ⟨own, .inr (by simp [ownLines, multi, none])⟩
    constructor
    · obtain ⟨first, rest, cons⟩ := List.exists_cons_of_ne_nil some
      simp [ownLines, multi, cons]
    · obtain ⟨l, member⟩ := List.exists_mem_of_ne_nil _ some
      obtain ⟨inside, isOwn⟩ := List.mem_filter.mp member
      rw [otherLines, otherLines, if_neg multi, if_neg multi,
        List.eraseP_append_left isOwn _ inside]
  · by_cases multi : session.type = .multiline
    · simp [ownLines, otherLines, multi, own]
    · constructor
      · simp [ownLines, multi, own]
      · rw [otherLines, otherLines, if_neg multi, if_neg multi, List.eraseP_append]
        split_ifs with any
        · rfl
        · have noOwn : ∀ l ∈ lines, ¬ session.Own l = true := by simpa using any
          rw [List.eraseP_of_forall_not noOwn]
          simp [own]

end Session

/-! ### The response under way -/

/-- The response that is being collected is right so far. -/
structure Tracks (session : Session) (c : Channel) (r : Response) : Prop where
  response : c.response = some r
  type : c.type = session.type
  responsePrefix : c.responsePrefix = session.responsePrefix
  collected : r.intermediates.reverse = session.ownLines session.before
  final : r.finalResponse = session.after.head?
  passed : session.passed = session.otherLines session.before ++ session.after.tail

namespace Channel

/-- What `processLine` does with a line of a pending command that is no prompt. -/
theorem processLine_cases {c : Channel} {r : Response} {line : Line}
    (pending : c.response = some r) (proxy : c.atcProxy = false)
    (noRaw : ¬ (c.rawData.isSome ∧ line = rawPrompt))
    (noSms : ¬ (c.smsPDU.isSome ∧ line = smsPrompt)) :
    isFinal line = true ∧ (∃ success, c.processLine line = { c with
      response := some { r with success := success, finalResponse := some line } }) ∨
    isFinal line = false ∧ (matchesCommand c.type c.responsePrefix line ∧
      (c.type = .multiline ∨ r.intermediates = [])) ∧
        c.processLine line = c.addIntermediate r line ∨
    isFinal line = false ∧ ¬ (matchesCommand c.type c.responsePrefix line ∧
      (c.type = .multiline ∨ r.intermediates = [])) ∧
        c.processLine line = c.handleUnsolicited line := by
  simp only [processLine, pending, if_neg noRaw, if_neg noSms]
  by_cases success : isFinalResponseSuccess line
  · left
    refine ⟨by simp [isFinal, success], true, ?_⟩
    simp [success, handleFinalResponse, proxy]
  · by_cases error : isFinalResponseError line
    · left
      refine ⟨by simp [isFinal, error], false, ?_⟩
      simp [success, error, handleFinalResponse, proxy]
    · right
      have ordinary : isFinal line = false := by simp [isFinal, success, error]
      simp only [success, error, intermediateLine]
      cases type : c.type with
      | noResult => right; simp [ordinary, matchesCommand]
      | multiline =>
        by_cases own : matchesCommand .multiline c.responsePrefix line <;> simp [ordinary, own]
      | numeric =>
        by_cases own : matchesCommand .numeric c.responsePrefix line <;>
          by_cases empty : r.intermediates = [] <;> simp [ordinary, own, empty]
      | singleline =>
        by_cases own : matchesCommand .singleline c.responsePrefix line <;>
          by_cases empty : r.intermediates = [] <;> simp [ordinary, own, empty]

/-- What has gone to the handler is written behind what had gone there before. -/
theorem passed_handleUnsolicited (c : Channel) (line : Line) :
    (c.handleUnsolicited line).unsolicited.drop c.unsolicited.length = [line] := by
  simp [handleUnsolicited]

end Channel

/-- One more line that does not disturb. -/
theorem Tracks.processLine {session : Session} {c : Channel} {r : Response} {line : Line}
    (tracks : Tracks session c r) (proxy : c.atcProxy = false)
    (noRaw : ¬ (c.rawData.isSome ∧ line = rawPrompt))
    (noSms : ¬ (c.smsPDU.isSome ∧ line = smsPrompt))
    (late : r.finalResponse.isSome → isFinal line = false ∧
      (matchesCommand c.type c.responsePrefix line → c.type ≠ .multiline ∧ r.intermediates ≠ [])) :
    ∃ r', Tracks { session.snoc line with
      passed := session.passed ++
        (c.processLine line).unsolicited.drop c.unsolicited.length } (c.processLine line) r' := by
  have noIntermediates : r.intermediates = [] ↔ session.ownLines session.before = [] := by
    rw [← tracks.collected, List.reverse_eq_nil_iff]
  have noFinal : r.finalResponse = none ↔ session.after = [] := by
    rw [tracks.final, List.head?_eq_none_iff]
  have takes : (matchesCommand c.type c.responsePrefix line ∧
      (c.type = .multiline ∨ r.intermediates = [])) ↔ session.Takes session.before line := by
    rw [tracks.type, tracks.responsePrefix, noIntermediates]
    rfl
  rcases processLine_cases tracks.response proxy noRaw noSms with
    ⟨final, success, eq⟩ | ⟨ordinary, taken, eq⟩ | ⟨ordinary, left, eq⟩
  · -- The first final line.
    have open_ : session.after = [] := by
      rw [← noFinal, ← Option.not_isSome_iff_eq_none]
      intro already
      rw [(late already).1] at final
      cases final
    obtain ⟨before, after⟩ := Session.snoc_of_final open_ final
    rw [eq]
    refine ⟨_, rfl, tracks.type, tracks.responsePrefix, ?_, ?_, ?_⟩
    · exact tracks.collected.trans (congrArg session.ownLines before.symm)
    · exact (congrArg List.head? after).symm
    · change session.passed ++ c.unsolicited.drop c.unsolicited.length =
        session.otherLines (session.snoc line).before ++ (session.snoc line).after.tail
      rw [before, after, tracks.passed, open_, List.drop_length]
      simp
  · -- One more line of the response, which has no final line yet.
    have open_ : session.after = [] := by
      rw [← noFinal, ← Option.not_isSome_iff_eq_none]
      intro already
      obtain ⟨single, some⟩ := (late already).2 taken.1
      rcases taken.2 with multi | none
      · exact single multi
      · exact some none
    obtain ⟨before, after⟩ := Session.snoc_of_open open_ ordinary
    obtain ⟨own, other⟩ := Session.ownLines_append_of_takes (takes.mp taken)
    rw [eq]
    refine ⟨_, rfl, tracks.type, tracks.responsePrefix, ?_, ?_, ?_⟩
    · change (line :: r.intermediates).reverse = session.ownLines (session.snoc line).before
      rw [before, own, List.reverse_cons, tracks.collected]
    · change r.finalResponse = (session.snoc line).after.head?
      rw [after, noFinal.mpr open_]
      rfl
    · change session.passed ++ c.unsolicited.drop c.unsolicited.length =
        session.otherLines (session.snoc line).before ++ (session.snoc line).after.tail
      rw [before, after, other, tracks.passed, open_, List.drop_length]
      simp
  · -- A line for the handler, before the final line or behind it.
    rw [eq]
    refine ⟨r, tracks.response, tracks.type, tracks.responsePrefix, ?_, ?_, ?_⟩
    · change r.intermediates.reverse = session.ownLines (session.snoc line).before
      by_cases open_ : session.after = []
      · rw [(Session.snoc_of_open open_ ordinary).1,
          (Session.ownLines_append_of_not_takes (takes.not.mp left)).1, tracks.collected]
      · rw [(Session.snoc_of_closed open_).1, tracks.collected]
    · change r.finalResponse = (session.snoc line).after.head?
      by_cases open_ : session.after = []
      · rw [(Session.snoc_of_open open_ ordinary).2, noFinal.mpr open_]
        rfl
      · rw [(Session.snoc_of_closed open_).2, tracks.final, List.head?_append_of_ne_nil _ open_]
    · change session.passed ++ (c.handleUnsolicited line).unsolicited.drop c.unsolicited.length =
        session.otherLines (session.snoc line).before ++ (session.snoc line).after.tail
      rw [passed_handleUnsolicited, tracks.passed]
      by_cases open_ : session.after = []
      · obtain ⟨before, after⟩ := Session.snoc_of_open open_ ordinary
        rw [before, after, open_, (Session.ownLines_append_of_not_takes (takes.not.mp left)).2]
        simp
      · obtain ⟨before, after⟩ := Session.snoc_of_closed open_
        rw [before, after, List.tail_append_of_ne_nil open_, List.append_assoc]

/-! ### Runs -/

namespace System

/-- With no command pending there is no response; a pending one is tracked. -/
def Waiting (s : System) : Prop :=
  match s.current with
  | none => s.channel.response = none
  | some session => session.outcome = none ∧ ∃ r, Tracks session s.channel r

structure Invariant (s : System) : Prop where
  proxy : s.channel.atcProxy = false
  waiting : s.Waiting
  right : s.Right

theorem init_invariant : Invariant {} := ⟨rfl, rfl, rfl, by simp⟩

theorem handleFinalResponse_atcProxy (c : Channel) (r : Response) (success : Bool) (line : Line) :
    (c.handleFinalResponse r success line).atcProxy = c.atcProxy := by
  rw [handleFinalResponse]
  split_ifs <;> rfl

theorem intermediateLine_atcProxy (c : Channel) (r : Response) (line : Line) :
    (c.intermediateLine r line).atcProxy = c.atcProxy := by
  rw [intermediateLine]
  split
  · rfl
  · split_ifs <;> rfl
  · split_ifs <;> rfl
  · split_ifs <;> rfl

theorem processLine_atcProxy (c : Channel) (line : Line) :
    (c.processLine line).atcProxy = c.atcProxy := by
  rw [processLine]
  split
  · rfl
  · split_ifs
    · rfl
    · exact handleFinalResponse_atcProxy ..
    · exact handleFinalResponse_atcProxy ..
    · rfl
    · exact intermediateLine_atcProxy ..

section

variable {s : System} (inv : s.Invariant)

include inv

/-- A change to the channel that leaves the pending command alone. -/
theorem Invariant.with_channel {c : Channel} (proxy : c.atcProxy = s.channel.atcProxy)
    (response : c.response = s.channel.response) (type : c.type = s.channel.type)
    (responsePrefix : c.responsePrefix = s.channel.responsePrefix) :
    Invariant { s with channel := c } := by
  refine ⟨proxy.trans inv.proxy, ?_, inv.right.idle, inv.right.finished⟩
  have waiting := inv.waiting
  unfold Waiting at *
  cases current : s.current with
  | none =>
    rw [current] at waiting
    exact response.trans waiting
  | some session =>
    rw [current] at waiting
    obtain ⟨outcome, r, tracks⟩ := waiting
    exact ⟨outcome, r, response.trans tracks.response, type.trans tracks.type,
      responsePrefix.trans tracks.responsePrefix, tracks.collected, tracks.final, tracks.passed⟩

theorem invariant_handle {line : Line} (undisturbed : s.Undisturbed (.line line)) :
    (s.handle line).Invariant := by
  have waiting := inv.waiting
  have proxy := (processLine_atcProxy s.channel line).trans inv.proxy
  unfold Waiting at waiting
  rw [handle]
  cases current : s.current with
  | none =>
    rw [current] at waiting
    have passes : s.channel.processLine line = s.channel.handleUnsolicited line := by
      rw [processLine, waiting]
    refine ⟨proxy, ?_, ?_, inv.right.finished⟩
    · change (s.channel.processLine line).response = none
      rw [passes]
      exact waiting
    · change s.idlePassed ++ _ = s.idle ++ [line]
      rw [passes, passed_handleUnsolicited, inv.right.idle]
  | some session =>
    rw [current] at waiting
    obtain ⟨outcome, r, tracks⟩ := waiting
    obtain ⟨noRaw, noSms, late⟩ := undisturbed r tracks.response
    obtain ⟨r', tracked⟩ := tracks.processLine inv.proxy noRaw noSms late
    exact ⟨proxy, ⟨outcome, r', tracked⟩, inv.right.idle, inv.right.finished⟩

theorem invariant_send (command : Line) (type : CommandType) (responsePrefix : Line)
    (smsPDU : Option Line) (wanted : Bool) :
    (s.step (.send command type responsePrefix smsPDU wanted)).Invariant := by
  rw [step]
  split_ifs
  · exact inv
  · refine ⟨inv.proxy, ⟨rfl, {}, rfl, rfl, rfl, ?_, rfl, ?_⟩, inv.right.idle, inv.right.finished⟩
    · simp [Session.ownLines, Session.before]
    · simp [Session.otherLines, Session.before, Session.after]

/-- A command that comes to its end with a right response. -/
theorem invariant_finish {session : Session} {r : Response} {outcome : Outcome}
    (tracks : Tracks session s.channel r)
    (returned : ∀ r', outcome = .ok (some r') →
      r' = reverseIntermediates r ∧ r.finalResponse.isSome) :
    (s.finish session outcome).Invariant := by
  refine ⟨inv.proxy, rfl, inv.right.idle, ?_⟩
  intro other member
  rcases List.mem_append.mp member with old | new
  · exact inv.right.finished other old
  · rw [List.mem_singleton.mp new]
    refine ⟨tracks.passed, fun r' isOk => ?_⟩
    obtain ⟨rfl, some⟩ := returned r' (Option.some.inj isOk)
    exact ⟨tracks.collected, some, tracks.final⟩

theorem invariant_wake (timedOut : Bool) : (s.step (.wake timedOut)).Invariant := by
  have waiting := inv.waiting
  unfold Waiting at waiting
  rw [step]
  split
  next session r current response =>
    rw [current] at waiting
    obtain ⟨_, r', tracks⟩ := waiting
    obtain rfl : r = r' := Option.some.inj (response.symm.trans tracks.response)
    split_ifs with late more closed wanted
    · exact invariant_finish inv tracks (by simp)
    · exact inv
    · exact invariant_finish inv tracks (by simp)
    · -- Neither closed nor without a final line.
      have final : r.finalResponse.isSome := by
        cases final : r.finalResponse with
        | none => exact absurd ⟨by simp [final], closed⟩ more
        | some line => rfl
      refine invariant_finish inv tracks fun r' isOk => ⟨?_, final⟩
      exact (Option.some.inj (Outcome.ok.inj isOk)).symm
    · exact invariant_finish inv tracks (by simp)
  · exact inv

theorem step_invariant {e : Event} (undisturbed : s.Undisturbed e) : (s.step e).Invariant := by
  cases e with
  | send command type responsePrefix smsPDU wanted => exact invariant_send inv ..
  | raw data => exact inv.with_channel rfl rfl rfl rfl
  | line line => exact invariant_handle inv undisturbed
  | wake timedOut => exact invariant_wake inv timedOut
  | close => exact inv.with_channel rfl rfl rfl rfl

end

/-- In every run without disturbance the lines of each response are those of its command up to the
first final line, and all other lines have gone to the handler. -/
theorem responses_right (events : List Event) (guarded : Guarded step Undisturbed {} events) :
    (run step {} events).Right :=
  (guarded_invariant step Undisturbed Invariant (fun _ _ inv undisturbed =>
    step_invariant inv undisturbed) {} init_invariant events guarded).right

/-- A command that lists the contexts of the modem. -/
def listContexts : Event :=
  .send "AT+CGDCONT?".toList .multiline "+CGDCONT:".toList none true

/-- Behind the final line a call ends, and the line that says so is taken for the final one. The lines
of a second context that come late are added to the response. -/
theorem late_lines_taken :
    (¬ ∀ events : List Event, (run step {} events).Right) ∧
    (run step {} [listContexts, .line "+CGDCONT: 1".toList, .line "OK".toList,
      .line "NO CARRIER".toList, .line "+CGDCONT: 2".toList, .wake false]).finished.map
        Session.outcome = [some (.ok (some ⟨false, some "NO CARRIER".toList,
          ["+CGDCONT: 1".toList, "+CGDCONT: 2".toList]⟩))] := by
  constructor
  · intro right
    have finished := (right [listContexts, .line "OK".toList, .line "NO CARRIER".toList,
      .wake false]).finished
    have passed := (finished ⟨.multiline, "+CGDCONT:".toList, true,
      ["OK".toList, "NO CARRIER".toList], [],
      some (.ok (some ⟨false, some "NO CARRIER".toList, []⟩))⟩ (by decide +kernel)).passed
    exact absurd passed (by decide +kernel)
  · decide +kernel

/-- The same command, woken up before the call ends. -/
theorem responses_right_contexts :
    (run step {} [listContexts, .line "+CGDCONT: 1".toList, .line "OK".toList, .wake false,
      .line "NO CARRIER".toList]).Right :=
  responses_right _ (by decide +kernel)

end System
end LorawanFeeds.AtChannel
