import LorawanFeeds.MbimClient.Client

/-!
# Responses of the modem and the requests they belong to

While a call waits, the shared request is its own, and the shared response is a copy of a message
that has come since its write and has its transaction. Which other messages have such a
transaction is up to the modem: the property `P` of the messages that are taken for a response is
a parameter.
-/
namespace LorawanFeeds.MbimClient

open Lib Memory

/-- A block that begins with the whole message. -/
def CopyOf (copy m : Memory) : Prop := ∀ k < (messageLength m).toNat, copy k = m k

/-- The block is a copy of the received message of this number, which has the transaction of the
request. -/
def Answers (P : Memory → Prop) (received : List Memory) (request : Request) (number : Nat)
    (copy : Memory) : Prop :=
  ∃ m, received[number]? = some m ∧ transactionId m = request.transactionId ∧ CopyOf copy m ∧ P m

theorem Answers.append {P : Memory → Prop} {received : List Memory} {request : Request}
    {number : Nat} {copy : Memory} (answers : Answers P received request number copy)
    (more : List Memory) : Answers P (received ++ more) request number copy := by
  obtain ⟨m, found, rest⟩ := answers
  have bound : number < received.length := (List.getElem?_eq_some_iff.mp found).1
  exact ⟨m, by rw [List.getElem?_append_left bound, found], rest⟩

/-- The response that a call has returned was received between its write and its return. -/
def Return.Paired (P : Memory → Prop) (received : List Memory) (r : Return) : Prop :=
  ∀ number copy, r.pCmdDone = some (number, copy) →
    r.since ≤ number ∧ number < r.before ∧
      ∃ request, r.written = some request ∧ Answers P received request number copy

namespace State

variable (P : Memory → Prop)

/-- What holds of the shared variables while a call waits. -/
structure Waiting (s : State) (call : Call) : Prop where
  since : call.since ≤ s.received.length
  request : s.mbimPRequest = some call.request
  response : ∀ number copy, s.mbimPResponse = some (number, copy) →
    call.since ≤ number ∧ number < s.received.length ∧
      Answers P s.received call.request number copy

structure Paired (s : State) : Prop where
  returned : ∀ r ∈ s.returned, r.Paired P s.received
  waiting : ∀ call, s.call = some call → s.Waiting P call

/-- A message that is taken for the response of the waiting request has the property. -/
def Trusted (s : State) : Event → Prop
  | .recv pResponse _ => s.matched pResponse → P pResponse
  | _ => True

/-- Any message may be taken for a response. -/
theorem trusted_true (s : State) (e : Event) : s.Trusted (fun _ => True) e := by
  cases e with
  | recv pResponse block => exact fun _ => trivial
  | _ => trivial

variable {P} {s : State}

theorem refuse_paired (paired : s.Paired P) (ret : Int) : (s.refuse ret).Paired P := by
  refine ⟨fun r member => ?_, fun call running => ?_⟩
  · rcases List.mem_append.mp member with old | new
    · exact paired.returned r old
    · rw [List.mem_singleton.mp new]
      rintro number copy ⟨⟩
  · have waiting := paired.waiting call running
    exact ⟨waiting.since, waiting.request, waiting.response⟩

theorem finish_paired {call : Call} (returned : ∀ r ∈ s.returned, r.Paired P s.received)
    (waiting : s.Waiting P call) (ret : Int) : (s.finish call ret).Paired P := by
  refine ⟨fun r member => ?_, by rintro other ⟨⟩⟩
  rcases List.mem_append.mp member with old | new
  · exact returned r old
  · rw [List.mem_singleton.mp new]
    intro number copy done
    dsimp only at done
    split at done
    · obtain ⟨after, bound, answers⟩ := waiting.response number copy done
      exact ⟨after, bound, call.request, rfl, answers⟩
    · cases done

/-- A new call: whatever was in the shared variables is replaced. -/
theorem transmit_paired (returned : ∀ r ∈ s.returned, r.Paired P s.received) (request : Request)
    (ppCmdDone : Bool) (msecs : UInt32) (write : Int) :
    (s.transmit request ppCmdDone msecs write).Paired P := by
  have fresh : State.Waiting P { s with mbimPRequest := some request, mbimPResponse := none }
      ⟨request, ppCmdDone, msecs, 0, s.received.length⟩ :=
    ⟨Nat.le_refl _, rfl, by rintro _ _ ⟨⟩⟩
  rw [transmit]
  dsimp only
  split
  · refine ⟨returned, ?_⟩
    rintro call ⟨⟩
    exact ⟨fresh.since, fresh.request, fresh.response⟩
  · refine finish_paired ?_ fresh write
    exact returned

theorem mbimSendCommand_paired (paired : s.Paired P) (request : Option Request)
    (ppCmdDone : Bool) (msecs : UInt32) (write : Int) :
    (s.mbimSendCommand request ppCmdDone msecs write).Paired P := by
  unfold mbimSendCommand
  split
  · exact refuse_paired paired _
  split
  · exact refuse_paired paired _
  cases request with
  | none => exact refuse_paired paired _
  | some request =>
    refine transmit_paired ?_ _ ppCmdDone msecs write
    rw [renumber]
    split <;> exact paired.returned

/-- A message is stored for the waiting call only if its transaction fits. -/
theorem mbimRecvCommand_paired (paired : s.Paired P) (pResponse : Memory) (block : Option Memory)
    (trusted : s.matched pResponse → P pResponse) :
    (s.mbimRecvCommand pResponse block).Paired P := by
  have logged : ∀ r ∈ s.returned, r.Paired P (s.received ++ [pResponse]) := by
    intro r member number copy returned
    obtain ⟨after, bound, request, written, answers⟩ := paired.returned r member number copy returned
    exact ⟨after, bound, request, written, answers.append [pResponse]⟩
  have longer {call : Call} (waiting : s.Waiting P call) :
      call.since ≤ (s.received ++ [pResponse]).length := by
    rw [List.length_append]
    exact Nat.le_add_right_of_le waiting.since
  rw [mbimRecvCommand]
  dsimp only
  split
  next matched =>
    refine ⟨logged, fun call running => ?_⟩
    have waiting := paired.waiting call running
    refine ⟨longer waiting, waiting.request, fun number copy stored => ?_⟩
    obtain ⟨contents, allocated, same⟩ := Option.map_eq_some_iff.mp stored
    cases same
    refine ⟨waiting.since, by simp, pResponse, by simp, ?_, ?_, trusted matched⟩
    · rw [State.matched, waiting.request, Option.any_some, decide_eq_true_eq] at matched
      exact matched.symm
    · exact fun k inside => memcpy_of_lt contents pResponse inside
  next =>
    refine ⟨logged, fun call running => ?_⟩
    have waiting := paired.waiting call running
    refine ⟨longer waiting, waiting.request, fun number copy stored => ?_⟩
    obtain ⟨after, bound, answers⟩ := waiting.response number copy stored
    exact ⟨after, by simp; omega, answers.append [pResponse]⟩

theorem step_paired (s : State) (e : Event) (paired : s.Paired P) (trusted : s.Trusted P e) :
    (s.step e).Paired P := by
  have untouched (s' : State) (call : s'.call = s.call) (received : s'.received = s.received)
      (returned : s'.returned = s.returned) (request : s'.mbimPRequest = s.mbimPRequest)
      (response : s'.mbimPResponse = s.mbimPResponse) : s'.Paired P := by
    refine ⟨by rw [returned, received]; exact paired.returned, fun other running => ?_⟩
    have waiting := paired.waiting other (call ▸ running)
    refine ⟨received ▸ waiting.since, request ▸ waiting.request, ?_⟩
    rw [response, received]
    exact waiting.response
  cases e with
  | start fd =>
    simp only [step]
    split <;> exact untouched _ rfl rfl rfl rfl rfl
  | send messageType messageLength allocated ppCmdDone msecs write =>
    simp only [step]
    split
    · refine mbimSendCommand_paired ?_ _ ppCmdDone msecs write
      rw [compose]
      split <;> exact untouched _ rfl rfl rfl rfl rfl
    · exact paired
  | recv pResponse block => exact mbimRecvCommand_paired paired pResponse block trusted
  | quit => exact untouched _ rfl rfl rfl rfl rfl
  | wake ret =>
    simp only [step]
    split
    · exact paired
    next call running =>
      split
      next again next =>
        -- The loop only counts its slices.
        have waiting := paired.waiting call running
        refine ⟨paired.returned, ?_⟩
        rintro other ⟨⟩
        rw [Call.next] at next
        split at next
        · cases next
          exact ⟨waiting.since, waiting.request, waiting.response⟩
        · cases next
      · exact finish_paired paired.returned (paired.waiting call running) ret
  | update noted => exact untouched _ rfl rfl rfl rfl rfl

theorem run_paired (events : List Event) (trusted : Guarded step (Trusted P) {} events) :
    (run step {} events).Paired P := by
  refine guarded_invariant step (Trusted P) (Paired P) (fun s e => step_paired s e) {} ?_ events
    trusted
  exact ⟨by simp, by rintro call ⟨⟩⟩

end State

/-! ### Getting past `mbim_check_err` -/

theorem toStatus_eq_zero {word : UInt32} (zero : toStatus word = 0) : word = 0 := by
  have same : word.toInt32 = 0 := Int32.toInt_inj.mp (zero.trans Int32.toInt_zero.symm)
  rw [← UInt32.toUInt32_toInt32 word, same]
  rfl

theorem passes_iff (r : Return) :
    r.passes ↔ r.ret = 0 ∧
      ∃ number copy, r.pCmdDone = some (number, copy) ∧ mbimStatusCode copy = 0 := by
  rw [Return.passes, mbimCheckErr]
  cases r.pCmdDone with
  | none => by_cases failed : r.ret = 0 <;> simp [failed]
  | some answer =>
    by_cases failed : r.ret = 0 <;> by_cases status : mbimStatusCode answer.2 = 0 <;>
      simp [failed, status, Prod.ext_iff]

/-- A message of success. -/
def Succeeded (m : Memory) : Prop :=
  (messageType m = mbimOpenDone ∨ messageType m = mbimCloseDone) ∧ headerStatus m = 0 ∨
    messageType m = mbimCommandDone ∧ commandStatus m = 0

/-- A message that tells by its status what has become of the request: it is one of the three that
answer a request, or the error of one, and long enough to have a status. -/
def Telling (m : Memory) : Prop :=
  (messageType m = mbimOpenDone ∨ messageType m = mbimCloseDone) ∧ 16 ≤ messageLength m ∨
    messageType m = mbimCommandDone ∧ 44 ≤ messageLength m ∨
    messageType m = mbimFunctionErrorMsg ∧ 16 ≤ messageLength m ∧ headerStatus m ≠ 0

instance (m : Memory) : Decidable (Succeeded m) := inferInstanceAs (Decidable (_ ∨ _))

instance (m : Memory) : Decidable (Telling m) := inferInstanceAs (Decidable (_ ∨ _))

/-- A copy of a telling message has a status of zero only if the message does. -/
theorem Telling.succeeded {m copy : Memory} (telling : Telling m) (copied : CopyOf copy m)
    (zero : mbimStatusCode copy = 0) : Succeeded m := by
  have word {offset length : Nat} (long : length ≤ (messageLength m).toNat)
      (inside : offset + 4 ≤ length) : le32 copy offset = le32 m offset :=
    le32_congr copied (Nat.le_trans inside long)
  rw [mbimStatusCode] at zero
  rcases telling with ⟨done, long⟩ | ⟨done, long⟩ | ⟨error, long, code⟩
  · have long : 16 ≤ (messageLength m).toNat := UInt32.le_iff_toNat_le.mp long
    have type : messageType copy = messageType m := word long (by omega)
    have status : headerStatus copy = headerStatus m := word long (by omega)
    rw [type, status] at zero
    left
    rcases done with isOpen | isClose
    · rw [if_pos isOpen] at zero
      exact ⟨.inl isOpen, toStatus_eq_zero zero⟩
    · rw [if_neg (by rw [isClose]; decide), if_pos isClose] at zero
      exact ⟨.inr isClose, toStatus_eq_zero zero⟩
  · have long : 44 ≤ (messageLength m).toNat := UInt32.le_iff_toNat_le.mp long
    have type : messageType copy = messageType m := word long (by omega)
    have status : commandStatus copy = commandStatus m := word long (by omega)
    rw [type, status, if_neg (by rw [done]; decide), if_neg (by rw [done]; decide), if_pos done] at zero
    exact .inr ⟨done, toStatus_eq_zero zero⟩
  · have long : 16 ≤ (messageLength m).toNat := UInt32.le_iff_toNat_le.mp long
    have type : messageType copy = messageType m := word long (by omega)
    have status : headerStatus copy = headerStatus m := word long (by omega)
    rw [type, status, if_neg (by rw [error]; decide), if_neg (by rw [error]; decide),
      if_neg (by rw [error]; decide), if_pos error] at zero
    exact absurd (toStatus_eq_zero zero) code

/-- Whatever the order of requests, messages, wake-ups and timeouts: a response that a call returns
was received after its write and has its transaction, and as long as only telling messages have the
transaction of a waiting request, a function gets past `mbim_check_err` only with a success. -/
theorem mbim_calls_answered (events : List Event) :
    (∀ r ∈ (run State.step {} events).returned, ∀ number copy, r.ret = 0 →
        r.pCmdDone = some (number, copy) →
      r.since ≤ number ∧ number < r.before ∧ ∃ request m, r.written = some request ∧
        (run State.step {} events).received[number]? = some m ∧ CopyOf copy m ∧
        transactionId m = request.transactionId) ∧
    (Guarded State.step (State.Trusted Telling) {} events →
      ∀ r ∈ (run State.step {} events).returned, r.passes →
        ∃ request number m, r.written = some request ∧ r.since ≤ number ∧ number < r.before ∧
          (run State.step {} events).received[number]? = some m ∧
          transactionId m = request.transactionId ∧ Succeeded m) := by
  constructor
  · intro r member number copy zero done
    have always := @guarded_of_forall _ _ State.step _ State.trusted_true {} events
    obtain ⟨after, bound, request, written, m, found, same, copied, _⟩ :=
      (State.run_paired events always).returned r member number copy done
    exact ⟨after, bound, request, m, written, found, copied, same⟩
  · intro trusted r member passes
    obtain ⟨_, number, copy, done, zero⟩ := (passes_iff r).mp passes
    obtain ⟨after, bound, request, written, m, found, same, copied, telling⟩ :=
      (State.run_paired events trusted).returned r member number copy done
    exact ⟨request, number, m, written, after, bound, found, same, telling.succeeded copied zero⟩

/-- A message of this type with a transaction, a status of zero and nothing else. -/
def answerOf (type : UInt8) (transaction : UInt8) : Memory :=
  ofList [type, 0, 0, 0x80, 48, 0, 0, 0, transaction]

/-- A request is sent, and a message of this type comes before the caller wakes up. -/
def answeredRun (type : UInt8) : List Event :=
  [.start 3, .send 3 48 true true 30000 48, .recv (answerOf type 1) (some fun _ => 0), .wake 0]

/-- What the call of this run has returned. -/
def answeredReturn (type : UInt8) : Return :=
  ⟨some ⟨3, 48, 1⟩, 0, some (0, memcpy (fun _ => 0) (answerOf type 1) 48), 0, 1⟩

theorem answerOf_fields (type : UInt8) :
    transactionId (answerOf type 1) = 1 ∧ messageLength (answerOf type 1) = 48 :=
  ⟨show word 1 0 0 0 = 1 by decide, show word 48 0 0 0 = 48 by decide⟩

theorem answeredRun_received (type : UInt8) :
    (run State.step {} (answeredRun type)).received = [answerOf type 1] := by
  obtain ⟨number, length⟩ := answerOf_fields type
  simp [answeredRun, State.step, State.compose, State.mbimSendCommand, State.renumber,
    State.transmit, State.mbimRecvCommand, State.matched, Call.next, State.finish, number, QmiClient.etimedout]

theorem answeredRun_returned (type : UInt8) :
    (run State.step {} (answeredRun type)).returned = [answeredReturn type] := by
  obtain ⟨number, length⟩ := answerOf_fields type
  simp [answeredRun, State.step, State.compose, State.mbimSendCommand, State.renumber,
    State.transmit, State.mbimRecvCommand, State.matched, Call.next, State.finish, number, length,
    answeredReturn, QmiClient.etimedout]

/-- A command that is answered. -/
theorem mbim_calls_answered_command :
    ∃ r ∈ (run State.step {} (answeredRun 3)).returned, r.passes ∧
      ∃ request number m, r.written = some request ∧ r.since ≤ number ∧ number < r.before ∧
        (run State.step {} (answeredRun 3)).received[number]? = some m ∧
        transactionId m = request.transactionId ∧ Succeeded m := by
  have member : answeredReturn 3 ∈ (run State.step {} (answeredRun 3)).returned := by
    rw [answeredRun_returned]
    exact .head _
  have passes : (answeredReturn 3).passes := rfl
  have trusted : Guarded State.step (State.Trusted Telling) {} (answeredRun 3) :=
    ⟨trivial, trivial, fun _ => by decide, trivial, trivial⟩
  exact ⟨_, member, passes, (mbim_calls_answered (answeredRun 3)).2 trusted _ member passes⟩

/-- An indication with the transaction of the request is taken for its success. -/
theorem indication_passes :
    ¬ ∀ events, ∀ r ∈ (run State.step {} events).returned, r.passes →
      ∃ request number m, r.written = some request ∧ r.since ≤ number ∧ number < r.before ∧
        (run State.step {} events).received[number]? = some m ∧
        transactionId m = request.transactionId ∧ Succeeded m := by
  intro always
  have member : answeredReturn 7 ∈ (run State.step {} (answeredRun 7)).returned := by
    rw [answeredRun_returned]
    exact .head _
  obtain ⟨request, number, m, _, _, bound, found, _, succeeded⟩ := always _ _ member rfl
  rw [answeredRun_received] at found
  have first : number = 0 := Nat.lt_one_iff.mp bound
  subst first
  cases found
  exact absurd succeeded (by decide)

end LorawanFeeds.MbimClient
