import LorawanFeeds.MbimClient.Pairing
import LorawanFeeds.MbimClient.Transactions

/-!
# Whose response a call returns

A response is found by its transaction alone, and the numbers are used again. Each message that is
received has a mark here, which the client does not see. If every message that is taken for the
response of the waiting request has the mark of this request, then whatever a call returns has the
mark of its own. A step either leaves the request that waits and its response alone, or starts with
a new request and no response.
-/
namespace LorawanFeeds.MbimClient

open Lib Memory

/-- How many requests have been composed before that of the call that was the `k`-th to return, if
this call has written one. -/
def Log.compositionOf (l : Log) (k : Nat) : Option Nat :=
  (l.written[((l.state.returned.take k).filterMap Return.written).length]?).map Prod.fst

instance (l : Log) (e : Event) : Decidable (l.Spares e) := inferInstanceAs (Decidable (_ → _ → _))

/-! ### One step -/

namespace State

variable {s : State}

/-- A call that waits after a send has written its request. -/
theorem transmit_call {request : Request} {ppCmdDone : Bool} {msecs : UInt32} {write : Int}
    {call : Call} (running : (s.transmit request ppCmdDone msecs write).call = some call) :
    call.request = request ∧ (s.transmit request ppCmdDone msecs write).mbimPResponse = none := by
  rw [transmit] at running ⊢
  dsimp only at running ⊢
  split at running
  next written =>
    cases running
    rw [if_pos written]
    exact ⟨rfl, rfl⟩
  next => cases running

theorem transmit_returned (s : State) (request : Request) (ppCmdDone : Bool) (msecs : UInt32)
    (write : Int) :
    (s.transmit request ppCmdDone msecs write).returned = s.returned ∨
      ∃ r, (s.transmit request ppCmdDone msecs write).returned = s.returned ++ [r] ∧
        r.pCmdDone = none := by
  rw [transmit]
  dsimp only
  split
  · exact .inl rfl
  · refine .inr ⟨_, rfl, ?_⟩
    dsimp only
    split <;> rfl

/-- Without a message, the call that waits is the one from before, with what it has, or a new one
that has nothing yet. -/
theorem step_call {e : Event} (noMessage : ∀ m block, e ≠ .recv m block) {call : Call}
    (running : (s.step e).call = some call) :
    (∃ old, s.call = some old ∧ old.request = call.request ∧ s.composed e = none ∧
        (s.step e).mbimPResponse = s.mbimPResponse) ∨
      s.writes e = some call.request ∧ (s.step e).mbimPResponse = none := by
  cases e with
  | start fd =>
    left
    simp only [step] at running ⊢
    split at running
    next opened =>
      rw [if_pos opened]
      exact ⟨call, running, rfl, rfl, rfl⟩
    next failed =>
      rw [if_neg failed]
      exact ⟨call, running, rfl, rfl, rfl⟩
  | recv pResponse block => exact absurd rfl (noMessage pResponse block)
  | quit => exact .inl ⟨call, running, rfl, rfl, rfl⟩
  | update noted => exact .inl ⟨call, running, rfl, rfl, rfl⟩
  | wake ret =>
    left
    cases waiting : s.call with
    | none =>
      simp only [step, waiting] at running
      cases running
    | some old =>
      simp only [step, waiting] at running ⊢
      cases next : old.next ret with
      | none =>
        rw [next] at running
        cases running
      | some again =>
        rw [next] at running
        cases running
        refine ⟨old, rfl, ?_, rfl, rfl⟩
        rw [Call.next] at next
        split at next
        · cases next
          rfl
        · cases next
  | send messageType messageLength allocated ppCmdDone msecs write =>
    cases idle : s.call with
    | some old =>
      simp only [step, idle] at running ⊢
      cases running
      exact .inl ⟨_, rfl, rfl, by simp [composed, idle], trivial⟩
    | none =>
      right
      cases allocated with
      | false =>
        obtain ⟨ret, same⟩ :=
          @step_send_unallocated s messageType messageLength msecs ppCmdDone write idle
        rw [same, refuse, idle] at running
        cases running
      | true =>
        by_cases ready : s.Open
        · rw [step_send_open idle ready] at running ⊢
          obtain ⟨same, nothing⟩ := transmit_call running
          refine ⟨?_, nothing⟩
          rw [writes, if_pos ready, composed, if_pos ⟨by rw [idle]; rfl, rfl⟩, same]
          rfl
        · obtain ⟨ret, same⟩ :=
            @step_send_closed s messageType messageLength msecs ppCmdDone write idle ready
          rw [same, refuse] at running
          dsimp only at running
          rw [idle] at running
          cases running

/-- A call that returns a message has been waiting with it. -/
theorem step_returned (s : State) (e : Event) :
    (s.step e).returned = s.returned ∨
      ∃ r, (s.step e).returned = s.returned ++ [r] ∧ ∀ answer, r.pCmdDone = some answer →
        ∃ call, s.call = some call ∧ s.mbimPResponse = some answer ∧ s.composed e = none := by
  cases e with
  | start fd =>
    simp only [step]
    split <;> exact .inl rfl
  | recv pResponse block =>
    simp only [step, mbimRecvCommand]
    split <;> exact .inl rfl
  | quit => exact .inl rfl
  | update noted => exact .inl rfl
  | wake ret =>
    cases waiting : s.call with
    | none =>
      simp only [step, waiting]
      exact .inl trivial
    | some old =>
      simp only [step, waiting]
      cases next : old.next ret with
      | some again => exact .inl rfl
      | none =>
        refine .inr ⟨_, rfl, fun answer done => ⟨old, rfl, ?_, rfl⟩⟩
        dsimp only at done
        split at done
        · exact done
        · cases done
  | send messageType messageLength allocated ppCmdDone msecs write =>
    cases idle : s.call with
    | some old =>
      simp only [step, idle]
      exact .inl trivial
    | none =>
      cases allocated with
      | false =>
        obtain ⟨ret, same⟩ :=
          @step_send_unallocated s messageType messageLength msecs ppCmdDone write idle
        rw [same]
        exact .inr ⟨_, rfl, by rintro answer ⟨⟩⟩
      | true =>
        by_cases ready : s.Open
        · rw [step_send_open idle ready]
          rcases transmit_returned { s with transactionId := s.countAfter }
            (s.renumber ⟨messageType, messageLength, s.transactionId⟩).1 ppCmdDone msecs write with
            same | ⟨r, more, nothing⟩
          · exact .inl same
          · refine .inr ⟨r, more, fun answer done => ?_⟩
            rw [nothing] at done
            cases done
        · obtain ⟨ret, same⟩ :=
            @step_send_closed s messageType messageLength msecs ppCmdDone write idle ready
          rw [same]
          exact .inr ⟨_, rfl, by rintro answer ⟨⟩⟩

theorem step_received {e : Event} (noMessage : ∀ m block, e ≠ .recv m block) :
    (s.step e).received = s.received := by
  cases e with
  | recv pResponse block => exact absurd rfl (noMessage pResponse block)
  | start fd =>
    simp only [step]
    split <;> rfl
  | quit => rfl
  | update noted => rfl
  | wake ret =>
    simp only [step]
    split
    · rfl
    · split <;> rfl
  | send messageType messageLength allocated ppCmdDone msecs write =>
    cases idle : s.call with
    | some old => simp only [step, idle]
    | none =>
      simp only [step, idle, compose, mbimSendCommand, renumber, transmit]
      repeat' split
      all_goals rfl

end State

/-! ### A run -/

namespace Log

variable {μ : Type} (own : Nat → μ)

/-- The messages that have been received have marks, and what is taken for the response of a request
has the mark of this request. -/
structure Marked (l : Log) (marks : List μ) : Prop where
  counted : l.Counted
  recorded : l.written.map Prod.snd = l.state.recorded
  paired : l.state.Paired fun _ => True
  each : marks.length = l.state.received.length
  current : ∀ call, l.state.call = some call →
    0 < l.compositions ∧ ∃ earlier, l.written = earlier ++ [(l.compositions - 1, call.request)]
  waiting : ∀ call number copy, l.state.call = some call →
    l.state.mbimPResponse = some (number, copy) → marks[number]? = some (own (l.compositions - 1))
  returned : ∀ k r number copy, l.state.returned[k]? = some r → r.pCmdDone = some (number, copy) →
    ∃ c, l.compositionOf k = some c ∧ marks[number]? = some (own c)

theorem init_marked : ({} : Log).Marked own [] where
  counted := ⟨rfl, List.forall_mem_nil _, List.Pairwise.nil⟩
  recorded := rfl
  paired := ⟨List.forall_mem_nil _, by rintro call ⟨⟩⟩
  each := rfl
  current := by rintro call ⟨⟩
  waiting := by rintro call number copy ⟨⟩
  returned := by
    intro k r number copy found
    cases found

variable {own} {l : Log} {marks : List μ}

/-- The requests and the calls that have returned are only added to. -/
theorem compositionOf_step (e : Event) {k c : Nat} (before : k ≤ l.state.returned.length)
    (found : l.compositionOf k = some c) : (l.step e).compositionOf k = some c := by
  obtain ⟨w, here, rfl⟩ := Option.map_eq_some_iff.mp found
  have calls : (l.step e).state.returned.take k = l.state.returned.take k := by
    change (l.state.step e).returned.take k = _
    rcases l.state.step_returned e with same | ⟨r, more, -⟩
    · rw [same]
    · rw [more, List.take_append_of_le_length before]
  have bound := (List.getElem?_eq_some_iff.mp here).1
  rw [compositionOf, calls, step]
  dsimp only
  rw [List.getElem?_append_left bound, here]
  rfl

theorem Marked.before (marked : l.Marked own marks) {k number : Nat} {r : Return} {copy : Memory}
    (found : l.state.returned[k]? = some r) (done : r.pCmdDone = some (number, copy)) :
    number < l.state.received.length := by
  obtain ⟨-, -, request, -, m, here, -⟩ :=
    marked.paired.returned r (List.mem_of_getElem? found) number copy done
  exact (List.getElem?_eq_some_iff.mp here).1

/-- The request of the call that waits is the one that has been written last. -/
theorem Marked.compositionOf_waiting (marked : l.Marked own marks) {call : Call}
    (running : l.state.call = some call) :
    l.compositionOf l.state.returned.length = some (l.compositions - 1) := by
  obtain ⟨-, earlier, written⟩ := marked.current call running
  have recorded := congrArg List.length marked.recorded
  rw [State.recorded, running, written] at recorded
  simp only [List.length_map, List.length_append, Option.map_some, Option.toList_some,
    List.length_singleton, Nat.add_right_cancel_iff] at recorded
  rw [compositionOf, List.take_length, ← recorded, written]
  simp

/-- A step that composes no request. -/
theorem step_uncomposed {e : Event} (nothing : l.state.composed e = none) :
    (l.step e).compositions = l.compositions ∧ (l.step e).written = l.written := by
  have unwritten : l.state.writes e = none := by
    rw [State.writes, nothing]
    split <;> rfl
  simp [step, nothing, unwritten]

theorem step_composed {e : Event} {request : Request} (writes : l.state.writes e = some request) :
    (l.step e).compositions = l.compositions + 1 ∧
      (l.step e).written = l.written ++ [(l.compositions, request)] := by
  have composes : (l.state.composed e).isSome = true := by
    rw [State.writes] at writes
    split at writes
    · obtain ⟨composed, same, -⟩ := Option.map_eq_some_iff.mp writes
      rw [same]
      rfl
    · cases writes
  obtain ⟨composed, same⟩ := Option.isSome_iff_exists.mp composes
  simp [step, same, writes]

theorem step_recorded (e : Event) (recorded : l.written.map Prod.snd = l.state.recorded) :
    (l.step e).written.map Prod.snd = (l.step e).state.recorded := by
  rw [step, State.recorded_step, List.map_append, recorded]
  cases l.state.writes e <;> rfl

/-- A call that returns with the next step returns what has waited with it. -/
theorem Marked.step_returned (marked : l.Marked own marks) (e : Event) {k number : Nat} {r : Return}
    {copy : Memory} (found : (l.step e).state.returned[k]? = some r)
    (done : r.pCmdDone = some (number, copy)) :
    ∃ c, (l.step e).compositionOf k = some c ∧ marks[number]? = some (own c) := by
  have older (found : l.state.returned[k]? = some r) :
      ∃ c, (l.step e).compositionOf k = some c ∧ marks[number]? = some (own c) := by
    obtain ⟨c, composition, mark⟩ := marked.returned k r number copy found done
    have before := (List.getElem?_eq_some_iff.mp found).1
    exact ⟨c, compositionOf_step e before.le composition, mark⟩
  rcases l.state.step_returned e with same | ⟨new, more, answer⟩
  · exact older (same ▸ found)
  · have found : (l.state.returned ++ [new])[k]? = some r := more ▸ found
    rcases Nat.lt_trichotomy k l.state.returned.length with before | last | behind
    · rw [List.getElem?_append_left before] at found
      exact older found
    · subst last
      rw [List.getElem?_concat_length] at found
      cases found
      obtain ⟨call, running, stored, -⟩ := answer _ done
      exact ⟨_, compositionOf_step e le_rfl (marked.compositionOf_waiting running),
        marked.waiting call number copy running stored⟩
    · rw [List.getElem?_eq_none (by simp; omega)] at found
      cases found

/-- A step that is not a message. -/
theorem Marked.step (marked : l.Marked own marks) {e : Event}
    (noMessage : ∀ m block, e ≠ .recv m block) (spares : l.Spares e) :
    (l.step e).Marked own marks := by
  refine ⟨step_counted l e marked.counted spares, step_recorded e marked.recorded,
    State.step_paired l.state e marked.paired (State.trusted_true _ e), ?_, ?_, ?_,
    fun k r number copy => marked.step_returned e⟩
  · exact marked.each.trans (congrArg List.length (State.step_received noMessage)).symm
  · intro call running
    rcases State.step_call noMessage running with ⟨old, before, same, nothing, -⟩ | ⟨writes, -⟩
    · rw [(step_uncomposed nothing).1, (step_uncomposed nothing).2, ← same]
      exact marked.current old before
    · rw [(step_composed writes).1, (step_composed writes).2]
      exact ⟨Nat.succ_pos _, l.written, rfl⟩
  · intro call number copy running stored
    rcases State.step_call noMessage running with ⟨old, before, -, nothing, kept⟩ | ⟨-, fresh⟩
    · rw [(step_uncomposed nothing).1]
      exact marked.waiting old number copy before (kept ▸ stored)
    · cases fresh.symm.trans stored

/-- A message comes in. If its transaction fits, its mark has to. -/
theorem Marked.recv (marked : l.Marked own marks) {m : Memory} (block : Option Memory) {mark : μ}
    (fits : ∀ call, l.state.call = some call → transactionId m = call.request.transactionId →
      mark = own (l.compositions - 1)) :
    (l.step (.recv m block)).Marked own (marks ++ [mark]) := by
  have nothing : l.state.composed (.recv m block) = none := rfl
  obtain ⟨compositions, written⟩ := step_uncomposed nothing
  have call : (l.step (.recv m block)).state.call = l.state.call := by
    simp only [Log.step, State.step, State.mbimRecvCommand]
    split <;> rfl
  have received : (l.step (.recv m block)).state.received = l.state.received ++ [m] := by
    simp only [Log.step, State.step, State.mbimRecvCommand]
    split <;> rfl
  have longer {number : Nat} {value : μ} (found : marks[number]? = some value) :
      (marks ++ [mark])[number]? = some value := by
    rw [List.getElem?_append_left (List.getElem?_eq_some_iff.mp found).1, found]
  refine ⟨step_counted l _ marked.counted (by rintro ⟨⟩), step_recorded _ marked.recorded,
    State.step_paired l.state (.recv m block) marked.paired (State.trusted_true _ _), ?_, ?_, ?_,
    ?_⟩
  · rw [received, List.length_append, List.length_append, marked.each]
    rfl
  · rw [call, compositions, written]
    exact marked.current
  · intro waiting number copy running stored
    rw [call] at running
    rw [compositions]
    simp only [Log.step, State.step, State.mbimRecvCommand] at stored
    split at stored
    next matched =>
      -- The message is stored for the call that waits.
      obtain ⟨contents, -, same⟩ := Option.map_eq_some_iff.mp stored
      cases same
      rw [State.matched, (marked.paired.waiting waiting running).request, Option.any_some,
        decide_eq_true_eq] at matched
      rw [← marked.each, List.getElem?_concat_length, fits waiting running matched.symm]
    next => exact longer (marked.waiting waiting number copy running stored)
  · intro k r number copy found done
    obtain ⟨c, composition, same⟩ := marked.step_returned _ found done
    exact ⟨c, composition, longer same⟩

end Log
end LorawanFeeds.MbimClient
