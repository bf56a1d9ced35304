import Mathlib.Data.List.Pairwise
import LorawanFeeds.Lib.Run
import LorawanFeeds.QmiClient.Client

/-!
# Responses and their calls

While a call waits, the shared request is its own request or gone, and the shared response is
a message that answers it and has come since its send. Nothing else about the shared variables
holds between two calls: a request that has timed out or could not be written stays there, and
a late response to it is stored and never looked at.
-/
namespace LorawanFeeds.QmiClient

open Lib

/-- The response that a call has returned is one of the messages received between its send and its
return, and answers its request as written. -/
def Return.Pairs (r : Return) (received : List Qmi) : Prop :=
  ∀ number msg, r.response = some (number, msg) →
    r.ret = 0 ∧ r.since ≤ number ∧ number < r.before ∧ received[number]? = some msg ∧
      msg.key = r.request.key

theorem Return.Pairs.append {r : Return} {received : List Qmi} (pairs : r.Pairs received)
    (more : List Qmi) : r.Pairs (received ++ more) := by
  intro number msg returned
  obtain ⟨ok, after, until_, found, answers⟩ := pairs number msg returned
  have bound : number < received.length := (List.getElem?_eq_some_iff.mp found).1
  exact ⟨ok, after, until_, by rw [List.getElem?_append_left bound, found], answers⟩

namespace State

/-- What holds of the calls that have returned: each is paired with its response, and they have
waited one after the other. -/
structure Logged (s : State) : Prop where
  pairs : ∀ r ∈ s.returned, r.Pairs s.received
  closed : ∀ r ∈ s.returned, r.before ≤ s.received.length
  apart : s.returned.Pairwise fun r later => r.before ≤ later.since

/-- What holds of the shared variables while a call waits. -/
structure Waiting (s : State) (call : Call) : Prop where
  since : call.since ≤ s.received.length
  later : ∀ r ∈ s.returned, r.before ≤ call.since
  request : ∀ request, s.sPRequest = some request → request = call.request
  response : ∀ number msg, s.sPResponse = some (number, msg) →
    call.since ≤ number ∧ number < s.received.length ∧ s.received[number]? = some msg ∧
      msg.key = call.request.key

structure Paired (s : State) : Prop extends s.Logged where
  waiting : ∀ call, s.call = some call → s.Waiting call

theorem finish_received (s : State) (call : Call) (ret : Int) :
    (s.finish call ret).received = s.received := by
  rw [finish]
  split
  · split <;> rfl
  · rfl

theorem finish_call (s : State) (call : Call) (ret : Int) : (s.finish call ret).call = none := by
  rw [finish]
  split
  · split <;> rfl
  · rfl

/-- What a call adds to the log: a response only if it returns zero, and then the shared one. -/
theorem finish_returned (s : State) (call : Call) (ret : Int) :
    ∃ response, (s.finish call ret).returned =
        s.returned ++ [⟨call.request, ret, response, call.since, s.received.length⟩] ∧
      ∀ answer, response = some answer → ret = 0 ∧ s.sPResponse = some answer := by
  rw [finish]
  split
  next zero =>
    split
    · exact ⟨s.sPResponse, rfl, fun answer shared => ⟨zero, shared⟩⟩
    · exact ⟨none, rfl, by simp⟩
  · exact ⟨none, rfl, by simp⟩

section

variable {s : State} {call : Call}

theorem finish_paired (logged : s.Logged) (waiting : s.Waiting call) (ret : Int) :
    (s.finish call ret).Paired := by
  obtain ⟨response, added, shared⟩ := finish_returned s call ret
  constructor
  · constructor
    · intro r member
      rw [finish_received]
      rw [added] at member
      rcases List.mem_append.mp member with old | new
      · exact logged.pairs r old
      · rw [List.mem_singleton.mp new]
        intro number msg returned
        obtain ⟨zero, stored⟩ := shared _ returned
        exact ⟨zero, waiting.response number msg stored⟩
    · intro r member
      rw [finish_received]
      rw [added] at member
      rcases List.mem_append.mp member with old | new
      · exact logged.closed r old
      · simp [List.mem_singleton.mp new]
    · rw [added, List.pairwise_append]
      refine ⟨logged.apart, List.pairwise_singleton _ _, ?_⟩
      intro r old last new
      rw [List.mem_singleton.mp new]
      exact waiting.later r old
  · intro other running
    rw [finish_call] at running
    cases running

/-- A new call: whatever was in the shared variables is replaced. -/
theorem sendQMI_paired (logged : s.Logged) (request : Qmi) (ppResponse : Bool) (msecs : UInt32)
    (device : Device) : (s.sendQMI request ppResponse msecs device).Paired := by
  rw [sendQMI]
  generalize qmiWwanSendQMI device request = sent
  have fresh : State.Waiting { s with sPRequest := some sent.2, sPResponse := none }
      ⟨sent.2, ppResponse, msecs, 0, s.received.length⟩ := by
    constructor
    · exact Nat.le_refl _
    · exact logged.closed
    · rintro _ ⟨⟩
      rfl
    · rintro _ _ ⟨⟩
  have same : State.Logged { s with sPRequest := some sent.2, sPResponse := none } :=
    ⟨logged.pairs, logged.closed, logged.apart⟩
  dsimp only
  split
  · refine ⟨⟨logged.pairs, logged.closed, logged.apart⟩, ?_⟩
    rintro _ ⟨⟩
    exact ⟨fresh.since, fresh.later, fresh.request, fresh.response⟩
  · exact finish_paired same fresh sent.1

theorem recvQMI_logged (logged : s.Logged) (msg : Qmi) (allocated : Bool) :
    (s.recvQMI msg allocated).Logged := by
  have received : (s.recvQMI msg allocated).received = s.received ++ [msg] := by
    rw [recvQMI]
    split <;> rfl
  have returned : (s.recvQMI msg allocated).returned = s.returned := by
    rw [recvQMI]
    split <;> rfl
  constructor
  · intro r member
    rw [received]
    exact (logged.pairs r (returned ▸ member)).append [msg]
  · intro r member
    have bound := logged.closed r (returned ▸ member)
    rw [received, List.length_append]
    omega
  · rw [returned]
    exact logged.apart

/-- A message is stored for the waiting call only if it answers its request. -/
theorem recvQMI_waiting (waiting : s.Waiting call) (msg : Qmi) (allocated : Bool) :
    (s.recvQMI msg allocated).Waiting call := by
  have longer : call.since ≤ (s.received ++ [msg]).length := by
    rw [List.length_append]
    exact Nat.le_add_right_of_le waiting.since
  rw [recvQMI]
  split
  next answered =>
    obtain ⟨request, shared, answers⟩ := (Option.any_eq_true _ _).mp answered
    refine ⟨longer, waiting.later, by rintro _ ⟨⟩, ?_⟩
    intro number stored same
    dsimp only at same
    split at same
    · cases same
      refine ⟨waiting.since, by simp, by simp, ?_⟩
      rw [← waiting.request request shared]
      exact ((isResponse_iff request msg).mp answers).symm
    · cases same
  next =>
    refine ⟨longer, waiting.later, waiting.request, ?_⟩
    intro number stored same
    obtain ⟨after, bound, found, answers⟩ := waiting.response number stored same
    exact ⟨after, by simp; omega, by rw [List.getElem?_append_left bound, found], answers⟩

theorem recvQMI_call (s : State) (msg : Qmi) (allocated : Bool) :
    (s.recvQMI msg allocated).call = s.call := by
  rw [recvQMI]
  split <;> rfl

theorem recvNull_paired (paired : s.Paired) : s.recvNull.Paired := by
  rw [recvNull]
  split
  · refine ⟨⟨paired.pairs, paired.closed, paired.apart⟩, ?_⟩
    intro call running
    have waiting := paired.waiting call running
    exact ⟨waiting.since, waiting.later, by rintro _ ⟨⟩, by rintro _ _ ⟨⟩⟩
  · exact paired

end

theorem step_paired (s : State) (e : Event) (paired : s.Paired) : (s.step e).Paired := by
  cases e with
  | send request ppResponse msecs device =>
    simp only [step]
    split
    · exact sendQMI_paired paired.toLogged _ ppResponse msecs device
    · exact paired
  | recv msg allocated =>
    refine ⟨recvQMI_logged paired.toLogged msg allocated, ?_⟩
    intro call running
    rw [step, recvQMI_call] at running
    exact recvQMI_waiting (paired.waiting call running) msg allocated
  | disconnect => exact recvNull_paired paired
  | wake ret =>
    simp only [step]
    split
    · exact paired
    next call running =>
      have waiting := paired.waiting call running
      split
      next more again =>
        -- Only the counter of the loop has changed.
        have same : more.since = call.since ∧ more.request = call.request := by
          rw [Call.next] at again
          split at again
          · cases again
            exact ⟨rfl, rfl⟩
          · cases again
        refine ⟨⟨paired.pairs, paired.closed, paired.apart⟩, ?_⟩
        rintro _ ⟨⟩
        constructor
        · exact same.1 ▸ waiting.since
        · exact same.1 ▸ waiting.later
        · exact same.2 ▸ waiting.request
        · rw [same.1, same.2]
          exact waiting.response
      · exact finish_paired paired.toLogged waiting ret

theorem run_paired (events : List Event) : (run step {} events).Paired := by
  apply run_invariant step Paired step_paired
  exact ⟨⟨by simp, by simp, .nil⟩, by rintro _ ⟨⟩⟩

/-- The number of the message that a call has returned. -/
def handedOut (returned : List Return) : List Nat :=
  returned.filterMap fun r => r.response.map Prod.fst

theorem Logged.handedOut_nodup {s : State} (logged : s.Logged) : (handedOut s.returned).Nodup := by
  have between {r : Return} (member : r ∈ s.returned) {number : Nat}
      (out : number ∈ r.response.map Prod.fst) : r.since ≤ number ∧ number < r.before := by
    obtain ⟨⟨_, msg⟩, returned, rfl⟩ := Option.map_eq_some_iff.mp out
    have pairs := logged.pairs r member _ msg returned
    exact ⟨pairs.2.1, pairs.2.2.1⟩
  refine (logged.apart.imp_of_mem ?_).filterMap _ fun _ _ related => related
  intro r later member laterMember disjoint number out other otherOut
  have first := between member out
  have second := between laterMember otherOut
  omega

/-- In every run, a response that a call returns has been received between its send and its return
and has the service, the client and the transaction of its request as written; no message is
handed to two calls; and what answers a request with another key is not returned. -/
theorem responses_paired (events : List Event) :
    let s := run step {} events
    (∀ r ∈ s.returned, ∀ number msg, r.response = some (number, msg) →
      r.ret = 0 ∧ r.since ≤ number ∧ number < r.before ∧ s.received[number]? = some msg ∧
        msg.qmiType = r.request.qmiType ∧ msg.clientId = r.request.clientId ∧
          msg.transaction = r.request.transaction) ∧
      (handedOut s.returned).Nodup ∧
        ∀ r ∈ s.returned, ∀ earlier ∈ s.returned, earlier.request.key ≠ r.request.key →
          ∀ number msg, r.response = some (number, msg) → ¬ isResponse earlier.request msg := by
  intro s
  have paired : s.Paired := run_paired events
  refine ⟨?_, paired.handedOut_nodup, ?_⟩
  · intro r member number msg returned
    obtain ⟨zero, after, bound, found, answers⟩ := paired.pairs r member number msg returned
    simp only [Qmi.key, Prod.mk.injEq] at answers
    exact ⟨zero, after, bound, found, answers⟩
  · intro r member earlier _ different number msg returned late
    have answers := (paired.pairs r member number msg returned).2.2.2.2
    rw [isResponse_iff] at late
    exact different (late.trans answers)

end State
end LorawanFeeds.QmiClient
