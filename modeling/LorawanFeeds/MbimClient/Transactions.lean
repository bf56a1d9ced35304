import Mathlib.Data.UInt
import LorawanFeeds.MbimClient.Client

/-!
# The transaction numbers of the requests

The functions that compose a request count the transactions, and `mbim_send_command` sets the count
back where a request has the number `2 ^ 24`: the proxy needs the upper byte of the number. As long as
no request is composed with this number that is not sent, the number of a request is told by how many
requests have been composed before it.
-/
namespace LorawanFeeds.MbimClient

open Lib

/-- How many transaction numbers there are. -/
def transactions : Nat := 2 ^ 24 - 1

namespace State

/-- The request that an event composes. -/
def composed (s : State) : Event → Option Request
  | .send messageType messageLength allocated _ _ _ =>
    if s.call.isNone ∧ allocated then some ⟨messageType, messageLength, s.transactionId⟩ else none
  | _ => none

/-- There is a device, and a thread that reads from it. -/
def Open (s : State) : Prop := 0 < s.mbimFd ∧ s.sTidReader = true

instance (s : State) : Decidable s.Open := inferInstanceAs (Decidable (_ ∧ _))

/-- The request that an event passes to `write`. -/
def writes (s : State) (e : Event) : Option Request :=
  if s.Open then (s.composed e).map fun request => (s.renumber request).1 else none

/-- The requests that have been passed to `write`: those of the calls that have returned, and the one
of the call that waits. -/
def recorded (s : State) : List Request :=
  s.returned.filterMap Return.written ++ (s.call.map Call.request).toList

end State

/-- A run, with how many requests it has composed. Each request that is written has the number of the
requests that have been composed before it. -/
structure Log where
  state : State := {}
  compositions : Nat := 0
  written : List (Nat × Request) := []

namespace Log

def step (l : Log) (e : Event) : Log where
  state := l.state.step e
  compositions := l.compositions + (l.state.composed e).toList.length
  written := l.written ++ ((l.state.writes e).map fun request => (l.compositions, request)).toList

/-- Of two requests that are written, the second one is composed later, and less than a round of the
numbers apart they have different ones. -/
structure Numbered (l : Log) : Prop where
  range : ∀ w ∈ l.written, 1 ≤ w.2.transactionId.toNat ∧ w.2.transactionId.toNat ≤ transactions
  distinct : l.written.Pairwise fun w later => w.1 < later.1 ∧
    (later.1 - w.1 < transactions → w.2.transactionId ≠ later.2.transactionId)

/-- No request is composed with the number `2 ^ 24` while there is nothing to send it to. -/
def Spares (l : Log) (e : Event) : Prop :=
  (l.state.composed e).isSome = true → l.state.transactionId = 2 ^ 24 → l.state.Open

/-- The numbers are told by the count of the requests. -/
structure Counted (l : Log) : Prop where
  counter : l.state.transactionId.toNat =
    if l.compositions = 0 then 1 else 2 + (l.compositions - 1) % transactions
  written : ∀ w ∈ l.written, w.1 < l.compositions ∧ w.2.transactionId.toNat = 1 + w.1 % transactions
  sorted : l.written.Pairwise fun w later => w.1 < later.1

end Log

/-! ### One step -/

namespace State

variable (s : State)

/-- What a send does to the count. -/
def countAfter (s : State) : UInt32 :=
  if s.Open ∧ s.transactionId = 2 ^ 24 then 2 else s.transactionId + 1

theorem transactionId_transmit (request : Request) (ppCmdDone : Bool) (msecs : UInt32) (write : Int) :
    (s.transmit request ppCmdDone msecs write).transactionId = s.transactionId := by
  rw [transmit]
  dsimp only
  split <;> rfl

theorem recorded_refuse (ret : Int) : (s.refuse ret).recorded = s.recorded := by
  simp [recorded, refuse]

/-- A call that returns stays in the record. -/
theorem recorded_finish {call : Call} (running : s.call = some call) (ret : Int) :
    (s.finish call ret).recorded = s.recorded := by
  simp [recorded, finish, running]

theorem recorded_transmit (idle : s.call = none) (request : Request) (ppCmdDone : Bool)
    (msecs : UInt32) (write : Int) :
    (s.transmit request ppCmdDone msecs write).recorded = s.recorded ++ [request] := by
  rw [transmit]
  dsimp only
  split
  · simp [recorded, idle]
  · simp [recorded, finish, idle]

variable {s}

/-- A request that is not sent is counted all the same. -/
theorem step_send_closed {messageType messageLength msecs : UInt32} {ppCmdDone : Bool} {write : Int}
    (idle : s.call = none) (closed : ¬s.Open) :
    ∃ ret, s.step (.send messageType messageLength true ppCmdDone msecs write) =
      State.refuse { s with transactionId := s.transactionId + 1 } ret := by
  simp only [step, idle, compose, if_true, mbimSendCommand]
  split
  next => exact ⟨_, rfl⟩
  next device =>
    split
    next => exact ⟨_, rfl⟩
    next reader => exact absurd ⟨Int.not_le.mp device, Decidable.not_not.mp reader⟩ closed

/-- A request that is sent has got its number before. -/
theorem step_send_open {messageType messageLength msecs : UInt32} {ppCmdDone : Bool} {write : Int}
    (idle : s.call = none) (ready : s.Open) :
    s.step (.send messageType messageLength true ppCmdDone msecs write) =
      State.transmit { s with transactionId := s.countAfter }
        (s.renumber ⟨messageType, messageLength, s.transactionId⟩).1 ppCmdDone msecs write := by
  simp only [step, idle, compose, if_true, mbimSendCommand]
  rw [if_neg (Int.not_le.mpr ready.1), if_neg (not_not_intro ready.2)]
  by_cases last : s.transactionId = 2 ^ 24
  · have same : s.transactionId = 0xFFFFFF + 1 := last
    rw [countAfter, if_pos ⟨ready, last⟩, renumber, renumber, if_pos same, if_pos same]
  · have other : ¬s.transactionId = 0xFFFFFF + 1 := last
    rw [countAfter, if_neg fun both => last both.2, renumber, renumber, if_neg other, if_neg other]

/-- Without a block, nothing is composed. -/
theorem step_send_unallocated {messageType messageLength msecs : UInt32} {ppCmdDone : Bool}
    {write : Int} (idle : s.call = none) :
    ∃ ret, s.step (.send messageType messageLength false ppCmdDone msecs write) = s.refuse ret := by
  simp only [step, idle, compose, Bool.false_eq_true, if_false, mbimSendCommand]
  split
  next => exact ⟨_, rfl⟩
  next =>
    split
    next => exact ⟨_, rfl⟩
    next => exact ⟨_, rfl⟩

/-- Only composing a request counts. -/
theorem transactionId_step (s : State) (e : Event) :
    (s.step e).transactionId = if (s.composed e).isSome then s.countAfter else s.transactionId := by
  cases e with
  | start fd =>
    simp only [step, composed]
    split <;> rfl
  | recv pResponse block =>
    simp only [step, composed, mbimRecvCommand]
    split <;> rfl
  | quit => rfl
  | update noted => rfl
  | wake ret =>
    simp only [step, composed]
    split
    next => rfl
    next => split <;> rfl
  | send messageType messageLength allocated ppCmdDone msecs write =>
    cases idle : s.call with
    | some call => simp [step, composed, idle]
    | none =>
      cases allocated with
      | false =>
        obtain ⟨ret, same⟩ := @step_send_unallocated s messageType messageLength msecs ppCmdDone write idle
        rw [same]
        simp [composed, refuse]
      | true =>
        by_cases ready : s.Open
        · rw [step_send_open idle ready, transactionId_transmit]
          simp [composed, idle]
        · obtain ⟨ret, same⟩ := @step_send_closed s messageType messageLength msecs ppCmdDone write idle ready
          rw [same]
          simp [composed, idle, refuse, countAfter, ready]

/-- What is written is recorded, in this order. -/
theorem recorded_step (s : State) (e : Event) :
    (s.step e).recorded = s.recorded ++ (s.writes e).toList := by
  cases e with
  | start fd =>
    simp only [step, writes, composed]
    split <;> simp [recorded, leave]
  | recv pResponse block =>
    simp only [step, writes, composed, mbimRecvCommand]
    split <;> simp [recorded]
  | quit => simp [step, writes, composed, recorded, leave]
  | update noted => simp [step, writes, composed, recorded]
  | wake ret =>
    have nothing : (s.writes (.wake ret)).toList = [] := by simp [writes, composed]
    rw [nothing, List.append_nil]
    simp only [step]
    split
    next => rfl
    next call running =>
      split
      next again next =>
        -- The loop of the waits keeps the request.
        have same : again.request = call.request := by
          rw [Call.next] at next
          split at next
          · cases next
            rfl
          · cases next
        simp [recorded, running, same]
      next => exact recorded_finish s running ret
  | send messageType messageLength allocated ppCmdDone msecs write =>
    cases idle : s.call with
    | some call => simp [step, writes, composed, idle]
    | none =>
      cases allocated with
      | false =>
        obtain ⟨ret, same⟩ := @step_send_unallocated s messageType messageLength msecs ppCmdDone write idle
        rw [same, recorded_refuse]
        simp [writes, composed]
      | true =>
        by_cases ready : s.Open
        · rw [step_send_open idle ready, recorded_transmit _ (by exact idle)]
          simp [writes, composed, idle, ready, recorded]
        · obtain ⟨ret, same⟩ := @step_send_closed s messageType messageLength msecs ppCmdDone write idle ready
          rw [same, recorded_refuse]
          simp [writes, ready, recorded]

end State

/-- The log has the requests that the state has recorded. -/
theorem Log.written_eq (events : List Event) :
    (run Log.step {} events).written.map Prod.snd = (run Log.step {} events).state.recorded := by
  refine run_invariant Log.step (fun l => l.written.map Prod.snd = l.state.recorded) ?_ {} rfl events
  intro l e same
  rw [Log.step, State.recorded_step, List.map_append, same]
  cases l.state.writes e <;> rfl

/-! ### A run -/

/-- The count comes to `2 ^ 24` where a round of the numbers ends. -/
theorem round_cases {count n : Nat} (counter : count = if n = 0 then 1 else 2 + (n - 1) % transactions) :
    count = 2 ^ 24 ∧ n % transactions = 0 ∨ count < 2 ^ 24 ∧ count = 1 + n % transactions := by
  rw [transactions] at *
  split at counter <;> omega

namespace Log

theorem step_counted (l : Log) (e : Event) (counted : l.Counted) (spares : l.Spares e) :
    (l.step e).Counted := by
  obtain ⟨counter, written, sorted⟩ := counted
  have turn := State.transactionId_step l.state e
  cases composed : l.state.composed e with
  | none =>
    have nothing : l.state.writes e = none := by
      rw [State.writes, composed]
      split <;> rfl
    rw [composed, Option.isSome_none, if_neg (by decide)] at turn
    have same : l.step e = { l with state := l.state.step e } := by
      rw [step, composed, nothing]
      simp
    rw [same]
    exact ⟨turn ▸ counter, written, sorted⟩
  | some request =>
    -- The request has the number to which the count has come.
    have number : request.transactionId = l.state.transactionId := by
      cases e with
      | send messageType messageLength allocated ppCmdDone msecs write =>
        rw [State.composed] at composed
        split at composed
        · cases composed
          rfl
        · cases composed
      | _ => cases composed
    rw [composed, Option.isSome_some, if_pos rfl] at turn
    have small := l.state.transactionId.toNat_lt
    have last : l.state.transactionId = 2 ^ 24 ↔ l.state.transactionId.toNat = 2 ^ 24 := by
      rw [← UInt32.toNat_inj]
      rfl
    have count : ((l.step e).state.transactionId).toNat = 2 + l.compositions % transactions := by
      change ((l.state.step e).transactionId).toNat = _
      rw [turn, State.countAfter]
      rcases round_cases counter with ⟨atEnd, zero⟩ | ⟨below, inside⟩
      · have ready := spares (by rw [composed]; rfl) (last.mpr atEnd)
        rw [if_pos ⟨ready, last.mpr atEnd⟩, zero]
        rfl
      · rw [if_neg fun both => by have := last.mp both.2; omega, UInt32.toNat_add, inside]
        change (1 + _ + 1) % 2 ^ 32 = _
        omega
    have compositions : (l.step e).compositions = l.compositions + 1 := by
      rw [step, composed]
      rfl
    refine ⟨?_, ?_, ?_⟩
    · rw [count, compositions, if_neg (Nat.succ_ne_zero _), Nat.add_sub_cancel]
    · intro w member
      rw [compositions]
      rcases List.mem_append.mp member with old | new
      · exact ⟨Nat.lt_succ_of_lt (written w old).1, (written w old).2⟩
      · rw [State.writes, composed] at new
        split at new
        next ready =>
          cases List.mem_singleton.mp new
          refine ⟨Nat.lt_succ_self _, ?_⟩
          dsimp only
          rw [State.renumber, number]
          rcases round_cases counter with ⟨atEnd, zero⟩ | ⟨below, inside⟩
          · rw [if_pos (show _ = (0xFFFFFF + 1 : UInt32) from last.mpr atEnd), zero]
            rfl
          · rw [if_neg fun same => by have := last.mp same; omega, number, inside]
        next => cases new
    · refine List.pairwise_append.mpr ⟨sorted, ?_, ?_⟩
      · cases l.state.writes e with
        | none => exact List.Pairwise.nil
        | some request => exact List.pairwise_singleton _ _
      · intro w old later new
        cases writes : l.state.writes e with
        | none =>
          rw [writes] at new
          cases new
        | some request =>
          rw [writes] at new
          cases List.mem_singleton.mp new
          exact (written w old).1

theorem Counted.numbered {l : Log} (counted : l.Counted) : l.Numbered := by
  obtain ⟨-, written, sorted⟩ := counted
  refine ⟨fun w member => ?_, ?_⟩
  · have number := (written w member).2
    have below : w.1 % transactions < transactions := Nat.mod_lt _ (by decide)
    omega
  · refine sorted.imp_of_mem fun {w later} old new before => ⟨before, fun close same => ?_⟩
    have first := (written w old).2
    have second := (written later new).2
    rw [same] at first
    rw [transactions] at *
    omega

end Log

/-- In a run that composes no request with the number `2 ^ 24` in vain, every request that is written
has a number that the proxy can do with, and less than a round of the numbers apart two requests have
different ones. -/
theorem transactions_numbered (events : List Event)
    (spares : Guarded Log.step Log.Spares {} events) : (run Log.step {} events).Numbered := by
  apply Log.Counted.numbered
  refine guarded_invariant Log.step Log.Spares Log.Counted Log.step_counted {} ?_ events spares
  exact ⟨rfl, List.forall_mem_nil _, List.Pairwise.nil⟩

/-- A request that is sent. -/
def sentRequest : Event := .send 1 16 true true 1000 16

/-! ### Requests in vain -/

/-- While there is no device, every request counts, and none is written. -/
theorem run_refused (n : Nat) :
    ∃ l : Log, run Log.step {} (List.replicate n sentRequest) = l ∧ l.state.call = none ∧
      l.state.mbimFd = -1 ∧ l.state.transactionId = UInt32.ofNat (n + 1) ∧ l.written = [] := by
  induction n with
  | zero => exact ⟨{}, rfl, rfl, rfl, rfl, rfl⟩
  | succ n ih =>
    obtain ⟨l, same, idle, device, count, written⟩ := ih
    refine ⟨l.step sentRequest, ?_, ?_⟩
    · rw [List.replicate_succ', run_append, same]
      rfl
    · have closed : ¬l.state.Open := fun ready => by
        have positive := ready.1
        omega
      obtain ⟨ret, refused⟩ := @State.step_send_closed l.state 1 16 1000 true 16 idle closed
      have next : (l.step sentRequest).state = _ := refused
      rw [next]
      refine ⟨idle, device, ?_, ?_⟩
      · change l.state.transactionId + 1 = _
        rw [count, UInt32.ofNat_add (n + 1) 1]
        rfl
      · rw [Log.step, State.writes, if_neg closed, written]
        rfl

/-- Fewer than `2 ^ 24` of them do no harm. -/
theorem guarded_refused {n : Nat} (few : n < 2 ^ 24) :
    Guarded Log.step Log.Spares {} (List.replicate n sentRequest) := by
  induction n with
  | zero => trivial
  | succ n ih =>
    rw [List.replicate_succ', guarded_append]
    refine ⟨ih (Nat.lt_of_succ_lt few), fun _ last => ?_, trivial⟩
    obtain ⟨l, same, -, -, count, -⟩ := run_refused n
    rw [same, count] at last
    have number := congrArg UInt32.toNat last
    rw [UInt32.toNat_ofNat_of_lt' (by rw [UInt32.size]; omega)] at number
    change n + 1 = 2 ^ 24 at number
    omega

/-- The requests with all the numbers below `2 ^ 24` are composed without a device, and the next one
with it; after its wait another one is sent. -/
def wrappedRun : List Event :=
  List.replicate (2 ^ 24 - 1) sentRequest ++ [.start 3, sentRequest, .wake 0, sentRequest]

/-- The numbers start again from 1. -/
theorem transactions_numbered_wrapped :
    Guarded Log.step Log.Spares {} wrappedRun ∧ (run Log.step {} wrappedRun).Numbered ∧
      (run Log.step {} wrappedRun).written.map (fun w => w.2.transactionId) = [1, 2] := by
  obtain ⟨l, same, idle, -, count, written⟩ := run_refused (2 ^ 24 - 1)
  have last : l.state.transactionId = 2 ^ 24 := count
  let opened := l.step (.start 3)
  let first := opened.step sentRequest
  let second := first.step (.wake 0)
  have ready : opened.state.Open := ⟨(by decide : (0 : Int) < 3), rfl⟩
  -- The request with the number `2 ^ 24` is sent with the number 1, and the count goes on from 2.
  have sent := @State.step_send_open opened.state 1 16 1000 true 16 idle ready
  rw [show opened.state.countAfter = 2 from if_pos ⟨ready, last⟩, State.renumber,
    if_pos (show opened.state.transactionId = 0xFFFFFF + 1 from last), State.transmit,
    if_pos (show (0 : Int) < 16 ∧ (16 : Int) = (16 : UInt32).toNat by decide)] at sent
  have woken : second.state = (opened.state.step sentRequest).step (.wake 0) := rfl
  rw [sentRequest, sent] at woken
  have ready' : second.state.Open := by
    rw [woken]
    exact ready
  have spares : Guarded Log.step Log.Spares {} wrappedRun := by
    rw [wrappedRun, guarded_append, same]
    exact ⟨guarded_refused (by decide), fun composed => (by cases composed), fun _ _ => ready,
      fun composed => (by cases composed), fun _ _ => ready', trivial⟩
  have one : opened.state.writes sentRequest = some ⟨1, 16, 1⟩ := by
    have composed : opened.state.composed sentRequest = some ⟨1, 16, 2 ^ 24⟩ := by
      rw [sentRequest, State.composed, if_pos ⟨by rw [show opened.state.call = none from idle]; rfl, rfl⟩,
        show opened.state.transactionId = 2 ^ 24 from last]
    rw [State.writes, if_pos ready, composed]
    rfl
  have two : second.state.writes sentRequest = some ⟨1, 16, 2⟩ := by
    rw [State.writes, if_pos ready', woken]
    rfl
  have silent {e : Event} {l : Log} (nothing : l.state.composed e = none) :
      (l.step e).written = l.written := by
    simp [Log.step, State.writes, nothing]
  have opens : opened.written = [] := (silent rfl).trans written
  have sends : first.written = [(opened.compositions, ⟨1, 16, 1⟩)] := by
    rw [show first = opened.step sentRequest from rfl, Log.step, one, opens]
    rfl
  have wakes : second.written = [(opened.compositions, ⟨1, 16, 1⟩)] := (silent rfl).trans sends
  refine ⟨spares, transactions_numbered wrappedRun spares, ?_⟩
  rw [wrappedRun, run_append, same, show run Log.step l _ = second.step sentRequest from rfl, Log.step,
    two, wakes]
  rfl

/-- After `2 ^ 24` requests without a device the counter is beyond the number that is looked for, and
the next request has too great a number. -/
theorem transactions_not_numbered : ¬∀ events : List Event, (run Log.step {} events).Numbered := by
  intro numbered
  obtain ⟨l, same, idle, device, count, -⟩ := run_refused (2 ^ 24)
  have range := (numbered (List.replicate (2 ^ 24) sentRequest ++ [.start 3, sentRequest])).range
  have opened : run Log.step {} (List.replicate (2 ^ 24) sentRequest ++ [.start 3, sentRequest]) =
      (l.step (.start 3)).step sentRequest := by
    rw [run_append, same]
    rfl
  have written : (l.step (.start 3)).state.writes sentRequest =
      some ⟨1, 16, UInt32.ofNat (2 ^ 24 + 1)⟩ := by
    have ready : (l.step (.start 3)).state = { l.state with
        mbimFd := 3, sTidReader := true, toMain := l.state.toMain ++ [.deviceConnected] } := rfl
    rw [ready, State.writes, if_pos (show State.Open _ from ⟨(by decide : (0 : Int) < 3), rfl⟩), sentRequest,
      State.composed, idle, count]
    rfl
  have member : ((l.step (.start 3)).compositions, (⟨1, 16, UInt32.ofNat (2 ^ 24 + 1)⟩ : Request)) ∈
      ((l.step (.start 3)).step sentRequest).written := by
    rw [Log.step, written]
    exact List.mem_append_right _ (.head _)
  rw [opened] at range
  have most : (UInt32.ofNat (2 ^ 24 + 1)).toNat ≤ transactions := (range _ member).2
  exact absurd most (by decide)

end LorawanFeeds.MbimClient
