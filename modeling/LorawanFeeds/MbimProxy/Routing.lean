import Mathlib.Data.Fintype.Basic
import LorawanFeeds.Lib.Run
import LorawanFeeds.MbimProxy.Proxy

/-!
# Responses and slots

The device answers each request with the transaction it has received, in any order. The proxy
knows of a response only the slot of the request. This is the connection that sent it as long
as no other has been put into the slot while the request was in flight.
-/
namespace LorawanFeeds.MbimProxy

open Lib

/-! ### The proxy, its clients and the device -/

/-- A request as its client has sent it. -/
structure Request where
  connection : Nat
  number : Nat
  transactionId : UInt32
  deriving DecidableEq, Repr

/-- A message that the device has received and not answered, and the request that it is. -/
structure InFlight where
  msg : Message
  request : Request
  deriving DecidableEq, Repr

/-- An answered request, whether its connection was there then, and which connections have received
the response, with which transaction. -/
structure Answered where
  request : Request
  live : Bool
  deliveries : List (Nat × UInt32)
  deriving DecidableEq, Repr

structure System where
  clients : Clients := fun _ => {}
  inFlight : List InFlight := []
  nextConnection : Nat := 0
  nextRequest : Nat := 0
  answered : List Answered := []

inductive Event where
  | connect (clientFd : Int)
  | disconnect (clientFd : Int)
  | request (clientFd : Int) (msg : Message)
  /-- The device answers one of its requests; the transaction of the message is replaced. -/
  | response (index : Nat) (msg : Message)
  deriving DecidableEq, Repr

/-- The response has gone to the connection of the request, with its transaction, or to nobody if
it was gone. -/
def Answered.Right (answered : Answered) : Prop :=
  answered.deliveries = if answered.live then
    [(answered.request.connection, answered.request.transactionId)] else []

/-- The transactions of requests leave the upper eight bits free, and are not zero. -/
def Event.InRange : Event → Prop
  | .request _ msg => 1 ≤ msg.transactionId.toNat ∧ msg.transactionId.toNat < 2 ^ 24
  | _ => True

instance : ∀ e : Event, Decidable e.InRange
  | .request _ msg => inferInstanceAs
      (Decidable (1 ≤ msg.transactionId.toNat ∧ msg.transactionId.toNat < 2 ^ 24))
  | .connect _ | .disconnect _ | .response _ _ => inferInstanceAs (Decidable True)

/-- The messages written to the device. -/
def forwarded (out : List Output) : List Message :=
  out.filterMap fun
    | .device msg => some msg
    | .client _ _ => none

/-- The connections written to, with the transaction of the message. -/
def delivered (out : List Output) : List (Nat × UInt32) :=
  out.filterMap fun
    | .device _ => none
    | .client connection msg => some (connection, msg.transactionId)

namespace System

/-- The connection is in a slot. -/
def Live (s : System) (connection : Nat) : Prop :=
  ∃ i, 0 < (s.clients i).clientFd ∧ (s.clients i).ident = connection

instance (s : System) (connection : Nat) : Decidable (s.Live connection) := by
  unfold Live
  infer_instance

/-- The file descriptor is that of a connection. -/
def InUse (s : System) (fd : Int) : Prop := 0 < fd ∧ ∃ i, (s.clients i).clientFd = fd

instance (s : System) (fd : Int) : Decidable (s.InUse fd) := by
  unfold InUse
  infer_instance

/-- The device answers a request. -/
def respond (s : System) (index : Nat) (entry : InFlight) (msg : Message) : System :=
  { s with
    inFlight := s.inFlight.eraseIdx index
    answered := s.answered ++ [{
      request := entry.request
      live := s.Live entry.request.connection
      deliveries := delivered (handleDeviceResponse s.clients
        { msg with transactionId := entry.msg.transactionId }) }] }

/-- A client's message. The loop of the proxy reads only from the connections in the slots. -/
def request (s : System) (fd : Int) (msg : Message) : System :=
  match firstSlot s.clients (·.clientFd = fd) with
  | none => s
  | some i =>
    { s with
      inFlight := s.inFlight ++ (forwarded (handleClientRequest s.clients fd msg)).map
        fun written => ⟨written, (s.clients i).ident, s.nextRequest, msg.transactionId⟩
      nextRequest := s.nextRequest + 1 }

def step (s : System) : Event → System
  | .connect fd =>
    if s.InUse fd then s
    else { s with
      clients := handleClientConnect s.clients fd s.nextConnection
      nextConnection := s.nextConnection + 1 }
  | .disconnect fd => { s with clients := handleClientDisconnect s.clients fd }
  | .request fd msg => if 0 < fd then s.request fd msg else s
  | .response index msg =>
    match s.inFlight[index]? with
    | none => s
    | some entry => s.respond index entry msg

/-! ### The invariant -/

/-- No two connections have the same value. -/
def Distinct {α : Type} (clients : Clients) (f : Client → α) : Prop :=
  ∀ i j, 0 < (clients i).clientFd → 0 < (clients j).clientFd → f (clients i) = f (clients j) → i = j

/-- What holds of the slots in every run. -/
structure WellFormed (s : System) : Prop where
  index : ∀ i, 0 < (s.clients i).clientFd → (s.clients i).clientIdx = slotIdx i
  fds : Distinct s.clients Client.clientFd
  idents : Distinct s.clients Client.ident
  numbered : ∀ i, 0 < (s.clients i).clientFd → (s.clients i).ident < s.nextConnection

/-- The transaction of the message names a slot, which only the connection of the request can
be in. -/
def Tagged (s : System) (entry : InFlight) : Prop :=
  entry.request.transactionId.toNat < 2 ^ 24 ∧ entry.request.connection < s.nextConnection ∧
    ∃ i, entry.msg.transactionId = packTid entry.request.transactionId (slotIdx i) ∧
      ∀ j, 0 < (s.clients j).clientFd →
        (j = i ↔ (s.clients j).ident = entry.request.connection)

structure Routed (s : System) : Prop where
  tagged : ∀ entry ∈ s.inFlight, s.Tagged entry
  right : ∀ answered ∈ s.answered, answered.Right

/-- A connection that has been accepted is not put into a slot that a request in flight names. -/
def SlotFree (s : System) : Event → Prop
  | .connect fd => 0 < fd → ¬ s.InUse fd → ∀ i ∈ firstSlot s.clients (·.clientFd ≤ 0),
      ∀ entry ∈ s.inFlight, entry.msg.transactionId >>> tidShift ≠ slotIdx i
  | _ => True

instance (s : System) : ∀ e, Decidable (s.SlotFree e)
  | .connect fd => inferInstanceAs (Decidable (0 < fd → ¬ s.InUse fd →
      ∀ i ∈ firstSlot s.clients (·.clientFd ≤ 0),
        ∀ entry ∈ s.inFlight, entry.msg.transactionId >>> tidShift ≠ slotIdx i))
  | .disconnect _ | .request _ _ | .response _ _ => inferInstanceAs (Decidable True)

/-! ### Slots -/

/-- A new connection is in one slot that was free, or in none. -/
theorem connect_clients (clients : Clients) (fd : Int) (ident : Nat) :
    handleClientConnect clients fd ident = clients ∨
      ∃ i, firstSlot clients (·.clientFd ≤ 0) = some i ∧
        handleClientConnect clients fd ident =
          Function.update clients i ⟨fd, slotIdx i, ident⟩ := by
  rw [handleClientConnect]
  split
  · exact .inl rfl
  · split
    next i found => exact .inr ⟨i, found, rfl⟩
    · exact .inl rfl

/-- Closing a connection leaves the others in their slots. -/
theorem disconnect_clients {clients : Clients} {fd : Int} {i : Fin cmMaxClient}
    (live : 0 < (handleClientDisconnect clients fd i).clientFd) :
    handleClientDisconnect clients fd i = clients i := by
  unfold handleClientDisconnect at *
  cases found : firstSlot clients (·.clientFd = fd) with
  | none => rfl
  | some j =>
    rw [found] at live
    dsimp only at live ⊢
    by_cases same : i = j
    · subst same
      rw [Function.update_self] at live ⊢
      -- A connection that is still there has not been closed.
      unfold safeClose at *
      split_ifs at live ⊢
      · cases live
      · rfl
    · rw [Function.update_of_ne same]

theorem Distinct.update {α : Type} {clients : Clients} {f : Client → α}
    (distinct : Distinct clients f) (i : Fin cmMaxClient) {new : Client}
    (fresh : 0 < new.clientFd → ∀ j, 0 < (clients j).clientFd → f (clients j) ≠ f new) :
    Distinct (Function.update clients i new) f := by
  intro j k liveFirst liveSecond same
  by_cases first : j = i <;> by_cases second : k = i
  · rw [first, second]
  · subst first
    rw [Function.update_self] at liveFirst same
    rw [Function.update_of_ne second] at liveSecond same
    exact absurd same.symm (fresh liveFirst k liveSecond)
  · subst second
    rw [Function.update_self] at liveSecond same
    rw [Function.update_of_ne first] at liveFirst same
    exact absurd same (fresh liveSecond j liveFirst)
  · rw [Function.update_of_ne first] at liveFirst same
    rw [Function.update_of_ne second] at liveSecond same
    exact distinct j k liveFirst liveSecond same

section

variable {s : System} (wf : s.WellFormed)

include wf

theorem connect_wellFormed (fd : Int) : (s.step (.connect fd)).WellFormed := by
  rw [step]
  split
  · exact wf
  next free =>
    have older : ∀ i, 0 < (s.clients i).clientFd → (s.clients i).ident < s.nextConnection + 1 :=
      fun i live => Nat.lt_succ_of_lt (wf.numbered i live)
    -- All slots are taken, or one is filled in.
    rcases connect_clients s.clients fd s.nextConnection with same | ⟨i, _, taken⟩
    · rw [same]
      exact ⟨wf.index, wf.fds, wf.idents, older⟩
    · rw [taken]
      refine ⟨fun j live => ?_, wf.fds.update i fun positive j _ same => ?_,
        wf.idents.update i fun _ j live => Nat.ne_of_lt (wf.numbered j live), fun j live => ?_⟩
      · by_cases new : j = i
        · subst new
          simp
        · simp only [Function.update_of_ne new] at live ⊢
          exact wf.index j live
      · exact free ⟨positive, j, same⟩
      · by_cases new : j = i
        · subst new
          simp
        · simp only [Function.update_of_ne new] at live ⊢
          exact older j live

theorem disconnect_wellFormed (fd : Int) : (s.step (.disconnect fd)).WellFormed := by
  have kept {i : Fin cmMaxClient} (live : 0 < (handleClientDisconnect s.clients fd i).clientFd) :=
    disconnect_clients live
  have distinct {α : Type} {f : Client → α} (before : Distinct s.clients f) :
      Distinct (handleClientDisconnect s.clients fd) f := by
    intro i j liveFirst liveSecond same
    have first := kept liveFirst
    have second := kept liveSecond
    rw [first] at liveFirst same
    rw [second] at liveSecond same
    exact before i j liveFirst liveSecond same
  refine ⟨fun i live => ?_, distinct wf.fds, distinct wf.idents, fun i live => ?_⟩
  · have same := kept live
    simp only [step, same] at live ⊢
    exact wf.index i live
  · have same := kept live
    simp only [step, same] at live ⊢
    exact wf.numbered i live

theorem step_wellFormed (e : Event) : (s.step e).WellFormed := by
  cases e with
  | connect fd => exact connect_wellFormed wf fd
  | disconnect fd => exact disconnect_wellFormed wf fd
  | request fd msg =>
    simp only [step, request]
    split
    · split
      · exact wf
      · exact ⟨wf.index, wf.fds, wf.idents, wf.numbered⟩
    · exact wf
  | response index msg =>
    rw [step]
    split
    · exact wf
    · exact ⟨wf.index, wf.fds, wf.idents, wf.numbered⟩

/-! ### Requests in flight -/

omit wf in
theorem connect_tagged {fd : Int} (free : s.SlotFree (.connect fd)) {entry : InFlight}
    (member : entry ∈ s.inFlight) (tagged : s.Tagged entry) :
    (s.step (.connect fd)).Tagged entry := by
  rw [step]
  split
  · exact tagged
  next unused =>
    obtain ⟨fits, older, i, tid, owner⟩ := tagged
    refine ⟨fits, Nat.lt_succ_of_lt older, i, tid, ?_⟩
    rcases connect_clients s.clients fd s.nextConnection with same | ⟨k, found, taken⟩
    · rw [same]
      exact owner
    · rw [taken]
      intro j live
      by_cases new : j = k
      · subst new
        simp only [Function.update_self] at live ⊢
        -- The slot that a request in flight names is not the one taken.
        have other : j ≠ i := fun same => by
          refine free live unused j found entry member ?_
          rw [tid, packTid_shiftRight fits, same]
        exact iff_of_false other (Nat.ne_of_gt older)
      · simp only [Function.update_of_ne new] at live ⊢
        exact owner j live

omit wf in
theorem disconnect_tagged (fd : Int) {entry : InFlight} (tagged : s.Tagged entry) :
    (s.step (.disconnect fd)).Tagged entry := by
  obtain ⟨fits, older, i, tid, owner⟩ := tagged
  refine ⟨fits, older, i, tid, fun j live => ?_⟩
  have same := disconnect_clients live
  simp only [step, same] at live ⊢
  exact owner j live

theorem request_tagged {fd : Int} (positive : 0 < fd) {msg : Message}
    (inRange : Event.InRange (.request fd msg)) {i : Fin cmMaxClient}
    (found : firstSlot s.clients (·.clientFd = fd) = some i) {written : Message}
    (member : written ∈ forwarded (handleClientRequest s.clients fd msg)) :
    s.Tagged ⟨written, (s.clients i).ident, s.nextRequest, msg.transactionId⟩ := by
  have isFd : (s.clients i).clientFd = fd := by simpa using of_firstSlot found
  have live : 0 < (s.clients i).clientFd := isFd ▸ positive
  refine ⟨inRange.2, wf.numbered i live, i, ?_, fun j alive => ?_⟩
  · simp only [handleClientRequest, found] at member
    split at member
    · simp [forwarded] at member
    · simp only [forwarded, List.filterMap_cons, List.filterMap_nil, List.mem_singleton] at member
      rw [member, wf.index i live]
  · exact ⟨fun same => by rw [same], wf.idents j i alive live⟩

/-! ### Responses -/

/-- A connection is found by the index of its slot. -/
theorem firstSlot_clientIdx {i : Fin cmMaxClient} (live : 0 < (s.clients i).clientFd) :
    firstSlot s.clients (fun client => client.clientIdx = slotIdx i ∧ 0 < client.clientFd) =
      some i := by
  apply firstSlot_eq_some
  · simp [wf.index i live, live]
  · intro j both
    have both : (s.clients j).clientIdx = slotIdx i ∧ 0 < (s.clients j).clientFd := by
      simpa using both
    rw [wf.index j both.2] at both
    exact slotIdx_inj both.1

/-- A response goes to the connection that its request came from, if it is still there. -/
theorem deliveries_eq {entry : InFlight} (tagged : s.Tagged entry) (msg : Message) :
    delivered (handleDeviceResponse s.clients
      { msg with transactionId := entry.msg.transactionId }) =
        if s.Live entry.request.connection then
          [(entry.request.connection, entry.request.transactionId)] else [] := by
  obtain ⟨fits, _, i, tid, owner⟩ := tagged
  rw [handleDeviceResponse, tid, if_neg (packTid_ne_zero fits i)]
  simp only [packTid_shiftRight fits, packTid_and fits]
  -- The slot is still that of the connection, or nobody's.
  by_cases live : 0 < (s.clients i).clientFd
  · have mine : (s.clients i).ident = entry.request.connection := (owner i live).mp rfl
    rw [firstSlot_clientIdx wf live, if_pos ⟨i, live, mine⟩, ← mine]
    rfl
  · -- The connection can be in no other slot.
    have gone : ¬ s.Live entry.request.connection := fun ⟨j, alive, same⟩ =>
      live ((owner j alive).mpr same ▸ alive)
    have nobody : firstSlot s.clients (fun client =>
        client.clientIdx = slotIdx i ∧ 0 < client.clientFd) = none := by
      apply firstSlot_eq_none.mpr
      intro j both
      have both : (s.clients j).clientIdx = slotIdx i ∧ 0 < (s.clients j).clientFd := by
        simpa using both
      rw [wf.index j both.2] at both
      exact live (slotIdx_inj both.1 ▸ both.2)
    rw [nobody, if_neg gone]
    rfl

theorem step_routed (routed : s.Routed) {e : Event} (inRange : e.InRange) (free : s.SlotFree e) :
    (s.step e).Routed := by
  cases e with
  | connect fd =>
    have tagged := fun entry member => connect_tagged free member (routed.tagged entry member)
    by_cases inUse : s.InUse fd
    · simpa only [step, if_pos inUse] using routed
    · simp only [step, if_neg inUse] at tagged ⊢
      exact ⟨tagged, routed.right⟩
  | disconnect fd =>
    exact ⟨fun entry member => disconnect_tagged fd (routed.tagged entry member), routed.right⟩
  | request fd msg =>
    rw [step]
    split
    next positive =>
      cases found : firstSlot s.clients (·.clientFd = fd) with
      | none => simpa only [request, found] using routed
      | some i =>
        simp only [request, found]
        constructor
        · intro entry member
          rcases List.mem_append.mp member with old | new
          · exact routed.tagged entry old
          · obtain ⟨written, sent, rfl⟩ := List.mem_map.mp new
            exact request_tagged wf positive inRange found sent
        · exact routed.right
    · exact routed
  | response index msg =>
    rw [step]
    split
    · exact routed
    next entry found =>
      have member := List.mem_of_getElem? found
      constructor
      · intro other left
        exact routed.tagged other (List.mem_of_mem_eraseIdx left)
      · intro answered logged
        rcases List.mem_append.mp logged with old | new
        · exact routed.right answered old
        · rw [List.mem_singleton.mp new, Answered.Right]
          dsimp only
          rw [deliveries_eq wf (routed.tagged entry member)]
          simp

end

theorem init_wellFormed : ({} : System).WellFormed where
  index _ live := by cases live
  fds _ _ live := by cases live
  idents _ _ live := by cases live
  numbered _ live := by cases live

theorem init_routed : ({} : System).Routed where
  tagged _ member := by cases member
  right _ member := by cases member

/-- On every schedule that puts no connection into a slot while a request of the one before it is
in flight, every response goes to the connection that sent the request, with its transaction,
and to nobody if it is gone. -/
theorem responses_reach_requesters (events : List Event) (inRange : ∀ e ∈ events, e.InRange)
    (guarded : Guarded step SlotFree {} events) :
    ∀ answered ∈ (run step {} events).answered, answered.Right := by
  have both := guarded_invariant step _ (fun s => s.WellFormed ∧ s.Routed)
    (fun s e holds allowed =>
      ⟨step_wellFormed holds.1 e, step_routed holds.1 holds.2 allowed.1 allowed.2⟩)
    _ ⟨init_wellFormed, init_routed⟩ events (guarded.and_forall _ _ inRange)
  exact both.2.right

/-- The same transaction from two clients, answered in the other order; the first client is gone. -/
theorem responses_out_of_order :
    let query : Message := ⟨3, 16, 7, []⟩
    let events : List Event := [.connect 5, .connect 6, .request 5 query, .request 6 query,
      .disconnect 5, .response 1 query, .response 0 query]
    (∀ e ∈ events, e.InRange) ∧ Guarded step SlotFree {} events ∧
      (run step {} events).answered = [⟨⟨1, 1, 7⟩, true, [(1, 7)]⟩, ⟨⟨0, 0, 7⟩, false, []⟩] ∧
        ∀ answered ∈ (run step {} events).answered, answered.Right := by
  intro query events
  have inRange : ∀ e ∈ events, e.InRange := by decide
  have guarded : Guarded step SlotFree {} events := by decide
  exact ⟨inRange, guarded, by decide, responses_reach_requesters events inRange guarded⟩

/-- The next connection in the slot receives the response to a request of the one before it. -/
theorem response_to_next_in_slot :
    let query : Message := ⟨3, 16, 7, []⟩
    let events : List Event := [.connect 5, .request 5 query, .disconnect 5, .connect 6,
      .response 0 query]
    (∀ e ∈ events, e.InRange) ∧
      (run step {} events).answered = [⟨⟨0, 0, 7⟩, false, [(1, 7)]⟩] ∧
        ¬ ∀ answered ∈ (run step {} events).answered, answered.Right := by
  intro query events
  have answered : (run step {} events).answered = [⟨⟨0, 0, 7⟩, false, [(1, 7)]⟩] := by
    decide +kernel
  refine ⟨by decide, answered, fun right => ?_⟩
  have first := right ⟨⟨0, 0, 7⟩, false, [(1, 7)]⟩ (by rw [answered]; exact .head _)
  simp [Answered.Right] at first

end System
end LorawanFeeds.MbimProxy
