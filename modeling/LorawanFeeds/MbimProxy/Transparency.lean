import LorawanFeeds.MbimProxy.Routing

/-!
# Transactions and their slots

A client numbers its requests with 32 bits, and the proxy has 24 of them left beside the number of
the slot. It puts the two together without looking at the upper bits of the client's number, so a
response brings back the number only if it needs no more than 24 bits.
-/
namespace LorawanFeeds.MbimProxy

open Lib

/-- A request that the proxy does not answer itself. -/
def Message.ForDevice (request : Message) : Prop :=
  request.messageType ≠ mbimOpenMsg ∧ request.messageType ≠ mbimCloseMsg

instance (request : Message) : Decidable request.ForDevice :=
  inferInstanceAs (Decidable (_ ∧ _))

/-- A request of the client in the slot reaches the device, and a response with the number that the
device has seen goes to this client, with the number that the client has used. -/
def RoundTrip (clients : Clients) (i : Fin cmMaxClient) (tid : UInt32) : Prop :=
  ∀ request response : Message, request.ForDevice → request.transactionId = tid →
    ∃ sent, handleClientRequest clients (clients i).clientFd request = [.device sent] ∧
      (response.transactionId = sent.transactionId →
        handleDeviceResponse clients response =
          [.client (clients i).ident { response with transactionId := tid }])

/-- Requests that differ in the client or in its number differ in the number the device sees. -/
def Apart (clients : Clients) (i : Fin cmMaxClient) (tid : UInt32) (j : Fin cmMaxClient)
    (other : UInt32) : Prop :=
  (i, tid) ≠ (j, other) → ∀ request second sent written : Message,
    request.transactionId = tid → second.transactionId = other →
      .device sent ∈ handleClientRequest clients (clients i).clientFd request →
        .device written ∈ handleClientRequest clients (clients j).clientFd second →
          sent.transactionId ≠ written.transactionId

/-! ### Requests -/

theorem packTid_inj {tid other : UInt32} {i j : Fin cmMaxClient} (fits : tid.toNat < 2 ^ 24)
    (alsoFits : other.toNat < 2 ^ 24) (same : packTid tid (slotIdx i) = packTid other (slotIdx j)) :
    (i, tid) = (j, other) := by
  have slot : i = j := by
    apply slotIdx_inj
    rw [← packTid_shiftRight fits i, same, packTid_shiftRight alsoFits j]
  have number : tid = other := by
    rw [← packTid_and fits i, same, packTid_and alsoFits j]
  rw [slot, number]

/-- A response to one client leaves the proxy with a number of 24 bits. -/
theorem response_tid_lt {clients : Clients} {response msg : Message} {connection : Nat}
    (written : .client connection msg ∈ handleDeviceResponse clients response) :
    msg.transactionId.toNat < 2 ^ 24 := by
  rw [handleDeviceResponse] at written
  split at written
  next zero =>
    -- What goes to all clients has no number.
    obtain ⟨i, -, same⟩ := List.mem_map.mp written
    cases same
    rw [zero]
    decide
  next =>
    split at written
    next i found =>
      cases List.mem_singleton.mp written
      change (response.transactionId &&& tidMask).toNat < 2 ^ 24
      rw [UInt32.toNat_and]
      exact Nat.lt_of_le_of_lt Nat.and_le_right (by decide)
    next => cases written

section

variable {s : System} (wf : s.WellFormed) {i : Fin cmMaxClient} (live : 0 < (s.clients i).clientFd)

include wf live

/-- A client is found by its file descriptor. -/
theorem firstSlot_clientFd :
    firstSlot s.clients (·.clientFd = (s.clients i).clientFd) = some i := by
  apply firstSlot_eq_some
  · simp
  · intro j same
    have same : (s.clients j).clientFd = (s.clients i).clientFd := by simpa using same
    exact wf.fds j i (same ▸ live) live same

theorem handleClientRequest_forDevice {request : Message} (forDevice : request.ForDevice) :
    handleClientRequest s.clients (s.clients i).clientFd request =
      [.device { request with transactionId := packTid request.transactionId (slotIdx i) }] := by
  rw [handleClientRequest, firstSlot_clientFd wf live]
  dsimp only
  rw [if_neg (not_or.mpr forDevice), wf.index i live]

/-- What the device sees of any request of the client. -/
theorem transactionId_of_sent {request sent : Message}
    (forwarded : .device sent ∈ handleClientRequest s.clients (s.clients i).clientFd request) :
    sent.transactionId = packTid request.transactionId (slotIdx i) := by
  rw [handleClientRequest, firstSlot_clientFd wf live] at forwarded
  dsimp only at forwarded
  split at forwarded
  · cases List.mem_singleton.mp forwarded
  · cases List.mem_singleton.mp forwarded
    rw [wf.index i live]

theorem handleDeviceResponse_packTid {tid : UInt32} (fits : tid.toNat < 2 ^ 24) {response : Message}
    (answers : response.transactionId = packTid tid (slotIdx i)) :
    handleDeviceResponse s.clients response =
      [.client (s.clients i).ident { response with transactionId := tid }] := by
  rw [handleDeviceResponse, answers, if_neg (packTid_ne_zero fits i)]
  simp only [packTid_shiftRight fits, packTid_and fits, System.firstSlot_clientIdx wf live]

/-! ### Round trips -/

theorem roundTrip_iff (tid : UInt32) : RoundTrip s.clients i tid ↔ tid.toNat < 2 ^ 24 := by
  constructor
  · intro roundTrip
    -- Any request will do, with the response that carries its number.
    have forDevice : Message.ForDevice ⟨3, 12, tid, []⟩ := ⟨(by decide : (3 : UInt32) ≠ 1),
      (by decide : (3 : UInt32) ≠ 2)⟩
    obtain ⟨sent, forwarded, back⟩ := roundTrip _ ⟨0x80000003, 12, packTid tid (slotIdx i), []⟩
      forDevice rfl
    have number : sent.transactionId = packTid tid (slotIdx i) :=
      transactionId_of_sent wf live (forwarded ▸ List.mem_singleton.mpr rfl)
    have written := back number.symm
    exact response_tid_lt (written ▸ List.mem_singleton.mpr rfl)
  · rintro fits request response forDevice rfl
    refine ⟨_, handleClientRequest_forDevice wf live forDevice, ?_⟩
    exact handleDeviceResponse_packTid wf live fits

theorem apart_of_fits {j : Fin cmMaxClient} (alsoLive : 0 < (s.clients j).clientFd)
    {tid other : UInt32} (fits : tid.toNat < 2 ^ 24) (alsoFits : other.toNat < 2 ^ 24) :
    Apart s.clients i tid j other := by
  rintro different request second sent written rfl rfl first next same
  rw [transactionId_of_sent wf live first, transactionId_of_sent wf alsoLive next] at same
  exact different (packTid_inj fits alsoFits same)

end

theorem reachable_wellFormed (events : List Event) : (run System.step {} events).WellFormed :=
  run_invariant System.step System.WellFormed (fun _ e wf => System.step_wellFormed wf e) {}
    System.init_wellFormed events

/-- After every run, the numbers of two requests come back to their clients, and are told apart by
the device, exactly if both need no more than 24 bits. -/
theorem transactions_transparent_iff (events : List Event) (i j : Fin cmMaxClient)
    (live : 0 < ((run System.step {} events).clients i).clientFd)
    (alsoLive : 0 < ((run System.step {} events).clients j).clientFd) (tid other : UInt32) :
    (RoundTrip (run System.step {} events).clients i tid ∧
      RoundTrip (run System.step {} events).clients j other ∧
        Apart (run System.step {} events).clients i tid j other) ↔
      tid.toNat < 2 ^ 24 ∧ other.toNat < 2 ^ 24 := by
  have wf := reachable_wellFormed events
  rw [roundTrip_iff wf live, roundTrip_iff wf alsoLive]
  constructor
  · exact fun ⟨fits, alsoFits, _⟩ => ⟨fits, alsoFits⟩
  · exact fun ⟨fits, alsoFits⟩ => ⟨fits, alsoFits, apart_of_fits wf live alsoLive fits alsoFits⟩

/-- The same number from two clients. -/
theorem two_clients_transparent :
    let clients := (run System.step {} [.connect 5, .connect 6]).clients
    let first : Fin cmMaxClient := ⟨0, by decide⟩
    let second : Fin cmMaxClient := ⟨1, by decide⟩
    0 < (clients first).clientFd ∧ 0 < (clients second).clientFd ∧
      RoundTrip clients first 7 ∧ RoundTrip clients second 7 ∧ Apart clients first 7 second 7 := by
  intro clients first second
  have live : 0 < (clients first).clientFd := by decide +kernel
  have alsoLive : 0 < (clients second).clientFd := by decide +kernel
  exact ⟨live, alsoLive, (transactions_transparent_iff [.connect 5, .connect 6] first second live
    alsoLive 7 7).mpr ⟨by decide, by decide⟩⟩

/-- A client that counts past 24 bits: two of its requests reach the device with one number, and
the response to the later one comes back with the number of the earlier. -/
theorem long_tid_not_transparent :
    let clients := (run System.step {} [.connect 5]).clients
    let slot : Fin cmMaxClient := ⟨0, by decide⟩
    handleClientRequest clients 5 ⟨3, 12, 7, []⟩ = [.device ⟨3, 12, 0x1000007, []⟩] ∧
      handleClientRequest clients 5 ⟨3, 12, 0x1000007, []⟩ = [.device ⟨3, 12, 0x1000007, []⟩] ∧
        handleDeviceResponse clients ⟨0x80000003, 12, 0x1000007, []⟩ =
          [.client 0 ⟨0x80000003, 12, 7, []⟩] ∧
        ¬ RoundTrip clients slot 0x1000007 ∧ ¬ Apart clients slot 7 slot 0x1000007 := by
  intro clients slot
  have live : 0 < (clients slot).clientFd := by decide
  have early : handleClientRequest clients 5 ⟨3, 12, 7, []⟩ =
      [.device ⟨3, 12, 0x1000007, []⟩] := by decide
  have late : handleClientRequest clients 5 ⟨3, 12, 0x1000007, []⟩ =
      [.device ⟨3, 12, 0x1000007, []⟩] := by decide
  refine ⟨early, late, by decide, fun roundTrip => ?_, fun apart => ?_⟩
  · have fits := (roundTrip_iff (reachable_wellFormed [.connect 5]) live 0x1000007).mp roundTrip
    exact absurd fits (by decide)
  · have different : (slot, (7 : UInt32)) ≠ (slot, 0x1000007) := by decide
    exact apart different ⟨3, 12, 7, []⟩ ⟨3, 12, 0x1000007, []⟩ _ _ rfl rfl
      (early ▸ List.mem_singleton.mpr rfl) (late ▸ List.mem_singleton.mpr rfl) rfl

end LorawanFeeds.MbimProxy
