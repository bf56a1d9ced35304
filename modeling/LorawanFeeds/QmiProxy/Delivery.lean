import LorawanFeeds.QmiProxy.System

/-!
# Who receives a service message

The proxy writes a message of the modem once for each matching client id, not once for each
connection that has one.
-/
namespace LorawanFeeds.QmiProxy

open Lib

/-- The test in the inner loop over the clients of a connection. -/
def Addressed (qmi : Qmi) (client : Pair) : Prop :=
  qmi.qmiType = client.1 ∧ (qmi.clientId = 0 ∨ qmi.clientId = client.2)

instance (qmi : Qmi) : DecidablePred (Addressed qmi) := fun client =>
  inferInstanceAs (Decidable (qmi.qmiType = client.1 ∧ _))

namespace Connection

/-- The connection owns a client id that the message is for: the one it carries, or any of its
service if it carries none. -/
def Owns (con : Connection) (qmi : Qmi) : Prop :=
  if qmi.clientId = 0 then ∃ client ∈ con.clients, client.1 = qmi.qmiType
  else (qmi.qmiType, qmi.clientId) ∈ con.clients

/-- The connection holds at most one client id that the message is for: a single id of the
service for a broadcast, a single entry of the id for any other message. -/
def HoldsOne (con : Connection) (qmi : Qmi) : Prop :=
  if qmi.clientId = 0 then con.clients.countP (·.1 = qmi.qmiType) ≤ 1
  else con.clients.count (qmi.qmiType, qmi.clientId) ≤ 1

/-- The client ids of a connection that a message is for. -/
def addressees (con : Connection) (qmi : Qmi) : List Pair := con.clients.filter (Addressed qmi ·)

theorem addressed_iff_of_broadcast {qmi : Qmi} (broadcast : qmi.clientId = 0) (client : Pair) :
    Addressed qmi client ↔ client.1 = qmi.qmiType := by
  simp [Addressed, broadcast, eq_comm]

theorem addressed_iff_of_single {qmi : Qmi} (single : qmi.clientId ≠ 0) (client : Pair) :
    Addressed qmi client ↔ client = (qmi.qmiType, qmi.clientId) := by
  simp [Addressed, single, Prod.ext_iff, eq_comm]

theorem owns_iff (con : Connection) (qmi : Qmi) : con.Owns qmi ↔ con.addressees qmi ≠ [] := by
  rw [Owns, addressees]
  split_ifs with broadcast
  · simp [addressed_iff_of_broadcast broadcast]
  · simp [addressed_iff_of_single broadcast]

theorem holdsOne_iff (con : Connection) (qmi : Qmi) :
    con.HoldsOne qmi ↔ (con.addressees qmi).length ≤ 1 := by
  rw [HoldsOne, addressees, ← List.countP_eq_length_filter]
  split_ifs with broadcast
  · simp [addressed_iff_of_broadcast broadcast]
  · simp [addressed_iff_of_single broadcast, List.count_eq_countP, beq_eq_decide]

end Connection

/-- The message is written to the connections that own a client id it is for, to each of them
once, and nothing else is written. -/
structure DeliveredOnce (p : Proxy) (qmi : Qmi) : Prop where
  owners : ∀ con ∈ p.connections, con.ident ∈ receivers (p.recvQmiFromDev qmi).out ↔ con.Owns qmi
  once : (receivers (p.recvQmiFromDev qmi).out).Nodup
  only : ∀ o ∈ (p.recvQmiFromDev qmi).out, ∃ con ∈ p.connections, o = .client con.ident qmi

namespace System

section

variable {s : System} (wf : s.WellFormed) {qmi : Qmi} (service : qmi.qmiType ≠ qmuxTypeCtl)

include wf service

/-- One line is written for each client id that the message is for. -/
theorem service_out :
    (s.proxy.recvQmiFromDev qmi).out = s.proxy.connections.flatMap fun con =>
      (con.addressees qmi).map fun _ => .client con.ident qmi := by
  rw [Proxy.recvQmiFromDev, if_neg wf.server, if_neg service, Proxy.routeService, wf.idle]
  rfl

theorem service_receivers :
    receivers (s.proxy.recvQmiFromDev qmi).out =
      s.proxy.connections.flatMap fun con => (con.addressees qmi).map fun _ => con.ident := by
  rw [service_out wf service, receivers, List.filterMap_flatMap]
  simp

theorem mem_service_receivers {con : Connection} (live : con ∈ s.proxy.connections) :
    con.ident ∈ receivers (s.proxy.recvQmiFromDev qmi).out ↔ con.Owns qmi := by
  rw [service_receivers wf service, Connection.owns_iff, List.mem_flatMap]
  constructor
  · rintro ⟨other, member, received⟩
    obtain ⟨client, addressed, same⟩ := List.mem_map.mp received
    -- No two connections have the same number.
    rw [← List.inj_on_of_nodup_map wf.idents member live same]
    exact List.ne_nil_of_mem addressed
  · intro owns
    obtain ⟨client, addressed⟩ := List.exists_mem_of_ne_nil _ owns
    exact ⟨con, live, List.mem_map.mpr ⟨client, addressed, rfl⟩⟩

theorem nodup_service_receivers :
    (receivers (s.proxy.recvQmiFromDev qmi).out).Nodup ↔
      ∀ con ∈ s.proxy.connections, con.HoldsOne qmi := by
  rw [service_receivers wf service, List.nodup_flatMap]
  have each (con : Connection) :
      ((con.addressees qmi).map fun _ => con.ident).Nodup ↔ con.HoldsOne qmi := by
    rw [Connection.holdsOne_iff, List.map_const', List.nodup_replicate]
  -- What different connections receive is apart whatever they hold.
  have apart : s.proxy.connections.Pairwise (Function.onFun List.Disjoint fun con =>
      (con.addressees qmi).map fun _ => con.ident) := by
    refine (List.pairwise_map.mp wf.idents).imp fun differ => ?_
    intro ident left right
    obtain ⟨_, _, rfl⟩ := List.mem_map.mp left
    obtain ⟨_, _, same⟩ := List.mem_map.mp right
    exact differ same.symm
  simp only [each, apart, and_true]

end

/-- In every reachable state a service message is delivered once to each of its owners exactly if
no connection holds two client ids that it is for. -/
theorem service_delivered_once (serverFd : Nat) (events : List Event) (qmi : Qmi)
    (service : qmi.qmiType ≠ qmuxTypeCtl) :
    let s := run step (System.init serverFd) events
    DeliveredOnce s.proxy qmi ↔ ∀ con ∈ s.proxy.connections, con.HoldsOne qmi := by
  intro s
  have wf : s.WellFormed := run_wellFormed serverFd events
  constructor
  · intro delivered
    exact (nodup_service_receivers wf service).mp delivered.once
  · intro single
    refine ⟨fun con live => mem_service_receivers wf service live,
      (nodup_service_receivers wf service).mpr single, ?_⟩
    intro o written
    rw [service_out wf service] at written
    obtain ⟨con, live, member⟩ := List.mem_flatMap.mp written
    obtain ⟨_, _, rfl⟩ := List.mem_map.mp member
    exact ⟨con, live, rfl⟩

/-- A client that has allocated one WDS client id for each of its two stacks. -/
def dualStack : List Event :=
  [.connect 5, .client 5 (getClientIdReq 1 1), .response (clientIdRsp (1, 7)),
    .client 5 (getClientIdReq 2 1), .response (clientIdRsp (1, 8))]

/-- An indication of the WDS service, for all its clients or for one of them. -/
def wdsIndication (clientId : UInt8) : Qmi :=
  [0x01, 12, 0, 0x80, 1, clientId, 4, 0, 0, 0x22, 0, 0, 0]

/-- With both stacks connected the client receives a broadcast twice. -/
theorem dual_stack_receives_twice :
    ¬ ∀ (serverFd : Nat) (events : List Event) (qmi : Qmi), qmi.qmiType ≠ qmuxTypeCtl →
      DeliveredOnce (run step (System.init serverFd) events).proxy qmi := by
  intro delivered
  have once := (delivered 4 dualStack (wdsIndication 0) (by decide)).once
  have twice : receivers ((run step (System.init 4) dualStack).proxy.recvQmiFromDev
      (wdsIndication 0)).out = [0, 0] := by decide
  rw [twice] at once
  exact absurd once (by decide)

/-- An indication for one of the two client ids is received once. -/
theorem dual_stack_receives_own :
    DeliveredOnce (run step (System.init 4) dualStack).proxy (wdsIndication 8) := by
  refine (service_delivered_once 4 dualStack (wdsIndication 8) (by decide)).mpr ?_
  have connections : (run step (System.init 4) dualStack).proxy.connections =
      [⟨5, [(1, 7), (1, 8)], 0⟩] := by decide
  rw [connections]
  simp [Connection.HoldsOne, wdsIndication, Qmi.clientId, Qmi.qmiType, Qmi.byte]

end System
end LorawanFeeds.QmiProxy
