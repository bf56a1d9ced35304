import LorawanFeeds.QrtrProxy.Ids

/-!
# The way back through the QRTR proxy

A client's message leaves the proxy from the port that goes with its client id, and what the modem
sends to that port goes back to the client. In between other clients come and go, and take and give
back ports of their own.
-/
namespace LorawanFeeds.QrtrProxy

open Lib QmiProxy

/-- A packet of the type `QRTR_TYPE_DATA`, by what `recv_qrtr_from_dev` reads of it. It has been
read in one piece, of at most 8192 bytes with the header. -/
structure DataPkt where
  srcNodeId : UInt32
  srcPortId : UInt32
  dstNodeId : UInt32
  dstPortId : UInt32
  confirmRx : Bool
  body : List UInt8
  fits : body.length + 32 ≤ 8192

/-- The packet of the type `QRTR_TYPE_RESUME_TX`, by its sender and where it is sent. -/
structure ResumeTx where
  fromNode : UInt32
  fromPort : UInt32
  toNode : UInt32
  toPort : UInt32
  deriving DecidableEq, Repr

/-- The QMI message with the header of a client, whose `Length` does not count the first byte. -/
def qmiFrame (qmiType clientId : UInt8) (body : List UInt8) : Qmi :=
  let length := body.length + 6 - 1
  [1, length.toUInt8, (length / 256).toUInt8, 0, qmiType, clientId] ++ body

/-- `send_qmi_to_client` writes as many bytes as the header says. -/
def sendQmiToClient (qmi : Qmi) : List UInt8 := qmi.take (qmi.hdrLength + 1)

/-- The loops over the connections and their clients in `recv_qrtr_from_dev`: what is written, and
to which file descriptor. -/
def Proxy.deliver (p : Proxy) (pkt : DataPkt) : List (Int × List UInt8) :=
  p.connections.flatMap fun con =>
    (con.clients.filter fun client =>
      client.nodeId = pkt.dstNodeId ∧ client.portId = pkt.dstPortId.toNat).map fun client =>
        (con.clientFd, sendQmiToClient (qmiFrame client.qmiType client.clientId pkt.body))

/-- What is sent to the modem for the packet, whether it is delivered or not. -/
def DataPkt.resume (pkt : DataPkt) : Option ResumeTx :=
  if pkt.confirmRx then some ⟨pkt.dstNodeId, pkt.dstPortId, pkt.srcNodeId, pkt.srcPortId⟩ else none

/-- The proxy, with what it has written to its clients and the packets `QRTR_TYPE_RESUME_TX`. -/
structure Relay where
  proxy : Proxy
  delivered : List (Int × List UInt8) := []
  resumed : List ResumeTx := []

inductive RelayEvent where
  | proxy (e : Event)
  | data (pkt : DataPkt)

def Relay.step (r : Relay) : RelayEvent → Relay
  | .proxy e => { r with proxy := r.proxy.step e }
  | .data pkt => { r with
      delivered := r.delivered ++ r.proxy.deliver pkt
      resumed := r.resumed ++ pkt.resume.toList }

namespace Proxy

/-! ### A client stays -/

/-- A connection with this file descriptor has the client. -/
def Holds (p : Proxy) (fd : Int) (client : Client) : Prop :=
  ∃ con ∈ p.connections, con.clientFd = fd ∧ client ∈ con.clients

/-- The client is given back, or its connection ends. -/
def GivesUp (fd : Int) (client : Client) : Event → Prop
  | .disconnect other => other = fd
  | .client other qmi => other = fd ∧ qmi.qmiType = qmuxTypeCtl ∧
      qmi.qmictlType = qmictlReleaseClientId ∧ requestPair qmi = (client.qmiType, client.clientId)
  | _ => False

instance (fd : Int) (client : Client) : DecidablePred (GivesUp fd client)
  | .disconnect other => inferInstanceAs (Decidable (other = fd))
  | .client _ _ => inferInstanceAs (Decidable (_ ∧ _ ∧ _ ∧ _))
  | .connect _ | .server _ => inferInstanceAs (Decidable False)

theorem holds_of_connections {p p' : Proxy} {fd : Int} {client : Client}
    (holds : p.Holds fd client) (same : p'.connections = p.connections) : p'.Holds fd client := by
  rw [Holds, same]
  exact holds

/-- A change to the first connection of a file descriptor leaves the client in its own. -/
theorem holds_updateFirst {p p' : Proxy} {fd other : Int} {client : Client}
    (holds : p.Holds fd client) {f : Connection → Connection}
    (same : ∀ con, (f con).clientFd = con.clientFd)
    (keeps : ∀ con ∈ p.connections, con.clientFd = other → other = fd → client ∈ con.clients →
      client ∈ (f con).clients)
    (updated : p'.connections = updateFirst other f p.connections) : p'.Holds fd client := by
  obtain ⟨con, member, own, has⟩ := holds
  rw [Holds, updated]
  generalize p.connections = connections at member keeps
  induction connections with
  | nil => cases member
  | cons first rest ih =>
    rw [updateFirst]
    split
    next found =>
      rcases List.mem_cons.mp member with rfl | behind
      · exact ⟨f con, .head _, by rw [same, own],
          keeps con (.head _) found (found.symm.trans own) has⟩
      · exact ⟨con, .tail _ behind, own, has⟩
    · rcases List.mem_cons.mp member with rfl | behind
      · exact ⟨con, .head _, own, has⟩
      · obtain ⟨con', member', held⟩ := ih behind fun con member => keeps con (.tail _ member)
        exact ⟨con', .tail _ member', held⟩

theorem holds_dropClient {p : Proxy} {fd other : Int} {client gone : Client}
    (holds : p.Holds fd client) (different : other = fd → client ≠ gone) :
    (p.dropClient other gone).Holds fd client :=
  holds_updateFirst (f := fun con => { con with clients := con.clients.erase gone }) holds
    (fun _ => rfl) (fun _ _ _ same has => (List.mem_erase_of_ne (different same)).mpr has) rfl

theorem holds_release {p : Proxy} {fd other : Int} {client : Client} (holds : p.Holds fd client)
    {qmiType clientId : UInt8}
    (different : other = fd → (qmiType, clientId) ≠ (client.qmiType, client.clientId)) :
    (p.releaseQrtrClientId other qmiType clientId).Holds fd client := by
  rw [releaseQrtrClientId]
  split
  · exact holds
  next gone found =>
    apply holds_dropClient holds
    rintro same rfl
    obtain ⟨con, _, own⟩ := Option.bind_eq_some_iff.mp found
    have pair := List.find?_some own
    simp only [decide_eq_true_eq] at pair
    exact different same (by rw [pair.1, pair.2])

theorem holds_cleanup {p : Proxy} {fd other : Int} {client : Client} (holds : p.Holds fd client)
    (different : other ≠ fd) : (p.cleanupQrtrConnection other).Holds fd client := by
  rw [cleanupQrtrConnection]
  split
  · exact holds
  next con found =>
    have released : ∀ (all : List Client) (p : Proxy), p.Holds fd client →
        (all.foldl (fun p client => p.releaseQrtrClientId other client.qmiType client.clientId)
          p).Holds fd client := by
      intro all
      induction all with
      | nil => exact fun _ holds => holds
      | cons first rest ih =>
        exact fun p holds => ih _ (holds_release holds fun same => absurd same different)
    obtain ⟨mine, member, own, has⟩ := released con.clients p holds
    refine ⟨mine, ?_, own, has⟩
    exact (List.mem_eraseP_of_neg (by simpa [own] using different.symm)).mpr member

/-- What does not give the client up leaves it where it is. -/
theorem step_holds {p : Proxy} {fd : Int} {client : Client} (holds : p.Holds fd client) {e : Event}
    (keeps : ¬GivesUp fd client e) : (p.step e).Holds fd client := by
  cases e with
  | connect other =>
    obtain ⟨con, member, held⟩ := holds
    exact ⟨con, List.mem_append_left _ member, held⟩
  | disconnect other => exact holds_cleanup holds keeps
  | server pkt => exact holds_of_connections holds rfl
  | client other qmi =>
    rw [step, recvQmiFromClient]
    split
    · exact holds
    · split_ifs with ctl sync get release version
      · exact holds
      · rw [getClientId]
        dsimp only
        split
        · exact holds_updateFirst (f := fun con => { con with clients := con.clients ++ [_] }) holds
            (fun _ => rfl) (fun con _ _ _ has => List.mem_append_left _ has) rfl
        · exact holds_of_connections holds rfl
      · rw [releaseClientId]
        apply holds_of_connections (holds_release holds _) rfl
        intro same pair
        exact keeps ⟨same, ctl, release, pair⟩
      · exact holds_of_connections holds rfl
      · exact holds
      · exact holds_of_connections holds (sendData_same _ _).1

/-! ### One port, one client -/

/-- A message that is sent on has been sent by a client of the connection. -/
theorem holds_of_data {p : Proxy} {fd : Int} {qmi : Qmi} {node dstNode dstPort : UInt32}
    {port : Nat} (sent : .data qmi node port dstNode dstPort ∈ (p.step (.client fd qmi)).out.drop p.out.length) :
    p.Holds fd ⟨qmi.qmiType, qmi.clientId, node, port⟩ ∧
      (p.step (.client fd qmi)).connections = p.connections := by
  rw [step, recvQmiFromClient] at sent ⊢
  cases found : p.connection? fd with
  | none => simp [found] at sent
  | some con =>
    simp only [found] at sent ⊢
    -- The answers of the proxy itself are no data.
    split_ifs at sent ⊢ with ctl sync get release version
    · simp at sent
    · simp [getClientId, allocQrtrClientId] at sent
      split at sent <;> simp at sent
    · rw [releaseClientId, releaseQrtrClientId] at sent
      dsimp only at sent
      split at sent <;> simp [dropClient] at sent
    · simp at sent
    · simp at sent
    · refine ⟨?_, (sendData_same con qmi).1⟩
      rw [sendData] at sent
      split at sent
      next client srv own service =>
        split_ifs at sent with unknown
        · simp at sent
        · simp only [List.drop_left, List.mem_singleton, Output.data.injEq] at sent
          obtain ⟨_, rfl, rfl, _⟩ := sent
          have pair := List.find?_some own
          simp only [decide_eq_true_eq] at pair
          refine ⟨con, List.mem_of_find?_eq_some found, by simpa using List.find?_some found, ?_⟩
          rw [← pair.1, ← pair.2]
          exact List.mem_of_find?_eq_some own
      · simp at sent

theorem filter_eq_singleton {α β : Type} [DecidableEq β] {key : α → β} {l : List α}
    (nodup : (l.map key).Nodup) {a : α} (member : a ∈ l) {test : α → Bool} (passes : test a = true)
    (only : ∀ b ∈ l, test b = true → key b = key a) : l.filter test = [a] := by
  induction l with
  | nil => cases member
  | cons first rest ih =>
    obtain ⟨fresh, others⟩ := List.nodup_cons.mp nodup
    rcases List.mem_cons.mp member with rfl | behind
    · rw [List.filter_cons_of_pos passes, List.filter_eq_nil_iff.mpr]
      intro b member' passes'
      exact fresh (List.mem_map.mpr ⟨b, member', only b (.tail _ member') passes'⟩)
    · have other : ¬test first = true := by
        intro passes'
        exact fresh (List.mem_map.mpr ⟨a, behind, (only first (.head _) passes').symm⟩)
      rw [List.filter_cons_of_neg other]
      exact ih others behind fun b member => only b (.tail _ member)

/-- The clients, each with the file descriptor of its connection. -/
def located (p : Proxy) : List (Int × Client) :=
  p.connections.flatMap fun con => con.clients.map fun client => (con.clientFd, client)

theorem located_clients (p : Proxy) : p.located.map Prod.snd = p.clients := by
  rw [located, clients, List.map_flatMap]
  simp [Function.comp_def]

theorem deliver_eq (p : Proxy) (pkt : DataPkt) :
    p.deliver pkt = (p.located.filter fun l =>
      l.2.nodeId = pkt.dstNodeId ∧ l.2.portId = pkt.dstPortId.toNat).map fun l =>
        (l.1, sendQmiToClient (qmiFrame l.2.qmiType l.2.clientId pkt.body)) := by
  rw [deliver, located, List.filter_flatMap, List.map_flatMap]
  simp [List.filter_map, Function.comp_def]

/-- The header gives the length of the message. -/
theorem sendQmiToClient_frame (qmiType clientId : UInt8) (pkt : DataPkt) :
    sendQmiToClient (qmiFrame qmiType clientId pkt.body) = qmiFrame qmiType clientId pkt.body := by
  have fits := pkt.fits
  have length : (qmiFrame qmiType clientId pkt.body).hdrLength = pkt.body.length + 5 := by
    change ((pkt.body.length + 6 - 1).toUInt8).toNat +
      256 * (((pkt.body.length + 6 - 1) / 256).toUInt8).toNat = _
    rw [UInt8.toNat_ofNat', UInt8.toNat_ofNat']
    omega
  apply List.take_of_length_le
  rw [length, qmiFrame, List.length_append]
  exact Nat.le_of_eq (Nat.add_comm _ _)

/-- A packet to the port of a client goes to this client, and to no other. -/
theorem deliver_holder {p : Proxy} (unique : p.Unique) {fd : Int} {client : Client}
    (holds : p.Holds fd client) {pkt : DataPkt} (node : pkt.dstNodeId = client.nodeId)
    (port : pkt.dstPortId.toNat = client.portId) :
    p.deliver pkt = [(fd, qmiFrame client.qmiType client.clientId pkt.body)] := by
  obtain ⟨con, member, rfl, has⟩ := holds
  have ports : (p.located.map fun l => l.2.portId).Nodup := by
    have nodup := unique.ports.nodup
    rw [← located_clients, List.map_map] at nodup
    exact nodup
  have here : (con.clientFd, client) ∈ p.located :=
    List.mem_flatMap.mpr ⟨con, member, List.mem_map.mpr ⟨client, has, rfl⟩⟩
  rw [deliver_eq, filter_eq_singleton ports here]
  · rw [List.map_singleton, sendQmiToClient_frame]
  · simp [node, port]
  · intro l _ passes
    simp only [decide_eq_true_eq] at passes
    exact passes.2.trans port

end Proxy

/-! ### Runs -/

namespace Relay

def HasRoom (r : Relay) : RelayEvent → Prop
  | .proxy e => r.proxy.HasRoom e
  | .data _ => True

instance (r : Relay) : DecidablePred r.HasRoom
  | .proxy e => inferInstanceAs (Decidable (r.proxy.HasRoom e))
  | .data _ => inferInstanceAs (Decidable True)

/-- The event gives the client up. -/
def GivesUp (fd : Int) (client : Client) : RelayEvent → Prop
  | .proxy e => Proxy.GivesUp fd client e
  | .data _ => False

instance (fd : Int) (client : Client) : DecidablePred (GivesUp fd client)
  | .proxy e => inferInstanceAs (Decidable (Proxy.GivesUp fd client e))
  | .data _ => inferInstanceAs (Decidable False)

theorem step_unique {r : Relay} {e : RelayEvent} (unique : r.proxy.Unique) (room : r.HasRoom e) :
    (r.step e).proxy.Unique := by
  cases e with
  | proxy e => exact Proxy.step_unique unique room
  | data pkt => exact unique

theorem step_holds {r : Relay} {fd : Int} {client : Client} (holds : r.proxy.Holds fd client)
    {e : RelayEvent} (keeps : ¬GivesUp fd client e) : (r.step e).proxy.Holds fd client := by
  cases e with
  | proxy e => exact Proxy.step_holds holds keeps
  | data pkt => exact holds

theorem run_holds {r : Relay} {fd : Int} {client : Client} (holds : r.proxy.Holds fd client)
    {events : List RelayEvent} (kept : ∀ e ∈ events, ¬GivesUp fd client e) :
    (run step r events).proxy.Holds fd client := by
  induction events generalizing r with
  | nil => exact holds
  | cons e rest ih =>
    exact ih (step_holds holds (kept e (.head _))) fun e member => kept e (.tail _ member)

/-- While a client keeps its client id, what the modem sends to the port that a message of the
client has come from is written to this client, with the service and the client id of the message,
and to no other. -/
theorem answer_returned (nodeModem : UInt32) (before more : List RelayEvent) (fd : Int) (qmi : Qmi)
    {node dstNode dstPort : UInt32} {port : Nat} (pkt : DataPkt)
    (guarded : Guarded step HasRoom { proxy := { nodeModem } }
      (before ++ .proxy (.client fd qmi) :: more))
    (sent : let p := (run step { proxy := { nodeModem } } before).proxy
      .data qmi node port dstNode dstPort ∈ (p.step (.client fd qmi)).out.drop p.out.length)
    (kept : ∀ e ∈ more, ¬GivesUp fd ⟨qmi.qmiType, qmi.clientId, node, port⟩ e)
    (toNode : pkt.dstNodeId = node) (toPort : pkt.dstPortId.toNat = port) :
    let r := run step { proxy := { nodeModem } } (before ++ .proxy (.client fd qmi) :: more)
    (r.step (.data pkt)).delivered =
      r.delivered ++ [(fd, qmiFrame qmi.qmiType qmi.clientId pkt.body)] := by
  intro r
  have unique : r.proxy.Unique :=
    guarded_invariant step HasRoom (fun r => r.proxy.Unique) (fun _ _ => step_unique) _
      (Proxy.init_unique nodeModem) _ guarded
  obtain ⟨holds, same⟩ := Proxy.holds_of_data sent
  have held : r.proxy.Holds fd ⟨qmi.qmiType, qmi.clientId, node, port⟩ := by
    have split : r = run step (step (run step { proxy := { nodeModem } } before)
        (.proxy (.client fd qmi))) more := List.foldl_append
    rw [split]
    exact run_holds (Proxy.holds_of_connections holds same) kept
  exact congrArg (r.delivered ++ ·) (Proxy.deliver_holder unique held toNode toPort)

/-- Another client comes and takes a client id before the answer. -/
theorem answer_returned_meanwhile :
    let start : Relay := { proxy := { nodeModem := 3 } }
    let before : List RelayEvent := (Proxy.connected ++ [Proxy.getWds]).map .proxy
    let more : List RelayEvent :=
      [.proxy (.connect 6), .proxy (.client 6 (getClientIdReq 1 1))]
    let request : Qmi := [1, 6, 0, 0, 1, 1, 0]
    let r := run step start (before ++ .proxy (.client 5 request) :: more)
    (r.step (.data ⟨3, 10, 1, 1, true, [2], by decide⟩)).delivered =
      r.delivered ++ [(5, qmiFrame 1 1 [2])] :=
  @answer_returned 3 _ _ 5 [1, 6, 0, 0, 1, 1, 0] 1 3 10 1 ⟨3, 10, 1, 1, true, [2], by decide⟩
    (by decide +kernel) (by decide +kernel) (by decide +kernel) rfl rfl

end Relay
end LorawanFeeds.QrtrProxy
