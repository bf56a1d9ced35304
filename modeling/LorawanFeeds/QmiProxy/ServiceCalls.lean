import Mathlib.Data.List.Perm.Basic
import LorawanFeeds.QmiProxy.Delivery
import LorawanFeeds.QmiProxy.Ownership

/-!
# Requests to the services

The requests to the services of the modem pass through the proxy as they are, and so do the
answers: nothing is written down of a request. An answer has the service, the client id and the
transaction of its request, and goes to whoever has the client id in its list. So it is the client
ids that tell the clients apart, and these come from the control responses. Two clients may use the
same transactions.
-/
namespace LorawanFeeds.QmiProxy

open Lib

/-- The client id that a message of a service is from or for. -/
def Qmi.pair (m : Qmi) : Pair := (m.qmiType, m.clientId)

/-- The answer to the request of a service: the header repeats the service, the client id, the
transaction and the type. -/
def serviceAnswer (request body : Qmi) : Qmi :=
  let size := 10 + body.length
  [0x01, size.toUInt8, (size / 256).toUInt8, 0x80, request.byte 4, request.byte 5, 0x02,
    request.byte 7, request.byte 8, request.byte 9, request.byte 10] ++ body

/-- The messages of services among what was written. -/
def services (out : List Output) : List Qmi :=
  out.filterMap fun
    | .service qmi => some qmi
    | _ => none

/-- A request as a connection has sent it. -/
structure ServiceRequest where
  connection : Nat
  qmi : Qmi
  deriving DecidableEq, Repr

/-- An answered request, whether its connection still had the client id then, and which connections
have received the answer. -/
structure ServiceAnswered where
  request : ServiceRequest
  held : Bool
  receivers : List Nat
  deriving DecidableEq, Repr

/-- The answer has gone to the connection of the request, once, and to no other one; to nobody if
the connection is gone or has given the client id back. -/
def ServiceAnswered.Right (answered : ServiceAnswered) : Prop :=
  answered.receivers = if answered.held then [answered.request.connection] else []

structure Traffic where
  system : System
  /-- The requests to services that clients have written. -/
  asked : List ServiceRequest := []
  /-- The requests to services that the modem has received and not answered. -/
  inFlight : List ServiceRequest := []
  answered : List ServiceAnswered := []
  deriving DecidableEq, Repr

namespace Traffic

inductive Event where
  /-- A step of the clients, of the control service, or an indication. -/
  | system (e : QmiProxy.Event)
  /-- The modem answers a request to a service, in any order. -/
  | answer (index : Nat) (body : Qmi)
  deriving DecidableEq, Repr

def init (serverFd : Nat) : Traffic := { system := System.init serverFd }

/-- A client's message that is a whole one and to a service. -/
def asks (s : System) : QmiProxy.Event → List ServiceRequest
  | .client fd qmi =>
    match s.proxy.connections.find? (·.clientFd = fd) with
    | none => []
    | some con =>
      if qmi.hdrLength + 1 = qmi.length ∧ qmi.qmiType ≠ qmuxTypeCtl then [⟨con.ident, qmi⟩] else []
  | _ => []

/-- What the proxy writes to the services on a client's message. -/
def sent (s : System) : QmiProxy.Event → List ServiceRequest
  | .client fd qmi =>
    match s.proxy.connections.find? (·.clientFd = fd) with
    | none => []
    | some con =>
      if qmi.hdrLength + 1 = qmi.length then
        let p := s.proxy.recvQmiFromClient qmi con.clientFd (.client con.ident s.nextRequest)
        (services p.out).map fun written => ⟨con.ident, written⟩
      else []
  | _ => []

/-- The connection of the request has its client id. -/
def Held (s : System) (request : ServiceRequest) : Prop :=
  ∃ con ∈ s.proxy.connections, con.ident = request.connection ∧ request.qmi.pair ∈ con.clients

instance (s : System) (request : ServiceRequest) : Decidable (Held s request) :=
  inferInstanceAs (Decidable (∃ con ∈ s.proxy.connections, _ ∧ _))

/-- The answer to a request passes through the proxy. -/
def respond (t : Traffic) (index : Nat) (request : ServiceRequest) (body : Qmi) : Traffic :=
  let rsp := serviceAnswer request.qmi body
  { t with
    system := t.system.step (.device rsp)
    inFlight := t.inFlight.eraseIdx index
    answered := t.answered ++ [{
      request := request
      held := Held t.system request
      receivers := receivers (t.system.proxy.recvQmiFromDev rsp).out }] }

def step (t : Traffic) : Event → Traffic
  | .system e =>
    { t with
      system := t.system.step e
      asked := t.asked ++ asks t.system e
      inFlight := t.inFlight ++ sent t.system e }
  | .answer index body =>
    match t.inFlight[index]? with
    | none => t
    | some request => t.respond index request body

/-- A client sends to a service with a client id from its list, which is not zero. -/
def Entitled (s : System) : QmiProxy.Event → Prop
  | .client fd qmi => qmi.qmiType ≠ qmuxTypeCtl → ∀ con ∈ s.proxy.connections, con.clientFd = fd →
      qmi.clientId ≠ 0 ∧ qmi.pair ∈ con.clients
  | _ => True

/-- The modem does not give away a client id with which it still has to answer a request. -/
def Unused (t : Traffic) : QmiProxy.Event → Prop
  | .response body => ∀ msg ∈ t.system.outstanding.head?, msg.qmi.isGet →
      (answer msg.qmi body).succeeded →
        ∀ request ∈ t.inFlight, request.qmi.pair ≠ responsePair (answer msg.qmi body)
  | _ => True

/-- The schedules on which the client lists can rely, with clients and a modem that use the client
ids as they are meant. -/
def Allowed (t : Traffic) : Event → Prop
  | .system e => t.system.OwnershipAllowed e ∧ Entitled t.system e ∧ t.Unused e
  | .answer _ _ => True

instance (s : System) : ∀ e, Decidable (Entitled s e)
  | .client fd qmi => inferInstanceAs (Decidable (qmi.qmiType ≠ qmuxTypeCtl →
      ∀ con ∈ s.proxy.connections, con.clientFd = fd → qmi.clientId ≠ 0 ∧ qmi.pair ∈ con.clients))
  | .connect _ | .disconnect _ | .response _ | .device _ => inferInstanceAs (Decidable True)

instance (t : Traffic) : ∀ e, Decidable (t.Unused e)
  | .response body => inferInstanceAs (Decidable (∀ msg ∈ t.system.outstanding.head?,
      msg.qmi.isGet → (answer msg.qmi body).succeeded →
        ∀ request ∈ t.inFlight, request.qmi.pair ≠ responsePair (answer msg.qmi body)))
  | .connect _ | .disconnect _ | .client _ _ | .device _ => inferInstanceAs (Decidable True)

instance (t : Traffic) : ∀ e, Decidable (t.Allowed e)
  | .system e =>
    inferInstanceAs (Decidable (t.system.OwnershipAllowed e ∧ Entitled t.system e ∧ t.Unused e))
  | .answer _ _ => inferInstanceAs (Decidable True)

/-! ### One holder for each client id -/

section

variable {s : System} (wf : s.WellFormed) (settled : s.Settled)

include wf settled

omit wf in
theorem held_once (pair : Pair) : s.held.count pair ≤ 1 := by
  have balance := settled.balance pair
  split at balance <;> omega

theorem clients_count {con : Connection} (live : con ∈ s.proxy.connections) (pair : Pair) :
    con.clients.count pair ≤ 1 := by
  have once := held_once settled pair
  rw [System.held_count wf live] at once
  omega

/-- No two connections have the same client id in their lists. -/
theorem holder_unique {con other : Connection} (live : con ∈ s.proxy.connections)
    (alive : other ∈ s.proxy.connections) {pair : Pair} (mine : pair ∈ con.clients)
    (its : pair ∈ other.clients) : other = con := by
  by_contra different
  have once := held_once settled pair
  rw [System.held_count wf live] at once
  -- The other connection is among those that are counted beside this one.
  have apart : other.clientFd ≠ con.clientFd :=
    fun same => different (List.inj_on_of_nodup_map wf.fds alive live same)
  have first : 0 < con.clients.count pair := List.count_pos_iff.mpr mine
  have second : pair ∈ (s.proxy.connections.filter (·.clientFd ≠ con.clientFd)).flatMap
      Connection.clients :=
    List.mem_flatMap.mpr ⟨other, List.mem_filter.mpr ⟨alive, by simpa using apart⟩, its⟩
  have positive := List.count_pos_iff.mpr second
  omega

/-- A connection has a client id in its list because it had it before, or because the modem has just
given it away. -/
theorem holder_before {e : QmiProxy.Event} {con : Connection}
    (live : con ∈ (s.step e).proxy.connections) {pair : Pair} (member : pair ∈ con.clients) :
    (∃ old ∈ s.proxy.connections, old.ident = con.ident ∧ pair ∈ old.clients) ∨
      ∃ body, e = .response body ∧ ∃ msg ∈ s.outstanding.head?, msg.qmi.isGet ∧
        (answer msg.qmi body).succeeded ∧ pair = responsePair (answer msg.qmi body) := by
  cases e with
  | connect fd =>
    left
    rw [System.step] at live
    split at live
    · exact ⟨con, live, rfl, member⟩
    · rcases List.mem_append.mp live with old | new
      · exact ⟨con, old, rfl, member⟩
      · -- A new connection has an empty list.
        rw [List.mem_singleton.mp new] at member
        cases member
  | disconnect fd =>
    left
    cases found : s.proxy.connections.find? (·.clientFd = fd) with
    | none =>
      rw [System.step_disconnect_of_none wf found] at live
      exact ⟨con, live, rfl, member⟩
    | some closed =>
      rw [System.step_disconnect wf found] at live
      exact ⟨con, (List.mem_filter.mp live).1, rfl, member⟩
  | client fd qmi =>
    left
    cases found : s.proxy.connections.find? (·.clientFd = fd) with
    | none =>
      simp only [System.step, found] at live
      exact ⟨con, live, rfl, member⟩
    | some sender =>
      rcases System.step_client wf qmi found with same | ⟨-, taken⟩
      · rw [same] at live
        exact ⟨con, live, rfl, member⟩
      · rw [taken] at live
        exact ⟨con, live, rfl, member⟩
  | response body =>
    cases list : s.proxy.ctlMsg with
    | nil =>
      left
      have nothing : s.outstanding = [] := by simp [settled.single, list]
      simp only [System.step, nothing] at live
      exact ⟨con, live, rfl, member⟩
    | cons msg queue =>
      have oldest : s.outstanding = [msg] := by simp [settled.single, list]
      rw [System.step_response wf body oldest list] at live
      obtain ⟨old, alive, rfl⟩ := List.mem_map.mp live
      have kept : pair ∈ old.clients → ∃ before ∈ s.proxy.connections,
          before.ident = (if old.clientFd = msg.clientFd then
            Proxy.recordResponse old (answer msg.qmi body) else old).ident ∧
              pair ∈ before.clients := by
        intro before
        refine ⟨old, alive, ?_, before⟩
        split_ifs <;> simp
      by_cases addressee : old.clientFd = msg.clientFd
      · rw [if_pos addressee] at member
        by_cases get : msg.qmi.isGet
        · rw [System.record_get old body get] at member
          split at member
          next succeeded =>
            rcases List.mem_append.mp member with before | given
            · exact .inl (kept before)
            · right
              exact ⟨body, rfl, msg, by simp [oldest], get, succeeded, List.mem_singleton.mp given⟩
          · exact .inl (kept member)
        · left
          by_cases release : msg.qmi.isRelease
          · rw [System.record_release old body release] at member
            split at member
            · exact kept (List.mem_of_mem_erase member)
            · exact kept member
          · rw [System.record_other old body get release] at member
            exact kept member
      · rw [if_neg addressee] at member
        exact .inl (kept member)
  | device qmi =>
    left
    rw [System.step_device wf] at live
    exact ⟨con, live, rfl, member⟩

end

/-! ### The invariant -/

/-- A request to a service, whose client id is in no other list than that of its connection. -/
structure Reserved (s : System) (request : ServiceRequest) : Prop where
  service : request.qmi.qmiType ≠ qmuxTypeCtl
  single : request.qmi.clientId ≠ 0
  owner : ∀ con ∈ s.proxy.connections, request.qmi.pair ∈ con.clients →
    con.ident = request.connection

structure Sound (t : Traffic) : Prop where
  wellFormed : t.system.WellFormed
  settled : t.system.Settled
  reserved : ∀ request ∈ t.inFlight, Reserved t.system request
  right : ∀ answered ∈ t.answered, answered.Right
  /-- Every request is at the modem or has been answered, and only once. -/
  balance : t.asked.Perm (t.answered.map ServiceAnswered.request ++ t.inFlight)

/-! ### Requests -/

/-- The proxy passes on what a client asks of a service, as it is. -/
theorem sent_eq {s : System} (wf : s.WellFormed) (e : QmiProxy.Event) : sent s e = asks s e := by
  cases e with
  | client fd qmi =>
    rw [sent, asks]
    cases s.proxy.connections.find? (·.clientFd = fd) with
    | none => rfl
    | some con =>
      dsimp only
      by_cases whole : qmi.hdrLength + 1 = qmi.length
      · rw [Proxy.recvQmiFromClient, if_neg wf.server]
        by_cases ctl : qmi.qmiType = qmuxTypeCtl
        · by_cases sync : qmi.qmictlType = qmictlSyncReq
          · simp [whole, ctl, sync, services, wf.idle]
          · by_cases empty : s.proxy.ctlMsg = [] <;>
              simp [whole, ctl, sync, services, Proxy.addCtlMsg, empty, wf.idle]
        · simp [whole, ctl, services, wf.idle]
      · simp [whole]
  | _ => rfl

theorem asks_reserved {s : System} (wf : s.WellFormed) (settled : s.Settled) {e : QmiProxy.Event}
    (entitled : Entitled s e) {request : ServiceRequest} (member : request ∈ asks s e) :
    Reserved (s.step e) request := by
  cases e with
  | client fd qmi =>
    rw [asks] at member
    cases found : s.proxy.connections.find? (·.clientFd = fd) with
    | none =>
      rw [found] at member
      cases member
    | some con =>
      rw [found] at member
      dsimp only at member
      split at member
      next whole =>
        rw [List.mem_singleton.mp member]
        have live := List.mem_of_find?_eq_some found
        have isFd : con.clientFd = fd := by simpa using List.find?_some found
        obtain ⟨single, mine⟩ := entitled whole.2 con live isFd
        -- A request to a service leaves the proxy as it is.
        have same : s.step (.client fd qmi) = s := by
          rcases System.step_client wf qmi found with same | ⟨ctl, -⟩
          · exact same
          · exact absurd ctl whole.2
        rw [same]
        refine ⟨whole.2, single, ?_⟩
        intro other alive its
        rw [holder_unique wf settled live alive mine its]
      · cases member
  | _ => cases member

/-- No step gives the client id of an unanswered request to another connection. -/
theorem step_reserved {t : Traffic} (wf : t.system.WellFormed) (settled : t.system.Settled)
    {e : QmiProxy.Event} (unused : t.Unused e) {request : ServiceRequest}
    (member : request ∈ t.inFlight) (reserved : Reserved t.system request) :
    Reserved (t.system.step e) request := by
  refine ⟨reserved.service, reserved.single, ?_⟩
  intro con live mine
  rcases holder_before wf settled live mine with ⟨old, alive, sameIdent, before⟩ | given
  · rw [← sameIdent]
    exact reserved.owner old alive before
  · obtain ⟨body, rfl, msg, oldest, get, succeeded, same⟩ := given
    exact absurd same (unused msg oldest get succeeded request member)

/-! ### Answers -/

@[simp] theorem serviceAnswer_qmiType (request body : Qmi) :
    (serviceAnswer request body).qmiType = request.qmiType := rfl

@[simp] theorem serviceAnswer_clientId (request body : Qmi) :
    (serviceAnswer request body).clientId = request.clientId := rfl

theorem owns_serviceAnswer {request : Qmi} (single : request.clientId ≠ 0) (body : Qmi)
    (con : Connection) : con.Owns (serviceAnswer request body) ↔ request.pair ∈ con.clients := by
  rw [Connection.Owns, serviceAnswer_clientId, if_neg single]
  rfl

/-- The answer goes to the connection of the request if this one still has the client id, once. -/
theorem receivers_of_reserved {s : System} (wf : s.WellFormed) (settled : s.Settled)
    {request : ServiceRequest} (reserved : Reserved s request) (body : Qmi) :
    receivers (s.proxy.recvQmiFromDev (serviceAnswer request.qmi body)).out =
      if Held s request then [request.connection] else [] := by
  have service : (serviceAnswer request.qmi body).qmiType ≠ qmuxTypeCtl := reserved.service
  have mine (con : Connection) : con.Owns (serviceAnswer request.qmi body) ↔
      request.qmi.pair ∈ con.clients := owns_serviceAnswer reserved.single body con
  have received {ident : Nat}
      (member : ident ∈ receivers (s.proxy.recvQmiFromDev (serviceAnswer request.qmi body)).out) :
      ∃ con ∈ s.proxy.connections, con.ident = ident ∧ request.qmi.pair ∈ con.clients := by
    have written := member
    rw [System.service_receivers wf service] at member
    obtain ⟨con, live, copies⟩ := List.mem_flatMap.mp member
    obtain ⟨-, -, rfl⟩ := List.mem_map.mp copies
    exact ⟨con, live, rfl,
      (mine con).mp ((System.mem_service_receivers wf service live).mp written)⟩
  by_cases held : Held s request
  · rw [if_pos held]
    obtain ⟨con, live, isCon, has⟩ := held
    have once : (receivers
        (s.proxy.recvQmiFromDev (serviceAnswer request.qmi body)).out).Nodup := by
      apply (System.nodup_service_receivers wf service).mpr
      intro other alive
      rw [Connection.HoldsOne, serviceAnswer_clientId, if_neg reserved.single]
      exact clients_count wf settled alive _
    have written := (System.mem_service_receivers wf service live).mpr ((mine con).mpr has)
    rw [isCon] at written
    apply List.perm_singleton.mp
    apply (List.perm_ext_iff_of_nodup once (List.nodup_singleton _)).mpr
    intro ident
    rw [List.mem_singleton]
    constructor
    · intro member
      obtain ⟨other, alive, isOther, its⟩ := received member
      rw [← isOther]
      exact reserved.owner other alive its
    · rintro rfl
      exact written
  · rw [if_neg held]
    apply List.eq_nil_iff_forall_not_mem.mpr
    intro ident member
    obtain ⟨con, live, -, has⟩ := received member
    exact held ⟨con, live, reserved.owner con live has, has⟩

theorem respond_sound {t : Traffic} (sound : t.Sound) {index : Nat} {request : ServiceRequest}
    (found : t.inFlight[index]? = some request) (body : Qmi) :
    (t.respond index request body).Sound := by
  have reserved := sound.reserved request (List.mem_of_getElem? found)
  -- An answer changes nothing of the proxy.
  have same : t.system.step (.device (serviceAnswer request.qmi body)) = t.system :=
    System.step_device sound.wellFormed _
  constructor
  case wellFormed => simpa only [respond, same] using sound.wellFormed
  case settled => simpa only [respond, same] using sound.settled
  case reserved =>
    simp only [respond, same]
    intro other member
    exact sound.reserved other (List.mem_of_mem_eraseIdx member)
  case right =>
    intro answered member
    rcases List.mem_append.mp member with old | new
    · exact sound.right answered old
    · rw [List.mem_singleton.mp new, ServiceAnswered.Right]
      rw [receivers_of_reserved sound.wellFormed sound.settled reserved body]
      simp
  case balance =>
    obtain ⟨inside, isRequest⟩ := List.getElem?_eq_some_iff.mp found
    have parts : (request :: t.inFlight.eraseIdx index).Perm t.inFlight :=
      isRequest ▸ List.getElem_cons_eraseIdx_perm inside
    simp only [respond, List.map_append, List.map_cons, List.map_nil, List.append_assoc,
      List.singleton_append]
    exact sound.balance.trans (parts.symm.append_left _)

/-! ### Runs -/

theorem step_sound {t : Traffic} (sound : t.Sound) (e : Event) (allowed : t.Allowed e) :
    (t.step e).Sound := by
  cases e with
  | system e =>
    obtain ⟨owned, entitled, unused⟩ := allowed
    constructor
    case wellFormed => exact System.step_wellFormed sound.wellFormed e
    case settled => exact System.step_settled sound.wellFormed sound.settled owned
    case reserved =>
      simp only [step, sent_eq sound.wellFormed]
      intro request member
      rcases List.mem_append.mp member with old | new
      · exact step_reserved sound.wellFormed sound.settled unused old (sound.reserved request old)
      · exact asks_reserved sound.wellFormed sound.settled entitled new
    case right => exact sound.right
    case balance =>
      simp only [step, sent_eq sound.wellFormed]
      rw [← List.append_assoc]
      exact sound.balance.append_right _
  | answer index body =>
    rw [step]
    split
    · exact sound
    next request found => exact respond_sound sound found body

theorem init_sound (serverFd : Nat) : (init serverFd).Sound where
  wellFormed := System.init_wellFormed serverFd
  settled := System.init_settled serverFd
  reserved := by simp [init]
  right := by simp [init]
  balance := .refl _

/-- Whatever the clients ask of the services and in whatever order the modem answers: each request
is passed on once, and each answer is written once, to the connection that has sent the request and
to no other one, also where clients use the same transactions. It is dropped if the connection is
gone or has given the client id back. -/
theorem service_answers_reach_requesters (serverFd : Nat) (events : List Event)
    (guarded : Guarded step Allowed (init serverFd) events) :
    let t := run step (init serverFd) events
    t.asked.Perm (t.answered.map ServiceAnswered.request ++ t.inFlight) ∧
      ∀ answered ∈ t.answered, answered.Right := by
  intro t
  have sound : t.Sound := guarded_invariant step Allowed Sound
    (fun _ e sound allowed => step_sound sound e allowed) _ (init_sound serverFd) events guarded
  exact ⟨sound.balance, sound.right⟩

/-- A request with a transaction to a service, with the client id of the sender. -/
def plainReq (pair : Pair) (transaction : UInt8) : Qmi :=
  [0x01, 12, 0, 0x00, pair.1, pair.2, 0x00, transaction, 0, 0x20, 0, 0, 0]

/-- Two clients ask the same service with the same transaction. The second is answered first, and
the first has gone when its second request is answered. -/
def twoAsk : List Event := [.system (.connect 5), .system (.connect 6),
  .system (.client 5 (getClientIdReq 1 2)), .system (.client 6 (getClientIdReq 1 2)),
  .system (.response (clientIdRsp (2, 1))), .system (.response (clientIdRsp (2, 2))),
  .system (.client 5 (plainReq (2, 1) 9)), .system (.client 6 (plainReq (2, 2) 9)),
  .system (.client 5 (plainReq (2, 1) 10)), .answer 1 [0, 0], .answer 0 [0, 0],
  .system (.disconnect 5), .answer 0 [0, 0]]

theorem service_answers_reach_requesters_crossed :
    let t := run step (init 3) twoAsk
    Guarded step Allowed (init 3) twoAsk ∧
      t.answered.map ServiceAnswered.receivers = [[1], [0], []] ∧
        ∀ answered ∈ t.answered, answered.Right := by
  intro t
  have guarded : Guarded step Allowed (init 3) twoAsk := by decide
  exact ⟨guarded, by decide, (service_answers_reach_requesters 3 twoAsk guarded).2⟩

-- The proxy does not look at the client id of a request: the answer to one that is sent with the
-- client id of another client goes to that client.
example : (run step (init 3) [.system (.connect 5), .system (.connect 6),
    .system (.client 5 (getClientIdReq 1 2)), .system (.response (clientIdRsp (2, 1))),
    .system (.client 6 (plainReq (2, 1) 9)), .answer 0 [0, 0]]).answered =
      [⟨⟨1, plainReq (2, 1) 9⟩, false, [0]⟩] := by
  decide

end Traffic
end LorawanFeeds.QmiProxy
