import LorawanFeeds.Lib.RemoveFirst
import LorawanFeeds.Lib.Run
import LorawanFeeds.QmiProxy.Proxy

/-!
# The proxy, its clients and the modem

The modem answers every control request it receives exactly once, in the order received, with
the transaction and the type of the request; the rest of its answers is its own choice. The
kernel gives a new connection any file descriptor that is not in use. The logs record what has
happened and are not read by anything that happens.
-/
namespace LorawanFeeds.QmiProxy

open Lib

structure System where
  proxy : Proxy
  /-- The control requests that the modem has received and not answered. -/
  outstanding : List ProxyMsg := []
  nextConnection : Nat := 0
  nextRequest : Nat := 0
  /-- The control requests that the proxy has taken from its clients: connection and number. -/
  requested : List (Nat × Nat) := []
  /-- The control requests that the modem has received. -/
  written : List Origin := []
  /-- The control responses that clients have received: the connection, and the request that
  was answered. -/
  delivered : List (Nat × Origin) := []
  /-- The pairs that the modem has given away and not got back. -/
  allocated : List Pair := []
  deriving DecidableEq, Repr

/-- The server socket is open from the start. -/
def System.init (serverFd : Nat) : System := { proxy := { serverFd := serverFd } }

inductive Event where
  | connect (clientFd : Int)
  | disconnect (clientFd : Int)
  /-- A client writes a message. -/
  | client (clientFd : Int) (qmi : Qmi)
  /-- The modem answers the oldest control request. -/
  | response (body : Qmi)
  /-- The modem sends anything but a control response. -/
  | device (qmi : Qmi)
  deriving DecidableEq, Repr

/-- The answer to a request: the header repeats its transaction and its type. -/
def answer (request : Qmi) (body : Qmi) : Qmi :=
  let size := 9 + body.length
  [0x01, size.toUInt8, (size / 256).toUInt8, 0x80, qmuxTypeCtl, 0x00, qmictlCtlFlagRsp,
    request.transactionId, request.byte 8, request.byte 9] ++ body

/-- A GET_CLIENT_ID request for a service. -/
def getClientIdReq (transactionId service : UInt8) : Qmi :=
  [0x01, 15, 0, 0x00, qmuxTypeCtl, 0x00, qmictlFlagRequest, transactionId, 0x22, 0x00, 4, 0, 0x01,
    1, 0, service]

/-- The rest of the answer to a GET_CLIENT_ID or RELEASE_CLIENT_ID request that succeeds. -/
def clientIdRsp (pair : Pair) : Qmi :=
  [12, 0, 0x02, 4, 0, 0, 0, 0, 0, 0x01, 2, 0, pair.1, pair.2]

def isCtlResponse (qmi : Qmi) : Bool := qmi.qmiType = qmuxTypeCtl && qmi.ctlFlags = qmictlCtlFlagRsp

/-- What the modem's answer to a request does to its client ids. -/
def settle (allocated : List Pair) (request rsp : Qmi) : List Pair :=
  if rsp.succeeded then
    if request.qmictlType = qmictlGetClientId then responsePair rsp :: allocated
    else if request.qmictlType = qmictlReleaseClientId then
      allocated.filter (· ≠ requestPair request)
    else allocated
  else allocated

/-- The control requests among what was written. -/
def controls (out : List Output) : List ProxyMsg :=
  out.filterMap fun
    | .control msg => some msg
    | _ => none

/-- The connections that something was written to. -/
def receivers (out : List Output) : List Nat :=
  out.filterMap fun
    | .client connection _ => some connection
    | _ => none

namespace System

/-- The modem receives what the proxy has written. -/
def absorb (s : System) (p : Proxy) : System :=
  { s with
    proxy := { p with out := [] }
    outstanding := s.outstanding ++ controls p.out
    written := s.written ++ (controls p.out).map ProxyMsg.origin }

/-- A client's message; the proxy drops it unless its length is the one it gives. -/
def client (s : System) (con : Connection) (qmi : Qmi) : System :=
  if qmi.hdrLength + 1 = qmi.length then
    let s' := s.absorb
      (s.proxy.recvQmiFromClient qmi con.clientFd (.client con.ident s.nextRequest))
    if qmi.qmiType = qmuxTypeCtl ∧ qmi.qmictlType ≠ qmictlSyncReq then
      { s' with
        requested := s.requested ++ [(con.ident, s.nextRequest)]
        nextRequest := s.nextRequest + 1 }
    else s'
  else s

/-- The modem answers its oldest request. -/
def respond (s : System) (msg : ProxyMsg) (rest : List ProxyMsg) (body : Qmi) : System :=
  let rsp := answer msg.qmi body
  let p := s.proxy.recvQmiFromDev rsp
  { { s with outstanding := rest }.absorb p with
    delivered := s.delivered ++ (receivers p.out).map fun connection => (connection, msg.origin)
    allocated := settle s.allocated msg.qmi rsp }

/-- The file descriptor is in use. -/
def InUse (s : System) (fd : Int) : Prop :=
  fd = s.proxy.serverFd ∨ fd ∈ s.proxy.connections.map Connection.clientFd

instance (s : System) (fd : Int) : Decidable (s.InUse fd) := by
  unfold InUse
  infer_instance

def step (s : System) : Event → System
  | .connect fd =>
    -- The kernel gives out no file descriptor twice.
    if s.InUse fd then s
    else { s with
      proxy := s.proxy.acceptQmiConnection fd s.nextConnection
      nextConnection := s.nextConnection + 1 }
  | .disconnect fd => s.absorb (s.proxy.cleanupQmiConnection fd true)
  | .client fd qmi =>
    match s.proxy.connections.find? (·.clientFd = fd) with
    | none => s
    | some con => s.client con qmi
  | .response body =>
    match s.outstanding with
    | [] => s
    | msg :: rest => s.respond msg rest body
  | .device qmi => if isCtlResponse qmi then s else s.absorb (s.proxy.recvQmiFromDev qmi)

/-! ### What the events come to -/

@[simp] theorem controls_nil : controls [] = [] := rfl

@[simp] theorem controls_append (first second : List Output) :
    controls (first ++ second) = controls first ++ controls second := List.filterMap_append

@[simp] theorem controls_map_control (msgs : List ProxyMsg) :
    controls (msgs.map .control) = msgs := by
  simp [controls, List.filterMap_map]

@[simp] theorem controls_of_clients {α : Type} (items : List α) (f : α → Nat) (qmi : Qmi) :
    controls (items.map fun item => .client (f item) qmi) = [] := by
  simp [controls, List.filterMap_map]

@[simp] theorem receivers_append (first second : List Output) :
    receivers (first ++ second) = receivers first ++ receivers second := List.filterMap_append

@[simp] theorem receivers_map_control (msgs : List ProxyMsg) :
    receivers (msgs.map .control) = [] := by
  simp [receivers, List.filterMap_map]

@[simp] theorem receivers_of_clients {α : Type} (items : List α) (f : α → Nat) (qmi : Qmi) :
    receivers (items.map fun item => .client (f item) qmi) = items.map f := by
  simp [receivers, List.filterMap_map]

theorem controls_eq_nil {out : List Output} (silent : ∀ msg, .control msg ∉ out) :
    controls out = [] := by
  apply List.filterMap_eq_nil_iff.mpr
  intro o member
  cases o with
  | control msg => exact absurd member (silent msg)
  | _ => rfl

/-- Writing nothing of the control service to the modem and leaving the proxy as it is leaves
everything as it is. -/
theorem absorb_of_silent {s : System} {p : Proxy} (silent : ∀ msg, .control msg ∉ p.out)
    (same : { p with out := [] } = s.proxy) : s.absorb p = s := by
  simp [absorb, controls_eq_nil silent, same]

/-- What holds between events in every run. -/
structure WellFormed (s : System) : Prop where
  idle : s.proxy.out = []
  server : s.proxy.serverFd ≠ -1
  fds : (s.proxy.connections.map Connection.clientFd).Nodup
  foreign : s.proxy.serverFd ∉ s.proxy.connections.map Connection.clientFd
  idents : (s.proxy.connections.map Connection.ident).Nodup
  numbered : ∀ con ∈ s.proxy.connections, con.ident < s.nextConnection

section

variable {s : System} (wf : s.WellFormed)

include wf

theorem serverFd_ne_of_live {con : Connection} (live : con ∈ s.proxy.connections) :
    s.proxy.serverFd ≠ con.clientFd :=
  fun same => wf.foreign (same ▸ List.mem_map_of_mem live)

/-- Of the messages of the closed connection the first is removed; the release requests have the
file descriptor of the server and stay. -/
theorem cleanup_lists {fd : Int} {con : Connection}
    (found : s.proxy.connections.find? (·.clientFd = fd) = some con) :
    let released := Proxy.releases s.proxy.serverFd con.clients
    s.proxy.cleanupQmiConnection fd true =
      { s.proxy with
        ctlMsg := s.proxy.ctlMsg.eraseP (·.clientFd = fd) ++ released
        connections := s.proxy.connections.filter (·.clientFd ≠ fd)
        out := (if s.proxy.ctlMsg = [] then released.head?.toList else []).map .control } := by
  have isFd : con.clientFd = fd := by simpa using List.find?_some found
  have foreign := serverFd_ne_of_live wf (List.mem_of_find?_eq_some found)
  rw [isFd] at foreign
  have kept : (s.proxy.ctlMsg ++ Proxy.releases s.proxy.serverFd con.clients).eraseP
      (·.clientFd = fd) = s.proxy.ctlMsg.eraseP (·.clientFd = fd) ++
        Proxy.releases s.proxy.serverFd con.clients :=
    eraseP_append_of_not _ fun msg member => by simp [Proxy.clientFd_of_releases member, foreign]
  simp [Proxy.cleanup_eq _ found, wf.idle, kept, eraseP_eq_filter wf.fds fd]

theorem step_disconnect {fd : Int} {con : Connection}
    (found : s.proxy.connections.find? (·.clientFd = fd) = some con) :
    let released := Proxy.releases s.proxy.serverFd con.clients
    let new := if s.proxy.ctlMsg = [] then released.head?.toList else []
    s.step (.disconnect fd) =
      { s with
        proxy := { s.proxy with
          ctlMsg := s.proxy.ctlMsg.eraseP (·.clientFd = fd) ++ released
          connections := s.proxy.connections.filter (·.clientFd ≠ fd) }
        outstanding := s.outstanding ++ new
        written := s.written ++ new.map ProxyMsg.origin } := by
  simp [step, absorb, cleanup_lists wf found, wf.idle]

theorem proxy_idle : { s.proxy with out := [] } = s.proxy := by
  rw [← wf.idle]

theorem step_disconnect_of_none {fd : Int}
    (unknown : s.proxy.connections.find? (·.clientFd = fd) = none) :
    s.step (.disconnect fd) = s := by
  rw [step, Proxy.cleanup_of_none _ unknown]
  exact absorb_of_silent (by simp [wf.idle]) (proxy_idle wf)

theorem step_device (qmi : Qmi) : s.step (.device qmi) = s := by
  rw [step]
  split
  · rfl
  next other =>
    rw [Proxy.recvQmiFromDev, if_neg wf.server]
    by_cases ctl : qmi.qmiType = qmuxTypeCtl
    · have noResponse : qmi.ctlFlags ≠ qmictlCtlFlagRsp := by simpa [isCtlResponse, ctl] using other
      -- An indication is not recognised: its service is compared with the flag.
      have noIndication : qmi.qmiType ≠ qmictlCtlFlagInd := by rw [ctl]; decide
      rw [if_pos ctl, if_neg noResponse, if_neg noIndication]
      exact absorb_of_silent (by simp [wf.idle]) (proxy_idle wf)
    · rw [if_neg ctl]
      exact absorb_of_silent (by simp [Proxy.routeService, wf.idle]) (proxy_idle wf)

/-- A client's message either is a control request that is put on the list, or changes
nothing. -/
theorem step_client {fd : Int} {con : Connection} (qmi : Qmi)
    (found : s.proxy.connections.find? (·.clientFd = fd) = some con) :
    let msg : ProxyMsg := ⟨con.clientFd, qmi, .client con.ident s.nextRequest⟩
    let new := if s.proxy.ctlMsg = [] then [msg] else []
    s.step (.client fd qmi) = s ∨
      qmi.qmiType = qmuxTypeCtl ∧ s.step (.client fd qmi) =
        { s with
          proxy := { s.proxy with ctlMsg := s.proxy.ctlMsg ++ [msg] }
          outstanding := s.outstanding ++ new
          written := s.written ++ new.map ProxyMsg.origin
          requested := s.requested ++ [(con.ident, s.nextRequest)]
          nextRequest := s.nextRequest + 1 } := by
  intro msg new
  simp only [step, found, client]
  by_cases whole : qmi.hdrLength + 1 = qmi.length
  · rw [if_pos whole]
    rw [Proxy.recvQmiFromClient]
    rw [if_neg wf.server]
    by_cases ctl : qmi.qmiType = qmuxTypeCtl
    · by_cases sync : qmi.qmictlType = qmictlSyncReq
      · -- Refused.
        left
        simp only [ctl, sync, if_true, ne_eq, not_true, and_false, if_false]
        exact absorb_of_silent (by simp [wf.idle]) (proxy_idle wf)
      · right
        by_cases empty : s.proxy.ctlMsg = [] <;>
          simp [ctl, sync, absorb, Proxy.addCtlMsg, wf.idle, empty, new, msg, controls]
    · -- Another service: passed on to the modem.
      left
      simp only [ctl, false_and, if_false]
      exact absorb_of_silent (by simp [wf.idle]) (proxy_idle wf)
  · left
    rw [if_neg whole]

omit wf in
theorem recv_answer (server : s.proxy.serverFd ≠ -1) (request body : Qmi) :
    s.proxy.recvQmiFromDev (answer request body) = s.proxy.ctlResponse (answer request body) := by
  have ctl : (answer request body).qmiType = qmuxTypeCtl := rfl
  have response : (answer request body).ctlFlags = qmictlCtlFlagRsp := rfl
  rw [Proxy.recvQmiFromDev, if_neg server, if_pos ctl, if_pos response]

/-- What a connection with a given file descriptor records of a response. -/
def recorded (connections : List Connection) (fd : Int) (rsp : Qmi) : List Connection :=
  connections.map fun con => if con.clientFd = fd then Proxy.recordResponse con rsp else con

omit wf in
theorem recorded_of_none {connections : List Connection} {fd : Int} (rsp : Qmi)
    (nobody : ∀ con ∈ connections, con.clientFd ≠ fd) : recorded connections fd rsp = connections := by
  refine (List.map_congr_left fun con member => ?_).trans (List.map_id _)
  rw [if_neg (nobody con member), id]

omit wf in
theorem of_mem_recorded {connections : List Connection} {fd : Int} {rsp : Qmi} {con : Connection}
    (member : con ∈ recorded connections fd rsp) :
    ∃ old ∈ connections, old.clientFd = con.clientFd ∧ old.ident = con.ident := by
  obtain ⟨old, live, rfl⟩ := List.mem_map.mp member
  refine ⟨old, live, ?_, ?_⟩ <;> split_ifs <;> simp

/-- The answer to the head of the list. No connection has the file descriptor of the server, so
that the proxy's own requests are answered to nobody. -/
theorem step_response {msg : ProxyMsg} {rest queue : List ProxyMsg} (body : Qmi)
    (oldest : s.outstanding = msg :: rest) (head : s.proxy.ctlMsg = msg :: queue) :
    s.step (.response body) =
      { s with
        proxy := { s.proxy with
          connections := recorded s.proxy.connections msg.clientFd (answer msg.qmi body)
          ctlMsg := queue }
        outstanding := rest ++ queue.head?.toList
        written := s.written ++ queue.head?.toList.map ProxyMsg.origin
        delivered := s.delivered ++ (s.proxy.connections.filter (·.clientFd = msg.clientFd)).map
          fun con => (con.ident, msg.origin)
        allocated := settle s.allocated msg.qmi (answer msg.qmi body) } := by
  have fits : s.proxy.ctlResponse (answer msg.qmi body) =
      (if msg.clientFd = s.proxy.serverFd then s.proxy
        else s.proxy.routeResponse msg.clientFd (answer msg.qmi body)).nextCtlMsg :=
    Proxy.ctlResponse_eq _ head rfl rfl
  simp only [step, oldest, respond, recv_answer wf.server, fits]
  -- The proxy does not even look for a connection for its own requests.
  by_cases own : msg.clientFd = s.proxy.serverFd
  · have stranger : ∀ con ∈ s.proxy.connections, con.clientFd ≠ msg.clientFd := by
      intro con member same
      exact wf.foreign (own ▸ same ▸ List.mem_map_of_mem member)
    have nobody : s.proxy.connections.filter (·.clientFd = msg.clientFd) = [] := by
      simpa using stranger
    rw [if_pos own, recorded_of_none _ stranger, nobody]
    simp [absorb, Proxy.nextCtlMsg, head, wf.idle]
  · rw [if_neg own]
    simp [absorb, Proxy.nextCtlMsg, Proxy.routeResponse, head, wf.idle, recorded]

theorem find?_of_mem {con : Connection} (live : con ∈ s.proxy.connections) :
    s.proxy.connections.find? (·.clientFd = con.clientFd) = some con := by
  cases found : s.proxy.connections.find? (·.clientFd = con.clientFd) with
  | none => simpa using List.find?_eq_none.mp found con live
  | some other =>
    have same : other.clientFd = con.clientFd := by simpa using List.find?_some found
    rw [List.inj_on_of_nodup_map wf.fds (List.mem_of_find?_eq_some found) live same]

theorem step_wellFormed (e : Event) : (s.step e).WellFormed := by
  cases e with
  | connect fd =>
    rw [step]
    split
    · exact wf
    next free =>
      simp only [InUse, not_or] at free
      -- Numbers are given out in order, so that the next one is new.
      have fresh : s.nextConnection ∉ s.proxy.connections.map Connection.ident := by
        simp only [List.mem_map, not_exists, not_and]
        exact fun con member => Nat.ne_of_lt (wf.numbered con member)
      refine ⟨wf.idle, wf.server, ?_, ?_, ?_, ?_⟩
      · simpa [Proxy.acceptQmiConnection, List.nodup_append, wf.fds] using free.2
      · simpa [Proxy.acceptQmiConnection, Ne.symm free.1] using wf.foreign
      · simpa [Proxy.acceptQmiConnection, List.nodup_append, wf.idents] using fresh
      · intro con member
        rcases List.mem_append.mp member with old | new
        · exact Nat.lt_succ_of_lt (wf.numbered con old)
        · rw [List.mem_singleton.mp new]
          exact Nat.lt_succ_self _
  | disconnect fd =>
    cases found : s.proxy.connections.find? (·.clientFd = fd) with
    | none => rw [step_disconnect_of_none wf found]; exact wf
    | some con =>
      rw [step_disconnect wf found]
      have sub : (s.proxy.connections.filter (·.clientFd ≠ fd)).Sublist s.proxy.connections :=
        List.filter_sublist
      exact ⟨wf.idle, wf.server, wf.fds.sublist (sub.map _),
        fun member => wf.foreign ((sub.map _).subset member), wf.idents.sublist (sub.map _),
        fun con member => wf.numbered con (sub.subset member)⟩
  | client fd qmi =>
    cases found : s.proxy.connections.find? (·.clientFd = fd) with
    | none => simp only [step, found]; exact wf
    | some con =>
      rcases step_client wf qmi found with same | ⟨_, taken⟩
      · rw [same]; exact wf
      · rw [taken]
        exact ⟨wf.idle, wf.server, wf.fds, wf.foreign, wf.idents, wf.numbered⟩
  | response body =>
    rw [step]
    split
    · exact wf
    next msg rest _ =>
      -- At most the client lists change, whatever response it is.
      obtain ⟨server, f, fds, idents, connections⟩ :=
        s.proxy.ctlResponse_connections (answer msg.qmi body)
      rw [respond, recv_answer wf.server]
      have sameFds : (s.proxy.connections.map f).map Connection.clientFd =
          s.proxy.connections.map Connection.clientFd := by simp [fds]
      have sameIdents : (s.proxy.connections.map f).map Connection.ident =
          s.proxy.connections.map Connection.ident := by simp [idents]
      refine ⟨rfl, ?_, ?_, ?_, ?_, ?_⟩ <;> simp only [absorb, connections, server]
      · exact wf.server
      · rw [sameFds]
        exact wf.fds
      · rw [sameFds]
        exact wf.foreign
      · rw [sameIdents]
        exact wf.idents
      · intro con member
        obtain ⟨old, live, rfl⟩ := List.mem_map.mp member
        rw [idents]
        exact wf.numbered old live
  | device qmi => rw [step_device wf]; exact wf

end

theorem init_wellFormed (serverFd : Nat) : (System.init serverFd).WellFormed where
  idle := rfl
  server := by
    change (serverFd : Int) ≠ -1
    omega
  fds := List.nodup_nil
  foreign := List.not_mem_nil
  idents := List.nodup_nil
  numbered := by simp [System.init]

theorem run_wellFormed (serverFd : Nat) (events : List Event) :
    (run step (System.init serverFd) events).WellFormed :=
  run_invariant step WellFormed (fun _ e wf => step_wellFormed wf e) _ (init_wellFormed serverFd)
    events

/-! ### The head of the list

The proxy is right to take the head of the list for the request at the modem as long as no
connection is closed while the head is its own.
-/

def HeadWaits (s : System) : Event → Prop
  | .disconnect fd => s.InUse fd → ∀ msg ∈ s.proxy.ctlMsg.head?, msg.clientFd ≠ fd
  | _ => True

theorem step_single {s : System} (wf : s.WellFormed)
    (single : s.outstanding = s.proxy.ctlMsg.head?.toList) {e : Event} (waits : s.HeadWaits e) :
    (s.step e).outstanding = (s.step e).proxy.ctlMsg.head?.toList := by
  cases e with
  | connect fd =>
    rw [step]
    split <;> exact single
  | disconnect fd =>
    cases found : s.proxy.connections.find? (·.clientFd = fd) with
    | none => rw [step_disconnect_of_none wf found, single]
    | some con =>
      have isFd : con.clientFd = fd := by simpa using List.find?_some found
      have kept : ∀ msg ∈ s.proxy.ctlMsg.head?, msg.clientFd ≠ fd :=
        waits (.inr (isFd ▸ List.mem_map_of_mem (List.mem_of_find?_eq_some found)))
      rw [step_disconnect wf found]
      -- Into an empty list the first release request is written at once.
      cases list : s.proxy.ctlMsg with
      | nil => simp [single, list]
      | cons msg rest =>
        have other : msg.clientFd ≠ fd := kept msg (by rw [list]; rfl)
        simp [single, list, other]
  | client fd qmi =>
    cases found : s.proxy.connections.find? (·.clientFd = fd) with
    | none =>
      simp only [step, found]
      exact single
    | some con =>
      rcases step_client wf qmi found with same | ⟨_, taken⟩
      · rw [same, single]
      · rw [taken]
        cases list : s.proxy.ctlMsg <;> simp [single, list]
  | response body =>
    cases list : s.proxy.ctlMsg with
    | nil =>
      have none : s.outstanding = [] := by simp [single, list]
      simp only [step, none]
      simp [list]
    | cons msg queue =>
      have oldest : s.outstanding = [msg] := by simp [single, list]
      rw [step_response wf body oldest list]
      rfl
  | device qmi => rw [step_device wf, single]

end System
end LorawanFeeds.QmiProxy
