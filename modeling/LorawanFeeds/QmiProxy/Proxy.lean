import Mathlib.Data.List.Basic
import Mathlib.Tactic.SplitIfs

/-!
# The QMI proxy

`quectel-qmi-proxy.c` lets several clients share the QMI channel of one modem. Messages of the
control service are queued and written to the modem one at a time; the head of the queue is
taken for the request the next control response belongs to. All other messages pass through.
-/
namespace LorawanFeeds.QmiProxy

/-! ### Messages -/

abbrev Qmi := List UInt8

def qmuxTypeCtl : UInt8 := 0x00
def qmictlFlagRequest : UInt8 := 0x00
def qmictlCtlFlagRsp : UInt8 := 0x01
def qmictlCtlFlagInd : UInt8 := 0x02
def qmictlGetClientId : Nat := 0x0022
def qmictlReleaseClientId : Nat := 0x0023
def qmictlRevokeClientIdInd : Nat := 0x0024
def qmictlSyncReq : Nat := 0x0027

namespace Qmi

def byte (m : Qmi) (i : Nat) : UInt8 := m.getD i 0

/-- `le16toh` of two bytes. -/
def word (m : Qmi) (i : Nat) : Nat := (m.byte i).toNat + 256 * (m.byte (i + 1)).toNat

/-- `QMIHdr.Length`. -/
def hdrLength (m : Qmi) : Nat := m.word 1

/-- `QMIHdr.QMIType`. -/
def qmiType (m : Qmi) : UInt8 := m.byte 4

/-- `QMIHdr.ClientId`. -/
def clientId (m : Qmi) : UInt8 := m.byte 5

/-- `CTLMsg.QMICTLMsgHdr.CtlFlags`. -/
def ctlFlags (m : Qmi) : UInt8 := m.byte 6

/-- `CTLMsg.QMICTLMsgHdr.TransactionId`. -/
def transactionId (m : Qmi) : UInt8 := m.byte 7

/-- `CTLMsg.QMICTLMsgHdr.QMICTLType`. -/
def qmictlType (m : Qmi) : Nat := m.word 8

/-- `QMIResult` and `QMIError` of a control response are both zero. -/
def succeeded (m : Qmi) : Bool := m.word 15 = 0 && m.word 17 = 0

end Qmi

/-- A client id of a service: `QMIType` and `ClientId`. -/
abbrev Pair := UInt8 × UInt8

/-- The pair of a GET_CLIENT_ID or RELEASE_CLIENT_ID response. -/
def responsePair (m : Qmi) : Pair := (m.byte 22, m.byte 23)

/-- The pair of a RELEASE_CLIENT_ID request. -/
def requestPair (m : Qmi) : Pair := (m.byte 15, m.byte 16)

/-- The RELEASE_CLIENT_ID request that the proxy makes up for a closed connection. -/
def releaseClientIdReq (pair : Pair) : Qmi :=
  [0x01, 16, 0, 0x00, qmuxTypeCtl, 0x00, qmictlFlagRequest, 255, 0x23, 0x00, 5, 0, 0x01, 2, 0,
    pair.1, pair.2]

/-! ### The lists of the proxy -/

/-- Which request a queued message is: the `request`-th one, taken from a connection, or one of
the proxy itself. The proxy does not read it. -/
inductive Origin where
  | client (connection request : Nat)
  | proxy
  deriving DecidableEq, Repr

/-- `QMI_PROXY_MSG`. -/
structure ProxyMsg where
  clientFd : Int
  qmi : Qmi
  origin : Origin
  deriving DecidableEq, Repr

/-- `QMI_PROXY_CONNECTION` with its list of clients. File descriptors are used again, so a
connection also has a number of its own, which the proxy does not read. -/
structure Connection where
  clientFd : Int
  clients : List Pair
  ident : Nat
  deriving DecidableEq, Repr

inductive Output where
  /-- A control request written to the modem. -/
  | control (msg : ProxyMsg)
  /-- Any other message written to the modem. -/
  | service (qmi : Qmi)
  /-- A message written to a client. -/
  | client (connection : Nat) (qmi : Qmi)
  deriving DecidableEq, Repr

structure Proxy where
  serverFd : Int
  connections : List Connection := []
  ctlMsg : List ProxyMsg := []
  syncDone : Bool := false
  modemResetFlag : Bool := false
  /-- What has been written since the event in progress began. -/
  out : List Output := []
  deriving DecidableEq, Repr

namespace Proxy

/-- `accept_qmi_connection`. -/
def acceptQmiConnection (p : Proxy) (clientFd : Int) (ident : Nat) : Proxy :=
  { p with connections := p.connections ++ [⟨clientFd, [], ident⟩] }

/-- The two lines that put a control request on the list: it is written at once if the list was
empty. -/
def addCtlMsg (p : Proxy) (msg : ProxyMsg) : Proxy :=
  { p with
    out := if p.ctlMsg = [] then p.out ++ [.control msg] else p.out
    ctlMsg := p.ctlMsg ++ [msg] }

/-- The `while` loop of `cleanup_qmi_connection` over the clients of a connection. -/
def releaseClients (p : Proxy) (clients : List Pair) (clientDisconnect : Bool) : Proxy :=
  if clientDisconnect then
    clients.foldl (fun p pair => p.addCtlMsg ⟨p.serverFd, releaseClientIdReq pair, .proxy⟩) p
  else p

/-- `cleanup_qmi_connection`. Of the queued messages of the connection only the first is
removed. -/
def cleanupQmiConnection (p : Proxy) (clientFd : Int) (clientDisconnect : Bool) : Proxy :=
  match p.connections.find? (·.clientFd = clientFd) with
  | none => p
  | some con =>
    let p := p.releaseClients con.clients clientDisconnect
    { p with
      -- Both loops end with a `break` behind the first match.
      ctlMsg := p.ctlMsg.eraseP (·.clientFd = clientFd)
      connections := p.connections.eraseP (·.clientFd = clientFd) }

/-- `get_client_id`. -/
def getClientId (con : Connection) (rsp : Qmi) : Connection :=
  if rsp.succeeded then { con with clients := con.clients ++ [responsePair rsp] } else con

/-- `release_client_id`. -/
def releaseClientId (con : Connection) (rsp : Qmi) : Connection :=
  if rsp.succeeded then { con with clients := con.clients.erase (responsePair rsp) } else con

/-- What a control response does to the connection it is sent to. -/
def recordResponse (con : Connection) (rsp : Qmi) : Connection :=
  if rsp.qmictlType = qmictlGetClientId then getClientId con rsp
  else if rsp.qmictlType = qmictlReleaseClientId then releaseClientId con rsp
  else con

/-- The loop over the connections that sends a control response to a file descriptor. -/
def routeResponse (p : Proxy) (clientFd : Int) (rsp : Qmi) : Proxy :=
  { p with
    out := p.out ++
      (p.connections.filter (·.clientFd = clientFd)).map fun con => .client con.ident rsp
    connections := p.connections.map fun con =>
      if con.clientFd = clientFd then recordResponse con rsp else con }

/-- Removing the head of the list and writing the next request. -/
def nextCtlMsg (p : Proxy) : Proxy :=
  { p with
    ctlMsg := p.ctlMsg.tail
    out := p.out ++ p.ctlMsg.tail.head?.toList.map .control }

/-- A control response. A response that does not fit the head of the list is dropped, but the
head is removed all the same. -/
def ctlResponse (p : Proxy) (rsp : Qmi) : Proxy :=
  match p.ctlMsg with
  | [] => p
  | msg :: _ =>
    let p :=
      -- A mismatch is logged; the response is lost.
      if msg.qmi.transactionId ≠ rsp.transactionId ∨ msg.qmi.qmictlType ≠ rsp.qmictlType then p
      -- The answer to a request of the proxy itself.
      else if msg.clientFd = p.serverFd then p
      else p.routeResponse msg.clientFd rsp
    p.nextCtlMsg

/-- The loop over all clients of all connections that a service message is sent to. -/
def routeService (p : Proxy) (qmi : Qmi) : Proxy :=
  { p with
    out := p.out ++ p.connections.flatMap fun con =>
      (con.clients.filter fun client =>
        qmi.qmiType = client.1 ∧ (qmi.clientId = 0 ∨ qmi.clientId = client.2)).map
          fun _ => .client con.ident qmi }

/-- `recv_qmi_from_dev`. The check for an indication compares the service with the flag, so
that it never succeeds behind the first check. -/
def recvQmiFromDev (p : Proxy) (qmi : Qmi) : Proxy :=
  if p.serverFd = -1 then { p with syncDone := true }
  else if qmi.qmiType = qmuxTypeCtl then
    if qmi.ctlFlags = qmictlCtlFlagRsp then p.ctlResponse qmi
    else if qmi.qmiType = qmictlCtlFlagInd then
      if qmi.qmictlType = qmictlRevokeClientIdInd then { p with modemResetFlag := true } else p
    else p
  else p.routeService qmi

/-- `recv_qmi_from_client`. -/
def recvQmiFromClient (p : Proxy) (qmi : Qmi) (clientFd : Int) (origin : Origin) : Proxy :=
  if p.serverFd = -1 then p
  else if qmi.qmiType = qmuxTypeCtl then
    -- A sync would reset the client ids of all clients, and is refused.
    if qmi.qmictlType = qmictlSyncReq then p
    else p.addCtlMsg ⟨clientFd, qmi, origin⟩
  else { p with out := p.out ++ [.service qmi] }

/-! ### What the operations come to -/

/-- The release requests for the clients of a closed connection. -/
def releases (serverFd : Int) (clients : List Pair) : List ProxyMsg :=
  clients.map fun pair => ⟨serverFd, releaseClientIdReq pair, .proxy⟩

theorem clientFd_of_releases {serverFd : Int} {clients : List Pair} {msg : ProxyMsg}
    (member : msg ∈ releases serverFd clients) : msg.clientFd = serverFd := by
  obtain ⟨pair, _, rfl⟩ := List.mem_map.mp member
  rfl

theorem origin_of_releases {serverFd : Int} {clients : List Pair} {msg : ProxyMsg}
    (member : msg ∈ releases serverFd clients) : msg.origin = .proxy := by
  obtain ⟨pair, _, rfl⟩ := List.mem_map.mp member
  rfl

theorem releaseClients_eq (p : Proxy) (clients : List Pair) :
    p.releaseClients clients true =
      { p with
        ctlMsg := p.ctlMsg ++ releases p.serverFd clients
        out := p.out ++
          (if p.ctlMsg = [] then (releases p.serverFd clients).head?.toList else []).map .control } := by
  rw [releaseClients]
  rw [if_pos rfl]
  induction clients generalizing p with
  | nil => simp [releases]
  | cons pair rest ih =>
    rw [List.foldl_cons, ih]
    -- Only the first request can find the list empty, and is written then.
    by_cases empty : p.ctlMsg = [] <;> simp [addCtlMsg, releases, empty]

theorem cleanup_eq (p : Proxy) {clientFd : Int} {con : Connection}
    (found : p.connections.find? (·.clientFd = clientFd) = some con) :
    p.cleanupQmiConnection clientFd true =
      { p with
        ctlMsg := (p.ctlMsg ++ releases p.serverFd con.clients).eraseP (·.clientFd = clientFd)
        connections := p.connections.eraseP (·.clientFd = clientFd)
        out := p.out ++ (if p.ctlMsg = [] then (releases p.serverFd con.clients).head?.toList
          else []).map .control } := by
  simp only [cleanupQmiConnection, found, releaseClients_eq]

theorem cleanup_of_none (p : Proxy) {clientFd : Int}
    (unknown : p.connections.find? (·.clientFd = clientFd) = none) :
    p.cleanupQmiConnection clientFd true = p := by
  simp only [cleanupQmiConnection, unknown]

/-- A control response that fits the head of the list. -/
theorem ctlResponse_eq (p : Proxy) {msg : ProxyMsg} {rest : List ProxyMsg} {rsp : Qmi}
    (head : p.ctlMsg = msg :: rest) (sameId : msg.qmi.transactionId = rsp.transactionId)
    (sameType : msg.qmi.qmictlType = rsp.qmictlType) :
    p.ctlResponse rsp =
      ((if msg.clientFd = p.serverFd then p else p.routeResponse msg.clientFd rsp).nextCtlMsg) := by
  simp [ctlResponse, head, sameId, sameType]

@[simp] theorem recordResponse_clientFd (con : Connection) (rsp : Qmi) :
    (recordResponse con rsp).clientFd = con.clientFd := by
  rw [recordResponse, getClientId, releaseClientId]
  split_ifs <;> rfl

@[simp] theorem recordResponse_ident (con : Connection) (rsp : Qmi) :
    (recordResponse con rsp).ident = con.ident := by
  rw [recordResponse, getClientId, releaseClientId]
  split_ifs <;> rfl

/-- A control response changes at most the client lists of the connections. -/
theorem ctlResponse_connections (p : Proxy) (rsp : Qmi) :
    (p.ctlResponse rsp).serverFd = p.serverFd ∧
      ∃ f : Connection → Connection, (∀ con, (f con).clientFd = con.clientFd) ∧
        (∀ con, (f con).ident = con.ident) ∧
          (p.ctlResponse rsp).connections = p.connections.map f := by
  have same : p.connections = p.connections.map id := by simp
  rw [ctlResponse]
  split
  · exact ⟨rfl, id, fun _ => rfl, fun _ => rfl, same⟩
  next msg _ _ =>
    dsimp only
    split_ifs
    · exact ⟨rfl, id, fun _ => rfl, fun _ => rfl, same⟩
    · exact ⟨rfl, id, fun _ => rfl, fun _ => rfl, same⟩
    · refine ⟨rfl, fun con => if con.clientFd = msg.clientFd then recordResponse con rsp else con,
        fun con => ?_, fun con => ?_, rfl⟩ <;> dsimp only <;> split_ifs <;> simp

end Proxy
end LorawanFeeds.QmiProxy
