import LorawanFeeds.Lib.IdTable
import LorawanFeeds.QmiProxy.Proxy

/-!
# The QRTR proxy

`quectel-qrtr-proxy.c` lets several QMI clients share a modem that is reached by QRTR packets. The
modem announces its services; the proxy itself gives out the client ids, and a port for each
of them.
-/
namespace LorawanFeeds.QrtrProxy

open Lib QmiProxy

/-- `QRTR_SERVICE`. -/
structure Service where
  service : UInt32
  version : UInt32
  instance_ : UInt32
  node : UInt32
  port : UInt32
  srcNodeId : UInt32
  srcPortId : UInt32
  deriving DecidableEq, Repr

inductive ServerChange where
  | newServer
  | delServer
  deriving DecidableEq, Repr

/-- A control packet about a server: what `handle_server_change` reads of it. -/
structure ServerPkt where
  type : ServerChange
  srcNodeId : UInt32
  srcPortId : UInt32
  service : UInt32
  instance_ : UInt32
  node : UInt32
  port : UInt32
  deriving DecidableEq, Repr

/-- `QRTR_PROXY_CLINET`. -/
structure Client where
  qmiType : UInt8
  clientId : UInt8
  nodeId : UInt32
  portId : Nat
  deriving DecidableEq, Repr

/-- `QRTR_PROXY_CONNECTION`. -/
structure Connection where
  clientFd : Int
  clients : List Client
  deriving DecidableEq, Repr

inductive Output where
  /-- The answer to GET_CLIENT_ID, a failure if the client id is zero. -/
  | getClientIdRsp (clientFd : Int) (transactionId qmiType clientId : UInt8)
  | releaseClientIdRsp (clientFd : Int) (transactionId qmiType clientId : UInt8)
  | getVersionRsp (clientFd : Int) (transactionId : UInt8)
  /-- `ctrl_cmd_del_client`, with the node that it is sent to, if not to all. -/
  | delClient (nodeId : UInt32) (portId : Nat) (dstNode : Option UInt32)
  /-- A client's message, from its port to that of the service. -/
  | data (qmi : Qmi) (nodeId : UInt32) (portId : Nat) (dstNode dstPort : UInt32)
  deriving DecidableEq, Repr

structure Proxy where
  nodeModem : UInt32 := 3
  services : List Service := []
  connections : List Connection := []
  clientBitmap : List UInt8 := List.replicate 0xf0 0
  portBitmap : List UInt8 := List.replicate 0xff0 0
  out : List Output := []
  deriving DecidableEq, Repr

def qmictlGetVersion : Nat := 0x0021

/-! ### Services -/

/-- `find_qrtr_service`. -/
def findQrtrService (services : List Service) (qmiType : UInt8) : Option Service :=
  services.find? (·.service = qmiType.toUInt32)

/-- The entry that `handle_server_change` makes up of a packet. -/
def ServerPkt.entry (pkt : ServerPkt) : Service where
  service := pkt.service
  version := pkt.instance_ &&& 0xff
  instance_ := pkt.instance_ >>> 8
  node := pkt.node
  port := pkt.port
  srcNodeId := pkt.srcNodeId
  srcPortId := pkt.srcPortId

/-- `handle_server_change`. For a server that goes, the new entry is taken out of the list, which it
is not in. -/
def handleServerChange (nodeModem : UInt32) (services : List Service) (pkt : ServerPkt) :
    List Service :=
  if pkt.node ≠ nodeModem then services
  else match pkt.type with
    | .newServer => services ++ [pkt.entry]
    | .delServer => services

/-! ### Connections -/

/-- A change to the first connection with a file descriptor. -/
def updateFirst (fd : Int) (f : Connection → Connection) : List Connection → List Connection
  | [] => []
  | con :: rest => if con.clientFd = fd then f con :: rest else con :: updateFirst fd f rest

namespace Connection

/-- The first client of a connection with a service and a client id. -/
def client? (con : Connection) (qmiType clientId : UInt8) : Option Client :=
  con.clients.find? fun client => client.qmiType = qmiType ∧ client.clientId = clientId

end Connection

namespace Proxy

/-- The first connection with a file descriptor. -/
def connection? (p : Proxy) (fd : Int) : Option Connection :=
  p.connections.find? (·.clientFd = fd)

/-- `alloc_qrtr_client_id`, with the client id that it returns. A number that cannot be had is zero;
the client is added all the same. -/
def allocQrtrClientId (p : Proxy) (fd : Int) (qmiType : UInt8) : Proxy × UInt8 :=
  let id := allocId p.clientBitmap
  let port := allocId p.portBitmap
  let client : Client := ⟨qmiType, id.2.toUInt8, 1, port.2⟩
  ({ p with
    clientBitmap := id.1
    portBitmap := port.1
    connections := updateFirst fd (fun con => { con with clients := con.clients ++ [client] })
      p.connections }, client.clientId)

/-- The entry that a client takes with it. -/
def dropClient (p : Proxy) (fd : Int) (client : Client) : Proxy :=
  { p with
    clientBitmap := freeId p.clientBitmap client.clientId.toNat
    portBitmap := freeId p.portBitmap client.portId
    connections := updateFirst fd (fun con => { con with clients := con.clients.erase client })
      p.connections
    out := p.out ++ [.delClient client.nodeId client.portId
      ((findQrtrService p.services client.qmiType).map Service.srcNodeId)] }

/-- `release_qrtr_client_id`. -/
def releaseQrtrClientId (p : Proxy) (fd : Int) (qmiType clientId : UInt8) : Proxy :=
  match (p.connection? fd).bind (·.client? qmiType clientId) with
  | none => p
  | some client => p.dropClient fd client

/-- `accept_qrtr_connection`. -/
def acceptQrtrConnection (p : Proxy) (fd : Int) : Proxy :=
  { p with connections := p.connections ++ [⟨fd, []⟩] }

/-- `cleanup_qrtr_connection`. Each turn of its `while` loop releases the head of the list, which is
the first client with its service and client id. -/
def cleanupQrtrConnection (p : Proxy) (fd : Int) : Proxy :=
  match p.connection? fd with
  | none => p
  | some con =>
    let p := con.clients.foldl (fun p client =>
      p.releaseQrtrClientId fd client.qmiType client.clientId) p
    { p with connections := p.connections.eraseP (·.clientFd = fd) }

/-- The answer to GET_CLIENT_ID, for a service that has been announced or not. -/
def getClientId (p : Proxy) (fd : Int) (qmi : Qmi) : Proxy :=
  let qmiType := qmi.byte 15
  let (p, clientId) := if (findQrtrService p.services qmiType).isSome
    then p.allocQrtrClientId fd qmiType else (p, 0)
  { p with out := p.out ++ [.getClientIdRsp fd qmi.transactionId qmiType clientId] }

/-- The answer to RELEASE_CLIENT_ID. -/
def releaseClientId (p : Proxy) (fd : Int) (qmi : Qmi) : Proxy :=
  let pair := requestPair qmi
  let p := p.releaseQrtrClientId fd pair.1 pair.2
  { p with out := p.out ++ [.releaseClientIdRsp fd qmi.transactionId pair.1 pair.2] }

/-- A message of another service is sent to its port. -/
def sendData (p : Proxy) (con : Connection) (qmi : Qmi) : Proxy :=
  match con.client? qmi.qmiType qmi.clientId, findQrtrService p.services qmi.qmiType with
  | some client, some srv =>
    if srv.service = 0 then p
    else { p with out := p.out ++ [.data qmi client.nodeId client.portId srv.node srv.port] }
  | _, _ => p

/-- `recv_qmi_from_client`. -/
def recvQmiFromClient (p : Proxy) (qmi : Qmi) (fd : Int) : Proxy :=
  match p.connection? fd with
  | none => p
  | some con =>
    if qmi.qmiType = qmuxTypeCtl then
      if qmi.qmictlType = qmictlSyncReq then p
      else if qmi.qmictlType = qmictlGetClientId then p.getClientId fd qmi
      else if qmi.qmictlType = qmictlReleaseClientId then p.releaseClientId fd qmi
      else if qmi.qmictlType = qmictlGetVersion then
        { p with out := p.out ++ [.getVersionRsp fd qmi.transactionId] }
      else p
    else p.sendData con qmi

/-- The clients of all connections. -/
def clients (p : Proxy) : List Client := p.connections.flatMap Connection.clients

end Proxy

inductive Event where
  | connect (fd : Int)
  | disconnect (fd : Int)
  /-- A client's message of the length that it gives. -/
  | client (fd : Int) (qmi : Qmi)
  /-- The modem announces a server, or that it has gone. -/
  | server (pkt : ServerPkt)
  deriving DecidableEq, Repr

def Proxy.step (p : Proxy) : Event → Proxy
  | .connect fd => p.acceptQrtrConnection fd
  | .disconnect fd => p.cleanupQrtrConnection fd
  | .client fd qmi => p.recvQmiFromClient qmi fd
  | .server pkt => { p with services := handleServerChange p.nodeModem p.services pkt }

end LorawanFeeds.QrtrProxy
