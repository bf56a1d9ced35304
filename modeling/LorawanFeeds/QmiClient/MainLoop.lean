import Mathlib.Logic.Function.Basic
import LorawanFeeds.Lib.Run
import LorawanFeeds.QmiClient.Confirmation

/-!
# The event loop of the connection manager

`qmi_main` of `main.c` with the QMI operations. A request is known here by how
`QmiThreadSendQMITimeout` has ended, which `DataCall` derives from what happens while it waits.
The signals that the loop sends to itself come back as events of their own, in any order and
among those of the timer and of the reader thread.

Beside the variables of the program, a session keeps what an observer at the modem would see:
the data calls that this process has started and that are up.
-/
namespace LorawanFeeds.QmiClient

open Lib

/-! ### The requests -/

/-- How `QmiThreadSendQMITimeout` has ended: what it returns, and the response. -/
structure Reply where
  err : Int
  response : Option Qmi
  deriving DecidableEq, Repr

namespace Reply

def checked (r : Reply) : Except Int Qmi := qmiRspCheckAndReturn r.err r.response

/-- What a function that only checks its reply returns. -/
def code (r : Reply) : Int :=
  match r.checked with
  | .ok _ => 0
  | .error err => err

def accepted (r : Reply) : Bool :=
  match r.checked with
  | .ok _ => true
  | .error _ => false

end Reply

/-- What `requestSetupDataCall` meets. If nothing comes back, the modem may still have started
a call. -/
structure Dialled where
  reply : Reply
  unanswered : Option UInt32 := none
  deriving DecidableEq, Repr

/-- The call that the modem has started. An answer of the modem is true. -/
def Dialled.started (d : Dialled) : Option UInt32 :=
  match d.reply.response with
  | some response => if response.Accepts then some response.handle else none
  | none => d.unanswered

/-- What `requestGetIPAddress` meets, with the IPv4 address of the response. -/
structure Addressed where
  reply : Reply
  ipv4Address : Option UInt32 := none
  deriving DecidableEq, Repr

/-- `profile->ipv4.Address` after the request. -/
def Addressed.address (a : Addressed) : UInt32 :=
  if a.reply.accepted then a.ipv4Address.getD 0 else 0

/-- A status with no name is as good as unknown: the code compares with two of them only. -/
def PktData.ofByte (b : UInt8) : PktData :=
  if b = 1 then .disconnected else if b = 2 then .connected else if b = 3 then .suspended
  else if b = 4 then .authenticating else .unknow

/-- `QMIWDS_PKT_SRVC_TLV`; the second byte is there if the length says so. -/
structure PktSrvc where
  connectionStatus : UInt8
  reconfigReqd : Option UInt8 := none
  deriving DecidableEq, Repr

/-- What `requestQueryDataCall` meets, with the TLV `0x01` of the response. -/
structure Queried where
  reply : Reply
  pktSrvc : Option PktSrvc := none
  deriving DecidableEq, Repr

namespace Queried

/-- What the answer is taken for. -/
def status (q : Queried) : PktData :=
  match q.pktSrvc with
  | none => .disconnected
  | some tlv =>
    if tlv.reconfigReqd = some 1 then .disconnected else PktData.ofByte tlv.connectionStatus

/-- The modem says that the family has no data call. -/
def reportsDown (q : Queried) : Bool :=
  q.pktSrvc.any fun tlv => PktData.ofByte tlv.connectionStatus = .disconnected

end Queried

/-- What `requestDeactivateDefaultPDP` meets. -/
inductive Stopped where
  /-- There is no memory for the request. -/
  | uncomposed
  /-- Nothing is written to the device: it is gone or not ready, or there is no client id. -/
  | unsent (err : Int)
  /-- The request has been written. -/
  | sent (reply : Reply)
  deriving DecidableEq, Repr

namespace Stopped

/-- The modem gets a STOP. -/
def issued : Stopped → Bool
  | .sent _ => true
  | .uncomposed | .unsent _ => false

/-- And it accepts it. -/
def accepted : Stopped → Bool
  | .sent reply => reply.accepted
  | .uncomposed | .unsent _ => false

/-- The same request without a client id. -/
def released : Stopped → Stopped
  | .uncomposed => .uncomposed
  | .unsent _ | .sent _ => .unsent (-enodev)

end Stopped

/-! ### The session -/

/-- A data call at the modem, and whether its end has been asked for. -/
structure ModemCall where
  handle : UInt32
  stopIssued : Bool := false
  deriving DecidableEq, Repr

/-- The handles and the calls at one moment. -/
structure Point where
  handle : IpFamily → UInt32
  calls : IpFamily → List ModemCall

structure Session where
  main : Main
  /-- `profile->ipv4.Address`. -/
  address : UInt32 := 0
  /-- `s_link`, once it is set: the families with a link. -/
  sLink : Option (Bool × Bool) := none
  /-- `qmi_main` has not been entered, or it has returned. -/
  left : Bool := true
  /-- The data calls that are up. -/
  calls : IpFamily → List ModemCall := fun _ => []
  /-- The calls of `requestSetupDataCall`, with the handle that was stored. -/
  setups : List (IpFamily × UInt32) := []
  /-- The moments after each request. -/
  points : List Point := []

def Main.setStatus (m : Main) (family : IpFamily) (status : PktData) : Main :=
  match family with
  | .v4 => { m with ipv4ConnectionStatus := status }
  | .v6 => { m with ipv6ConnectionStatus := status }

def Main.enabled (m : Main) : IpFamily → Bool
  | .v4 => m.enableIpv4
  | .v6 => m.enableIpv6

namespace Session

def handle (s : Session) (family : IpFamily) : UInt32 := s.main.client.handle family

def status (s : Session) (family : IpFamily) : PktData := s.main.status family

def setHandle (s : Session) (family : IpFamily) (handle : UInt32) : Session :=
  { s with main := { s.main with client := s.main.client.setHandle family handle } }

def setStatus (s : Session) (family : IpFamily) (status : PktData) : Session :=
  { s with main := s.main.setStatus family status }

def setCalls (s : Session) (family : IpFamily) (calls : List ModemCall) : Session :=
  { s with calls := Function.update s.calls family calls }

def mark (s : Session) : Session := { s with points := s.points ++ [⟨s.handle, s.calls⟩] }

/-- The modem after a START: one call more, if it has started one. -/
def dialled (s : Session) (family : IpFamily) (d : Dialled) : Session :=
  match d.started with
  | none => s
  | some handle => s.setCalls family (s.calls family ++ [⟨handle, false⟩])

/-- The modem after a STOP has gone out for the stored handle. -/
def stopIssued (s : Session) (family : IpFamily) : Session :=
  s.setCalls family ((s.calls family).map fun call =>
    if call.handle = s.handle family then { call with stopIssued := true } else call)

/-- The call of a handle has ended. -/
def ended (s : Session) (family : IpFamily) (handle : UInt32) : Session :=
  s.setCalls family ((s.calls family).filter (·.handle ≠ handle))

end Session

abbrev Loop := Proc Session Empty

namespace Loop

/-- `requestSetupDataCall`. -/
def requestSetupDataCall (family : IpFamily) (d : Dialled) : Loop Int := do
  Proc.modify fun s => { s with setups := s.setups ++ [(family, s.handle family)] }
  Proc.modify fun s => s.dialled family d
  match d.reply.checked with
  | .error err =>
    Proc.modify Session.mark
    return err
  | .ok response =>
    Proc.modify fun s => (s.setHandle family response.handle).mark
    return 0

/-- `requestGetIPAddress`, up to the IPv6 address, the name servers and the like. -/
def requestGetIPAddress (family : IpFamily) (a : Addressed) : Loop Int := do
  Proc.when (family = .v4) (Proc.modify fun s => { s with address := 0 })
  if (← Proc.get).handle family = 0 then return 0
  else
    match a.reply.checked with
    | .error err => return err
    | .ok _ =>
      -- The IPv4 address is taken from the answer for either family.
      Proc.modify fun s => { s with address := a.ipv4Address.getD s.address }
      return 0

/-- `requestQueryDataCall` with the status variable of the family. -/
def requestQueryDataCall (family : IpFamily) (q : Queried) : Loop Int :=
  match q.reply.checked with
  | .error err => return err
  | .ok _ => do
    -- The modem has no call when it says so.
    Proc.when (q.reportsDown = true) (Proc.modify fun s => s.setCalls family [])
    Proc.modify fun s => s.setStatus family q.status
    Proc.when (q.status = .disconnected) (Proc.modify fun s => s.setHandle family 0)
    Proc.modify Session.mark
    return 0

/-- `requestDeactivateDefaultPDP`. -/
def requestDeactivateDefaultPDP (family : IpFamily) (x : Stopped) : Loop Int := do
  let s ← Proc.get
  if s.handle family = 0 then return 0
  else
    match x with
    | .uncomposed => return -einval
    | .unsent err => return err
    | .sent reply =>
      Proc.modify fun s => s.stopIssued family
      match reply.checked with
      | .error err =>
        Proc.modify Session.mark
        return err
      | .ok _ =>
        Proc.modify fun s => ((s.ended family (s.handle family)).setHandle family 0).mark
        return 0

end Loop

/-! ### `SIG_EVENT_START` -/

/-- What a start event meets: the clock when it is read, and the requests in their order. -/
structure Dialling where
  clock : Nat → Nat
  setupIpv4 : Dialled
  setupIpv4Again : Dialled
  addressIpv4 : Addressed
  setupIpv6 : Dialled
  addressIpv6 : Addressed

/-- The end of the start event: when to try again. -/
def Main.retryAt (m : Main) (clock : Nat) : Main :=
  if (m.enableIpv4 ∧ m.ipv4ConnectionStatus = .disconnected) ∨
      (m.enableIpv6 ∧ m.ipv6ConnectionStatus = .disconnected) then
    { m with
      setupCallFail := m.setupCallFail + 1
      alarm := allowTime m.setupCallFail
      setupCallAllowTime := allowTime m.setupCallFail * 1000 + clock }
  else if m.ipv4ConnectionStatus = .connected ∨ m.ipv6ConnectionStatus = .connected then
    { m with setupCallFail := 0, setupCallAllowTime := clock }
  else m

namespace Loop

def setStatus (family : IpFamily) (status : PktData) : Loop Unit :=
  Proc.modify fun s => s.setStatus family status

def onMain (f : Main → Main) : Loop Unit := Proc.modify fun s => { s with main := f s.main }

/-- The IPv4 call once more with the other kind of authentication, which stays if it works. -/
def setupIpv4Again (d : Dialling) (qmierr : Int) : Loop Int := do
  let s ← Proc.get
  if 0 < qmierr ∧ given s.main.user ∧ given s.main.password then
    onMain fun m => { m with auth := if m.auth = 1 then 2 else 1 }
    let qmierr ← requestSetupDataCall .v4 d.setupIpv4Again
    Proc.when (qmierr ≠ 0) (onMain fun m => { m with auth := s.main.auth })
    return qmierr
  else return qmierr

/-- The address of a call that is up, and the status that goes with it. -/
def startAddress (family : IpFamily) (a : Addressed) (qmierr : Int) : Loop Unit :=
  Proc.when (qmierr = 0) do
    let qmierr ← requestGetIPAddress family a
    Proc.when (qmierr = 0) (setStatus family .connected)

/-- The IPv4 call. -/
def startIpv4 (d : Dialling) : Loop Unit := do
  let qmierr ← requestSetupDataCall .v4 d.setupIpv4
  let qmierr ← setupIpv4Again d qmierr
  startAddress .v4 d.addressIpv4 qmierr

/-- The IPv6 call. With the QMI operations it is made on its own. -/
def startIpv6 (d : Dialling) : Loop Unit := do
  let qmierr ← requestSetupDataCall .v6 d.setupIpv6
  startAddress .v6 d.addressIpv6 qmierr

/-- `case SIG_EVENT_START`. -/
def sigEventStart (d : Dialling) : Loop Unit := do
  let s ← Proc.get
  if s.main.psAttachedState ≠ 1 ∧ s.main.loopbackState = 0 then return ()
  else if s.main.setupCallAllowTime > d.clock 0 then
    onMain fun m => { m with alarm := (m.setupCallAllowTime - d.clock 1 + 999) / 1000 }
  else
    Proc.when (s.main.enableIpv4 ∧ s.status .v4 ≠ .connected) (startIpv4 d)
    Proc.when (s.main.enableIpv6 ∧ s.status .v6 ≠ .connected) (startIpv6 d)
    onMain fun m => m.retryAt (d.clock 2)

end Loop

/-! ### `SIG_EVENT_CHECK` -/

/-- What a check meets. A registration request that fails leaves the state as it is; the requests
for signal strength, cells and coexistence are left out. -/
structure Checking where
  registration : Option UInt8
  queryIpv4 : Queried
  addressIpv4 : Addressed
  checkIpv4 : Addressed
  stopIpv4 : Stopped
  queryIpv6 : Queried

namespace Loop

/-- `check_ipv4_address`: whether the modem still has the address that is in use. -/
def checkIpv4Address (a : Addressed) : Loop Bool := do
  let oldAddress := (← Proc.get).address
  let err ← requestGetIPAddress .v4 a
  return err = 0 ∧ (← Proc.get).address = oldAddress

/-- `usbnet_link_change`, up to the DHCP client. -/
def usbnetLinkChange (v4 v6 : Bool) : Loop Unit := do
  let s ← Proc.get
  Proc.when (s.sLink ≠ some (v4, v6)) do
    Proc.modify fun s => { s with sLink := some (v4, v6) }
    Proc.when (v4 = false) (Proc.modify fun s => { s with address := 0 })

/-- A connected call without an address. -/
def fetchAddress (c : Checking) : Loop Unit := do
  let s ← Proc.get
  Proc.when (s.status .v4 = .connected ∧ s.address = 0) do
    let qmierr ← requestGetIPAddress .v4 c.addressIpv4
    Proc.when (qmierr ≠ 0) (setStatus .v4 .disconnected)

/-- The address in use is not that of the modem: the call is given up. -/
def compareAddress (c : Checking) : Loop Unit := do
  let s ← Proc.get
  Proc.when (s.status .v4 = .connected) do
    let same ← checkIpv4Address c.checkIpv4
    Proc.when (same = false) do
      let _ ← requestDeactivateDefaultPDP .v4 c.stopIpv4
      setStatus .v4 .disconnected

def checkIpv4 (c : Checking) : Loop Unit := do
  let s ← Proc.get
  if s.main.enableIpv4 ∧ s.status .v4 ≠ .disconnected then
    let err ← requestQueryDataCall .v4 c.queryIpv4
    if err = 0 then
      fetchAddress c
      compareAddress c
    else setStatus .v4 .disconnected
  else setStatus .v4 .disconnected

/-- The IPv6 call. A query that fails changes nothing here. -/
def checkIpv6 (c : Checking) : Loop Unit := do
  let s ← Proc.get
  if s.main.enableIpv6 ∧ s.status .v6 ≠ .disconnected then
    let _ ← requestQueryDataCall .v6 c.queryIpv6
  else setStatus .v6 .disconnected

/-- The link of the network interface follows the two statuses. -/
def checkLink : Loop Unit := do
  let s ← Proc.get
  if s.status .v4 = .disconnected ∧ s.status .v6 = .disconnected then usbnetLinkChange false false
  else
    Proc.when (s.status .v4 = .connected ∨ s.status .v6 = .connected) <|
      usbnetLinkChange (s.status .v4 = .connected) (s.status .v6 = .connected)

/-- `requestRegistrationState`, by what it leaves in the variable. -/
def requestRegistrationState (registration : Option UInt8) : Loop Unit :=
  onMain fun m => { m with psAttachedState := registration.getD m.psAttachedState }

/-- `case SIG_EVENT_CHECK`. -/
def sigEventCheck (c : Checking) : Loop Unit := do
  let s ← Proc.get
  Proc.when (s.main.psAttachedState ≠ 1) (requestRegistrationState c.registration)
  checkIpv4 c
  checkIpv6 c
  checkLink

end Loop

/-! ### The end of the loop, and the whole of it -/

/-- What the way out meets. -/
structure Quitting where
  stopIpv4 : Stopped
  stopIpv6 : Stopped

/-- The way out behind `deinit`, which has released the client ids. -/
def Quitting.released (q : Quitting) : Quitting := ⟨q.stopIpv4.released, q.stopIpv6.released⟩

namespace Loop

/-- `__main_quit`. -/
def mainQuit (q : Quitting) : Loop Unit := do
  let s ← Proc.get
  Proc.when (s.main.enableIpv4 = true) do
    let _ ← requestDeactivateDefaultPDP .v4 q.stopIpv4
  Proc.when (s.main.enableIpv6 = true) do
    let _ ← requestDeactivateDefaultPDP .v6 q.stopIpv6
  usbnetLinkChange false false
  Proc.modify fun s => { s with left := true }

/-- `case SIG_EVENT_STOP`. -/
def sigEventStop (first q : Quitting) : Loop Unit := do
  let s ← Proc.get
  Proc.when (s.main.enableIpv4 ∧ s.status .v4 = .connected) do
    let _ ← requestDeactivateDefaultPDP .v4 first.stopIpv4
  Proc.when (s.main.enableIpv6 ∧ s.status .v6 = .connected) do
    let _ ← requestDeactivateDefaultPDP .v6 first.stopIpv6
  usbnetLinkChange false false
  mainQuit q.released

/-- `RIL_UNSOL_RESPONSE_VOICE_NETWORK_STATE_CHANGED`. -/
def voiceNetworkStateChanged (registration : Option UInt8) (clock : Nat) : Loop Unit := do
  requestRegistrationState registration
  let s ← Proc.get
  Proc.when (s.main.psAttachedState ≠ 1) (onMain fun m => { m with setupCallAllowTime := clock })

/-- `RIL_UNSOL_DATA_CALL_LIST_CHANGED`. -/
def dataCallListChanged (clock : Nat) : Loop Unit := do
  let s ← Proc.get
  Proc.when (s.status .v4 = .connected ∨ s.status .v6 = .connected) <|
    -- From connect to disconnect: wait until the network is stable.
    onMain fun m => { m with setupCallAllowTime := clock + 1000 }

/-- `qmi_main` up to its loop: its variables begin anew, the static ones stay. -/
def enter (registration : Option UInt8) (loopbackState : Int) (clock : Nat) : Loop Unit := do
  onMain fun m => { m with
    loopbackState
    psAttachedState := registration.getD 0
    ipv4ConnectionStatus := .unknow
    ipv6ConnectionStatus := .unknow
    setupCallFail := 0
    setupCallAllowTime := clock }
  Proc.modify fun s => { s with left := false }

end Loop

inductive LoopEvent where
  | start (d : Dialling)
  | check (c : Checking)
  | stop (first q : Quitting)
  | voiceNetworkStateChanged (registration : Option UInt8) (clock : Nat)
  | dataCallListChanged (clock : Nat)
  | loopbackConfigInd (loopbackState : Int)
  /-- The device is gone or the modem resets, or `poll` fails or finds a descriptor hung up. -/
  | quit (q : Quitting)
  /-- The network or the modem ends a data call. -/
  | callEnds (family : IpFamily) (handle : UInt32)
  /-- `main` runs `qmi_main`, again if it has returned. -/
  | enter (registration : Option UInt8) (loopbackState : Int) (clock : Nat)

namespace Session

/-- What the program does on an event. -/
def handler : LoopEvent → Loop Unit
  | .start d => Loop.sigEventStart d
  | .check c => Loop.sigEventCheck c
  | .stop first q => Loop.sigEventStop first q
  | .voiceNetworkStateChanged registration clock =>
    Loop.voiceNetworkStateChanged registration clock
  | .dataCallListChanged clock => Loop.dataCallListChanged clock
  | .loopbackConfigInd loopbackState => Loop.onMain fun m => { m with loopbackState }
  | .quit q => Loop.mainQuit q
  | .callEnds family handle => Proc.modify fun s => s.ended family handle
  | .enter registration loopbackState clock => Loop.enter registration loopbackState clock

/-- The loop takes its events while it runs, and is entered while it does not. -/
def takes (s : Session) : LoopEvent → Bool
  | .callEnds _ _ => true
  | .enter _ _ _ => s.left
  | _ => !s.left

def step (s : Session) (e : LoopEvent) : Session := if s.takes e then (handler e s).2 else s

/-- A process that begins, with its profile: the handles are static variables. -/
def boot (m : Main) : Session := { main := { m with client := {} } }

end Session
end LorawanFeeds.QmiClient
