import LorawanFeeds.Lib.Proc
import LorawanFeeds.QmiClient.Pairing

/-!
# Setting up a data call

`requestSetupDataCall` and `requestGetIPAddress` of `QMIThread.c`, and the step of `qmi_main`
that calls them. What the modem and the reader thread do while a request waits is an argument
of the request. A request that is still waiting when the argument ends has not returned.
-/
namespace LorawanFeeds.QmiClient

open Lib

def qmiwdsStartNetworkInterfaceReq : UInt16 := 0x0020
def qmiwdsGetRuntimeSettingsReq : UInt16 := 0x002D

inductive IpFamily where
  | v4
  | v6
  deriving DecidableEq, Repr

/-- A request of a function below: how it has ended, the state in which its wait began, and what
happened from there. -/
structure Answer where
  family : IpFamily
  type : UInt16
  returned : Return
  begun : State
  events : List Event

/-- The static variables of `QMIThread.c`, and the requests so far. -/
structure Client where
  qmi : State := {}
  transactionId : Nat := 0
  wdsConnectionIPv4Handle : UInt32 := 0
  wdsConnectionIPv6Handle : UInt32 := 0
  answers : List Answer := []

/-- What a request meets: the length of its message, or no memory for it; the device; and what
happens while it waits, which may depend on the state in which the wait begins. -/
structure Exchange where
  composed : Option UInt16
  device : Device
  during : State → List Event

/-- The request waits for ever, or at least until now. -/
inductive Blocked where
  | blocked

abbrev Request := Proc Client Blocked

namespace Client

def handle (c : Client) : IpFamily → UInt32
  | .v4 => c.wdsConnectionIPv4Handle
  | .v6 => c.wdsConnectionIPv6Handle

def setHandle (c : Client) (family : IpFamily) (handle : UInt32) : Client :=
  match family with
  | .v4 => { c with wdsConnectionIPv4Handle := handle }
  | .v6 => { c with wdsConnectionIPv6Handle := handle }

end Client

/-- `QmiThreadSendQMITimeout` once it waits: events are taken until it returns. -/
def await (s : State) : List Event → State
  | [] => s
  | e :: rest => if s.call = none then s else await (s.step e) rest

/-- `GetQMUXTransactionId`. -/
def getQMUXTransactionId : Request UInt16 := do
  Proc.modify fun c => { c with
    transactionId := if c.transactionId + 1 > 0xFFFF then 1 else c.transactionId + 1 }
  return (← Proc.get).transactionId.toUInt16

/-- `ComposeQMUXMsg`. -/
def composeQMUXMsg (qmiType : UInt8) (type : UInt16) (composed : Option UInt16) :
    Request (Option Qmi) := do
  let transactionId ← getQMUXTransactionId
  return composed.map fun length => { length, qmiType, transactionId, type }

/-- `QmiThreadSendQMITimeout` with a response asked for, as its callers use it. -/
def qmiThreadSendQMITimeout (family : IpFamily) (request : Option Qmi) (msecs : UInt32)
    (x : Exchange) : Request (Int × Option Qmi) := fun c =>
  match request with
  | none => (.ok (-einval, none), c)
  | some request =>
    let begun := c.qmi.step (.send (some request) true msecs x.device)
    let events := x.during begun
    let s := await begun events
    match s.call, s.returned.getLast? with
    | none, some r =>
      (.ok (r.ret, r.response.map Prod.snd),
        { c with qmi := s, answers := c.answers ++ [⟨family, request.type, r, begun, events⟩] })
    | _, _ => (.error .blocked, { c with qmi := s })

/-- The service of a family; the write to the device merges the two. -/
def IpFamily.qmiType : IpFamily → UInt8
  | .v4 => qmuxTypeWds
  | .v6 => qmuxTypeWdsIpv6

/-- `qmi_rsp_check_and_return`, or `qmi_rsp_check` and the same test again: the code to return
at once, or the response. -/
def qmiRspCheckAndReturn (err : Int) (response : Option Qmi) : Except Int Qmi :=
  match response with
  | none => .error err
  | some response =>
    if err < 0 then .error err
    else if response.qmuxResult ≠ 0 ∨ response.qmuxError ≠ 0 then
      .error response.qmuxError.toNat
    else .ok response

/-- The request, the wait and the check, as the functions below begin. -/
def exchange (family : IpFamily) (type : UInt16) (msecs : UInt32) (x : Exchange) :
    Request (Except Int Qmi) := do
  let request ← composeQMUXMsg family.qmiType type x.composed
  let (err, response) ← qmiThreadSendQMITimeout family request msecs x
  return qmiRspCheckAndReturn err response

/-- `requestSetupDataCall`. -/
def requestSetupDataCall (family : IpFamily) (x : Exchange) : Request Int := do
  match ← exchange family qmiwdsStartNetworkInterfaceReq (120 * 1000) x with
  | .error err => return err
  | .ok response =>
    Proc.modify fun c => c.setHandle family response.handle
    return 0

/-- `requestGetIPAddress`, up to the addresses. -/
def requestGetIPAddress (family : IpFamily) (x : Exchange) : Request Int := do
  -- The family has no data call: there is nothing to ask for.
  if (← Proc.get).handle family = 0 then return 0
  else
    match ← exchange family qmiwdsGetRuntimeSettingsReq (30 * 1000) x with
    | .error err => return err
    | .ok _ => return 0

/-! ### The start event of `qmi_main` -/

inductive PktData where
  | unknow
  | disconnected
  | connected
  | suspended
  | authenticating
  deriving DecidableEq, Repr

/-- The variables of `qmi_main` and the members of the profile that its start event uses. -/
structure Main where
  client : Client := {}
  enableIpv4 : Bool := true
  enableIpv6 : Bool := false
  user : Option String := none
  password : Option String := none
  auth : Int := 0
  loopbackState : Int := 0
  psAttachedState : UInt8 := 1
  ipv4ConnectionStatus : PktData := .unknow
  ipv6ConnectionStatus : PktData := .unknow
  setupCallFail : Nat := 0
  setupCallAllowTime : Nat := 0
  alarm : Nat := 0

/-- What a start event meets: the clock when it is read, and the requests in their order. -/
structure Start where
  clock : Nat → Nat
  setupIpv4 : Exchange
  setupIpv4Again : Exchange
  addressIpv4 : Exchange
  setupIpv6 : Exchange
  addressIpv6 : Exchange

abbrev Step := Proc Main Blocked

/-- A request of the QMI operations. -/
def Step.request {α : Type} (x : Request α) : Step α := fun m =>
  ((x m.client).1, { m with client := (x m.client).2 })

/-- `user && user[0]`. -/
def given (text : Option String) : Bool := text.any (· ≠ "")

/-- The IPv4 call once more with the other kind of authentication, which stays if it works. -/
def setupIpv4Again (start : Start) (qmierr : Int) : Step Int := do
  let m ← Proc.get
  if 0 < qmierr ∧ given m.user ∧ given m.password then
    Proc.modify fun m => { m with auth := if m.auth = 1 then 2 else 1 }
    let qmierr ← Step.request (requestSetupDataCall .v4 start.setupIpv4Again)
    Proc.when (qmierr ≠ 0) (Proc.modify fun now => { now with auth := m.auth })
    return qmierr
  else return qmierr

/-- The IPv4 call. -/
def startIpv4 (start : Start) : Step Unit := do
  let qmierr ← Step.request (requestSetupDataCall .v4 start.setupIpv4)
  let qmierr ← setupIpv4Again start qmierr
  Proc.when (qmierr = 0) do
    let qmierr ← Step.request (requestGetIPAddress .v4 start.addressIpv4)
    Proc.when (qmierr = 0) (Proc.modify fun m => { m with ipv4ConnectionStatus := .connected })

/-- The IPv6 call. With the QMI operations it is made on its own. -/
def startIpv6 (start : Start) : Step Unit := do
  let qmierr ← Step.request (requestSetupDataCall .v6 start.setupIpv6)
  Proc.when (qmierr = 0) do
    let qmierr ← Step.request (requestGetIPAddress .v6 start.addressIpv6)
    Proc.when (qmierr = 0) (Proc.modify fun m => { m with ipv6ConnectionStatus := .connected })

def allowTime (setupCallFail : Nat) : Nat := [5, 10, 20, 40, 60].getD setupCallFail 60

/-- The end of the start event: when to try again. -/
def Main.schedule (m : Main) (start : Start) : Main :=
  if (m.enableIpv4 ∧ m.ipv4ConnectionStatus = .disconnected) ∨
      (m.enableIpv6 ∧ m.ipv6ConnectionStatus = .disconnected) then
    { m with
      setupCallFail := m.setupCallFail + 1
      alarm := allowTime m.setupCallFail
      setupCallAllowTime := allowTime m.setupCallFail * 1000 + start.clock 2 }
  else if m.ipv4ConnectionStatus = .connected ∨ m.ipv6ConnectionStatus = .connected then
    { m with setupCallFail := 0, setupCallAllowTime := start.clock 2 }
  else m

/-- `case SIG_EVENT_START`. -/
def sigEventStart (start : Start) : Step Unit := do
  let m ← Proc.get
  if m.psAttachedState ≠ 1 ∧ m.loopbackState = 0 then return ()
  else if m.setupCallAllowTime > start.clock 0 then
    Proc.modify fun m => { m with alarm := (m.setupCallAllowTime - start.clock 1 + 999) / 1000 }
  else
    Proc.when (m.enableIpv4 ∧ m.ipv4ConnectionStatus ≠ .connected) (startIpv4 start)
    Proc.when (m.enableIpv6 ∧ m.ipv6ConnectionStatus ≠ .connected) (startIpv6 start)
    Proc.modify fun m => m.schedule start

end LorawanFeeds.QmiClient
