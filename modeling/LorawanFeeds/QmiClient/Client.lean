import Mathlib.Data.List.Basic

/-!
# The QMI client of the connection manager

`QmiThreadSendQMITimeout` and `QmiThreadRecvQMI` of `QMIThread.c`, the write to the device of
`QmiWwanCM.c` and the timed wait of `util.c`. One thread sends a request and waits for its
response, the other reads from the device. Both work under one mutex, which the waiting thread
gives up only inside `pthread_cond_timedwait`; so a send up to its first wait, the handling of
one message, and the way from one wait to the next are single steps.
-/
namespace LorawanFeeds.QmiClient

def qmuxTypeCtl : UInt8 := 0x00
def qmuxTypeWds : UInt8 := 0x01
def qmuxTypeNas : UInt8 := 0x03
def qmuxTypeWdsIpv6 : UInt8 := 0x11
def qmuxTypeWdsAdmin : UInt8 := 0x1A

def qmictlRevokeClientIdInd : UInt16 := 0x0024
def qminasServingSystemInd : UInt16 := 0x0024
def qmiwdsGetPktSrvcStatusInd : UInt16 := 0x0022
def qminasSysInfoInd : UInt16 := 0x004E
def qmiWdaSetLoopbackConfigInd : UInt16 := 0x002F

def enodev : Int := 19
def einval : Int := 22
def etimedout : Int := 110

/-- `QCQMIMSG`. The type is that of the control header or of the QMUX header, by the service. -/
structure Qmi where
  length : UInt16
  qmiType : UInt8
  clientId : UInt8 := 0
  transactionId : UInt16
  type : UInt16
  qmuxResult : UInt16 := 0
  qmuxError : UInt16 := 0
  handle : UInt32 := 0
  deriving DecidableEq, Repr

namespace Qmi

/-- The transaction of a message: one byte in the control service, two bytes elsewhere. -/
def transaction (m : Qmi) : UInt16 :=
  if m.qmiType = qmuxTypeCtl then m.transactionId.toUInt8.toUInt16 else m.transactionId

/-- What a response has in common with its request. -/
def key (m : Qmi) : UInt8 × UInt8 × UInt16 := (m.qmiType, m.clientId, m.transaction)

end Qmi

/-- `is_response`. -/
def isResponse (request response : Qmi) : Bool :=
  if request.qmiType = response.qmiType ∧ request.clientId = response.clientId then
    if request.qmiType = qmuxTypeCtl then
      request.transactionId.toUInt8 = response.transactionId.toUInt8
    else request.transactionId = response.transactionId
  else false

/-! ### The device -/

/-- What the write to the device meets: the file descriptor, the client ids given by the modem,
and what `poll` and `write` return. -/
structure Device where
  cdcWdmFd : Int
  qmiclientId : UInt8 → UInt8
  poll : Int
  pollout : Bool
  write : Int

/-- The end of `QmiWwanSendQMI`. A `poll` that times out returns zero, and so does this. -/
def Device.transmit (device : Device) (request : Qmi) : Int :=
  if device.pollout then
    if device.write = request.length.toNat + 1 then 0 else device.write
  else device.poll

/-- `QmiWwanSendQMI`, and the request as it leaves it. -/
def qmiWwanSendQMI (device : Device) (request : Qmi) : Int × Qmi :=
  if device.cdcWdmFd = -1 then (-enodev, request)
  else if request.qmiType = qmuxTypeCtl then (device.transmit request, request)
  else
    let request := { request with clientId := device.qmiclientId request.qmiType }
    if request.clientId = 0 then (-enodev, request)
    else
      let request :=
        if request.qmiType = qmuxTypeWdsIpv6 then { request with qmiType := qmuxTypeWds }
        else request
      (device.transmit request, request)

/-! ### The two threads -/

/-- A call of `QmiThreadSendQMITimeout` that waits. `since` is the number of messages received
before its send. -/
structure Call where
  request : Qmi
  ppResponse : Bool
  msecs : UInt32
  i : UInt32 := 0
  since : Nat
  deriving DecidableEq, Repr

/-- A call that has returned: its request as written to the device, what it has returned, and the
numbers of the messages received between its send and its return. -/
structure Return where
  request : Qmi
  ret : Int
  response : Option (Nat × Qmi)
  since : Nat
  before : Nat
  deriving DecidableEq, Repr

/-- The events that the reader sends to the main thread. -/
inductive MainEvent where
  | modemReportReset
  | voiceNetworkStateChanged
  | dataCallListChanged
  | loopbackConfigInd
  deriving DecidableEq, Repr

/-- The shared variables, the call in progress, and what has happened so far. The response of
the shared variable is a copy of a message; its number tells which one. -/
structure State where
  sPRequest : Option Qmi := none
  sPResponse : Option (Nat × Qmi) := none
  call : Option Call := none
  received : List Qmi := []
  returned : List Return := []
  toMain : List MainEvent := []
  deriving DecidableEq, Repr

inductive Event where
  /-- A call; a request that could not be allocated is `NULL`. -/
  | send (request : Option Qmi) (ppResponse : Bool) (msecs : UInt32) (device : Device)
  /-- `QmiThreadRecvQMI` with a message, and whether the copy can be allocated. -/
  | recv (msg : Qmi) (allocated : Bool)
  /-- `QmiThreadRecvQMI(NULL)`. -/
  | disconnect
  /-- `pthread_cond_timedwait` returns, for whatever reason. -/
  | wake (ret : Int)

/-- The slices of the wait in `pthread_cond_timeout_np`. -/
def slice (msecs : UInt32) : UInt32 := if msecs / 4 = 0 then 1 else msecs / 4

/-- What the loop of `pthread_cond_timeout_np` does after a wait: it waits again, or returns. -/
def Call.next (call : Call) (ret : Int) : Option Call :=
  if call.msecs ≠ 0 ∧ ret = etimedout ∧ call.i + slice call.msecs < call.msecs then
    some { call with i := call.i + slice call.msecs }
  else none

namespace State

/-- The end of `QmiThreadSendQMITimeout` after a wait that returned `ret`. -/
def finish (s : State) (call : Call) (ret : Int) : State :=
  let done (response : Option (Nat × Qmi)) : State :=
    { s with
      call := none
      returned := s.returned ++ [⟨call.request, ret, response, call.since, s.received.length⟩] }
  if ret = 0 then
    if call.ppResponse then done s.sPResponse
    -- Nobody wants the response: it is freed.
    else { done none with sPResponse := none }
  else done none

/-- `QmiThreadSendQMITimeout` up to its first wait. -/
def sendQMI (s : State) (request : Qmi) (ppResponse : Bool) (msecs : UInt32) (device : Device) :
    State :=
  let sent := qmiWwanSendQMI device request
  let call : Call := ⟨sent.2, ppResponse, msecs, 0, s.received.length⟩
  -- The request is shared by pointer: the reader compares with what the write has made of it.
  let s := { s with sPRequest := some sent.2, sPResponse := none }
  if sent.1 = 0 then { s with call := some call } else s.finish call sent.1

/-- The indications among the messages that are no response. -/
def indication (msg : Qmi) : List MainEvent :=
  if msg.qmiType = qmuxTypeCtl ∧ msg.type = qmictlRevokeClientIdInd then [.modemReportReset]
  else if msg.qmiType = qmuxTypeNas ∧ msg.type = qminasServingSystemInd then
    [.voiceNetworkStateChanged]
  else if msg.qmiType = qmuxTypeWds ∧ msg.type = qmiwdsGetPktSrvcStatusInd then
    [.dataCallListChanged]
  else if msg.qmiType = qmuxTypeNas ∧ msg.type = qminasSysInfoInd then [.voiceNetworkStateChanged]
  else if msg.qmiType = qmuxTypeWdsAdmin ∧ msg.type = qmiWdaSetLoopbackConfigInd then
    [.loopbackConfigInd]
  else []

/-- `QmiThreadRecvQMI` with a message. -/
def recvQMI (s : State) (msg : Qmi) (allocated : Bool) : State :=
  let logged := { s with received := s.received ++ [msg] }
  if s.sPRequest.any (isResponse · msg) then
    { logged with
      sPRequest := none
      sPResponse := if allocated then some (s.received.length, msg) else none }
  else { logged with toMain := s.toMain ++ indication msg }

/-- `QmiThreadRecvQMI(NULL)`. -/
def recvNull (s : State) : State :=
  if s.sPRequest.isSome then { s with sPRequest := none, sPResponse := none } else s

def step (s : State) : Event → State
  | .send request ppResponse msecs device =>
    match s.call, request with
    | none, some request => s.sendQMI request ppResponse msecs device
    -- A request that is `NULL` returns at once; there is one caller at a time.
    | _, _ => s
  | .recv msg allocated => s.recvQMI msg allocated
  | .disconnect => s.recvNull
  | .wake ret =>
    match s.call with
    | none => s
    | some call =>
      match call.next ret with
      | some call => { s with call := some call }
      | none => s.finish call ret

end State

/-- The lower bytes are the same in both widths. -/
theorem toUInt16_toUInt8_inj (a b : UInt16) :
    a.toUInt8.toUInt16 = b.toUInt8.toUInt16 ↔ a.toUInt8 = b.toUInt8 := by
  constructor
  · intro equal
    have back := congrArg UInt16.toUInt8 equal
    rwa [UInt8.toUInt8_toUInt16, UInt8.toUInt8_toUInt16] at back
  · intro equal
    rw [equal]

/-- A response is a message with the key of the request. -/
theorem isResponse_iff (request response : Qmi) :
    isResponse request response ↔ request.key = response.key := by
  simp only [isResponse, Qmi.key, Qmi.transaction, Prod.mk.injEq]
  by_cases same : request.qmiType = response.qmiType
  · by_cases client : request.clientId = response.clientId
    · by_cases control : response.qmiType = qmuxTypeCtl
      · simp only [same, client, control, and_self, if_true, true_and, decide_eq_true_eq,
          toUInt16_toUInt8_inj]
      · simp [same, client, control]
    · simp [client]
  · simp [same]

end LorawanFeeds.QmiClient
