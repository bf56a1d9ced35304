import LorawanFeeds.Lib.Memory
import LorawanFeeds.Lib.Run
import LorawanFeeds.QmiClient.Client

/-!
# The MBIM client of the connection manager

`mbim_send_command`, `mbim_recv_command` and `mbim_check_err` of `mbim-cm.c`. As in the QMI client,
one thread sends a request and waits for its response and another one reads from the device, and
the mutex is given up only inside `pthread_cond_timedwait`: a send up to its first wait, the handling
of one message, and the way from one wait to the next are single steps. A message is received when
`mbim_recv_command` handles it.
-/
namespace LorawanFeeds.MbimClient

open Lib Memory
open QmiClient (slice enodev einval etimedout)

def mbimOpenDone : UInt32 := 0x80000001
def mbimCloseDone : UInt32 := 0x80000002
def mbimCommandDone : UInt32 := 0x80000003
def mbimFunctionErrorMsg : UInt32 := 0x80000004
def mbimIndicateStatusMsg : UInt32 := 0x80000007

def mbimCidSubscriberReadyStatus : UInt32 := 2
def mbimCidRegisterState : UInt32 := 9
def mbimCidPacketService : UInt32 := 10
def mbimCidConnect : UInt32 := 12

def enomem : Int := 12

/-! ### Messages -/

/-- The members of `MBIM_MESSAGE_HEADER`. -/
def messageType (m : Memory) : UInt32 := le32 m 0
def messageLength (m : Memory) : UInt32 := le32 m 4
def transactionId (m : Memory) : UInt32 := le32 m 8

/-- The `Status` of `MBIM_OPEN_DONE_T` and `MBIM_CLOSE_DONE_T`, and the `ErrorStatusCode` of
`MBIM_FUNCTION_ERROR_MSG_T`. -/
def headerStatus (m : Memory) : UInt32 := le32 m 12

/-- The `Status` of `MBIM_COMMAND_DONE_T`, behind the fragment header, the service and the CID. -/
def commandStatus (m : Memory) : UInt32 := le32 m 40

/-- `UUID_BASIC_CONNECT`. -/
def uuidBasicConnect : List UInt8 :=
  [0xa2, 0x89, 0xcc, 0x33, 0xbc, 0xbb, 0x8b, 0x4f, 0xb6, 0xb0, 0x13, 0x3e, 0xc2, 0xaa, 0xe6, 0xdf]

/-- The members of `MBIM_INDICATE_STATUS_MSG_T`. -/
def deviceServiceId (m : Memory) : List UInt8 := m.read 20 16
def indicationCid (m : Memory) : UInt32 := le32 m 36

/-- A word of the `InformationBuffer` of an indication. -/
def information (m : Memory) (offset : Nat) : UInt32 := le32 m (44 + offset)

/-- A request, by its header. -/
structure Request where
  messageType : UInt32
  messageLength : UInt32
  transactionId : UInt32
  deriving DecidableEq, Repr

/-! ### The two threads -/

/-- A call of `mbim_send_command` that waits. `since` is the number of messages received before
its write. -/
structure Call where
  request : Request
  ppCmdDone : Bool
  msecs : UInt32
  i : UInt32 := 0
  since : Nat
  deriving DecidableEq, Repr

/-- A call that has returned: its request as it was written, what it has returned, and the numbers
of the messages received between its write and its return. -/
structure Return where
  written : Option Request
  ret : Int
  pCmdDone : Option (Nat × Memory)
  since : Nat
  before : Nat

/-- The events that are sent to the main thread. -/
inductive MainEvent where
  | deviceConnected
  | deviceDisconnected
  | voiceNetworkStateChanged
  | dataCallListChanged
  deriving DecidableEq, Repr

/-- The states of the modem that `mbim_update_state` has noted. -/
structure Noted where
  oldReadyState : UInt32 := 0
  oldRegisterState : UInt32 := 0
  oldPacketServiceState : UInt32 := 0
  oldActivationState : UInt32 := 0
  deriving DecidableEq, Repr

/-- The shared variables, the call in progress, and what has happened so far. The response of the
shared variable is a copy of a message; its number tells which one. -/
structure State where
  mbimFd : Int := -1
  sTidReader : Bool := false
  mbimSessionID : UInt32 := 0
  transactionId : UInt32 := 1
  mbimPRequest : Option Request := none
  mbimPResponse : Option (Nat × Memory) := none
  noted : Noted := {}
  call : Option Call := none
  received : List Memory := []
  returned : List Return := []
  toMain : List MainEvent := []

inductive Event where
  /-- The reader starts, with what opening the device has returned. -/
  | start (fd : Int)
  /-- A request is composed and sent; `write` is what writing it returns. -/
  | send (messageType messageLength : UInt32) (allocated ppCmdDone : Bool) (msecs : UInt32)
      (write : Int)
  /-- `mbim_recv_command` with what stands in the buffer of the reader. The block for the copy has
  other contents before, or cannot be allocated. -/
  | recv (pResponse : Memory) (block : Option Memory)
  /-- The reader leaves its loop. -/
  | quit
  /-- `pthread_cond_timedwait` returns, for whatever reason. -/
  | wake (ret : Int)
  /-- `mbim_update_state`, after a request that has read new states. -/
  | update (noted : Noted)

/-- What the loop of `pthread_cond_timeout_np` does after a wait: it waits again, or returns. -/
def Call.next (call : Call) (ret : Int) : Option Call :=
  if call.msecs ≠ 0 ∧ ret = etimedout ∧ call.i + slice call.msecs < call.msecs then
    some { call with i := call.i + slice call.msecs }
  else none

namespace State

/-- `compose_open_command` and the other functions that compose a request. -/
def compose (s : State) (messageType messageLength : UInt32) (allocated : Bool) :
    Option Request × State :=
  if allocated then
    (some ⟨messageType, messageLength, s.transactionId⟩,
      { s with transactionId := s.transactionId + 1 })
  else (none, s)

/-- A call returns before it has written anything. -/
def refuse (s : State) (ret : Int) : State :=
  { s with returned := s.returned ++ [⟨none, ret, none, s.received.length, s.received.length⟩] }

/-- The end of `mbim_send_command`, after a write that has failed or a wait. -/
def finish (s : State) (call : Call) (ret : Int) : State :=
  { s with
    call := none
    mbimPRequest := none
    mbimPResponse := none
    returned := s.returned ++ [⟨some call.request, ret,
      if ret = 0 ∧ call.ppCmdDone then s.mbimPResponse else none, call.since, s.received.length⟩] }

/-- The transaction numbers start again from 1, because the proxy needs the upper byte. -/
def renumber (s : State) (request : Request) : Request × State :=
  if request.transactionId = 0xFFFFFF + 1 then
    ({ request with transactionId := 1 }, { s with transactionId := 2 })
  else (request, s)

/-- The request is shared and written. -/
def transmit (s : State) (request : Request) (ppCmdDone : Bool) (msecs : UInt32) (write : Int) :
    State :=
  let s := { s with mbimPRequest := some request, mbimPResponse := none }
  let call : Call := ⟨request, ppCmdDone, msecs, 0, s.received.length⟩
  if 0 < write ∧ write = request.messageLength.toNat then { s with call := some call }
  -- A short write, too, returns what `write` has returned.
  else s.finish call write

/-- `mbim_send_command` up to its first wait. -/
def mbimSendCommand (s : State) (request : Option Request) (ppCmdDone : Bool) (msecs : UInt32)
    (write : Int) : State :=
  if s.mbimFd ≤ 0 then s.refuse (-enodev)
  else if ¬ s.sTidReader then s.refuse (-einval)
  else match request with
    | none => s.refuse (-enomem)
    | some request => (s.renumber request).2.transmit (s.renumber request).1 ppCmdDone msecs write

/-- The indications that the main thread hears of. -/
def indication (s : State) (m : Memory) : List MainEvent :=
  if messageType m = mbimIndicateStatusMsg ∧ deviceServiceId m = uuidBasicConnect then
    if indicationCid m = mbimCidSubscriberReadyStatus then
      if s.noted.oldReadyState ≠ information m 0 then [.voiceNetworkStateChanged] else []
    else if indicationCid m = mbimCidRegisterState then
      if s.noted.oldRegisterState ≠ information m 4 then [.voiceNetworkStateChanged] else []
    else if indicationCid m = mbimCidPacketService then
      if s.noted.oldPacketServiceState ≠ information m 4 then [.voiceNetworkStateChanged] else []
    else if indicationCid m = mbimCidConnect then
      if information m 0 = s.mbimSessionID ∧ s.noted.oldActivationState ≠ information m 4 then
        [.dataCallListChanged]
      else []
    else []
  else []

/-- The message has the transaction of the request that waits. -/
def matched (s : State) (m : Memory) : Bool :=
  s.mbimPRequest.any (·.transactionId = MbimClient.transactionId m)

/-- `mbim_recv_command` with a message. Of its type nothing is asked if its transaction fits. -/
def mbimRecvCommand (s : State) (pResponse : Memory) (block : Option Memory) : State :=
  let logged := { s with received := s.received ++ [pResponse] }
  if s.matched pResponse then
    { logged with
      mbimPResponse := block.map fun block =>
        (s.received.length, memcpy block pResponse (messageLength pResponse).toNat) }
  else { logged with toMain := s.toMain ++ s.indication pResponse }

/-- `mbim_read_thread` from its `__quit` label on. `mbim_recv_command(NULL)` only wakes the thread
that waits. -/
def leave (s : State) : State :=
  { s with mbimFd := -1, sTidReader := false, toMain := s.toMain ++ [.deviceDisconnected] }

def step (s : State) : Event → State
  | .start fd =>
    if 0 < fd then
      { s with mbimFd := fd, sTidReader := true, toMain := s.toMain ++ [.deviceConnected] }
    else s.leave
  | .send messageType messageLength allocated ppCmdDone msecs write =>
    match s.call with
    | none =>
      let (request, s) := s.compose messageType messageLength allocated
      s.mbimSendCommand request ppCmdDone msecs write
    -- There is one caller at a time.
    | some _ => s
  | .recv pResponse block => s.mbimRecvCommand pResponse block
  | .quit => s.leave
  | .wake ret =>
    match s.call with
    | none => s
    | some call =>
      match call.next ret with
      | some call => { s with call := some call }
      | none => s.finish call ret
  | .update noted => { s with noted := noted }

end State

/-! ### What a caller makes of the response -/

/-- A word of the message as the `int status` of the source. -/
def toStatus (word : UInt32) : Int := word.toInt32.toInt

/-- `mbim_status_code` of a message. -/
def mbimStatusCode (m : Memory) : Int :=
  if messageType m = mbimOpenDone then toStatus (headerStatus m)
  else if messageType m = mbimCloseDone then toStatus (headerStatus m)
  else if messageType m = mbimCommandDone then toStatus (commandStatus m)
  else if messageType m = mbimFunctionErrorMsg then toStatus (headerStatus m)
  else 0

/-- `mbim_check_err`: what the function returns in it, or nothing if it gets past it. -/
def mbimCheckErr (err : Int) (pCmdDone : Option Memory) : Option Int :=
  let status := (pCmdDone.map mbimStatusCode).getD 0
  if err ≠ 0 ∨ status ≠ 0 ∨ pCmdDone.isNone then
    if err ≠ 0 then some err else if status ≠ 0 then some status else some 8888
  else none

/-- The request function of this call gets past `mbim_check_err`. -/
def Return.passes (r : Return) : Prop := mbimCheckErr r.ret (r.pCmdDone.map Prod.snd) = none

end LorawanFeeds.MbimClient
