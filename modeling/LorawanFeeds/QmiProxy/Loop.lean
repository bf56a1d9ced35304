import LorawanFeeds.Lib.Poll
import LorawanFeeds.QmiProxy.System

/-!
# The loop of the proxy

`qmi_proxy_loop` polls the modem, the server socket and the clients. An indication that the modem
has revoked the client ids is meant to end the loop, and with it all connections; the test for
it compares the wrong field, and never succeeds.
-/
namespace LorawanFeeds.QmiProxy

open Lib

/-- Why the loop has been left. -/
inductive Exit where
  | modemReset
  /-- The modem hangs up, or cannot be read. -/
  | device
  | poll
  deriving DecidableEq, Repr

def qmiBufSize : Nat := 4096
def pollfdsSize : Nat := 2 + 64

/-- The buffer behind a read: what it held before stays behind the bytes read. -/
def readInto (buffer chunk : Qmi) : Qmi := chunk ++ buffer.drop chunk.length

/-- The length check behind a read, on the buffer. -/
def Whole (buffer chunk : Qmi) : Prop := chunk.length = (readInto buffer chunk).hdrLength + 1

instance (buffer chunk : Qmi) : Decidable (Whole buffer chunk) :=
  inferInstanceAs (Decidable (chunk.length = _))

/-- The variables of the loop. Here the proxy keeps all that it has written since the start. -/
structure LoopState where
  proxy : Proxy
  cdcWdmFd : Int
  qmiBuf : Qmi := List.replicate qmiBufSize 0
  nextConnection : Nat := 0
  nextRequest : Nat := 0
  deriving DecidableEq, Repr

namespace Proxy

/-- The `while` loop behind `qmi_proxy_loop_exit`. The head of the list is also the first entry
with its file descriptor, so that one connection after the other is removed. -/
def closeAll (p : Proxy) : Proxy :=
  p.connections.foldl (fun p con => p.cleanupQmiConnection con.clientFd false) p

end Proxy

namespace LoopState

/-- The descriptors in `pollfds`, in order. -/
def polled (s : LoopState) : List Int :=
  ([s.cdcWdmFd] ++ (if 0 < s.proxy.serverFd then [s.proxy.serverFd] else []) ++
    s.proxy.connections.map Connection.clientFd).take pollfdsSize

def accept (s : LoopState) (clientFd : Int) : LoopState :=
  { s with
    proxy := s.proxy.acceptQmiConnection clientFd s.nextConnection
    nextConnection := s.nextConnection + 1 }

def cleanup (s : LoopState) (clientFd : Int) : LoopState :=
  { s with proxy := s.proxy.cleanupQmiConnection clientFd true }

def origin (s : LoopState) (clientFd : Int) : Origin :=
  match s.proxy.connections.find? (·.clientFd = clientFd) with
  | some con => .client con.ident s.nextRequest
  | none => .proxy

/-- The bytes that `read` has put into `qmi_buf` from the modem. -/
def readDevice (s : LoopState) (chunk : Qmi) : Flow LoopState Exit :=
  let s' := { s with qmiBuf := readInto s.qmiBuf chunk }
  if Whole s.qmiBuf chunk then
    let s' := { s' with proxy := s.proxy.recvQmiFromDev chunk }
    if s'.proxy.modemResetFlag then .leave .modemReset s' else .next s'
  else .next s'

/-- The bytes that `read` has put into `qmi_buf` from a client. -/
def readClient (s : LoopState) (fd : Int) (chunk : Qmi) : Flow LoopState Exit :=
  let s' := { s with qmiBuf := readInto s.qmiBuf chunk }
  if Whole s.qmiBuf chunk then
    .next { s' with
      proxy := s.proxy.recvQmiFromClient chunk fd (s.origin fd)
      nextRequest := s.nextRequest + 1 }
  else .next s'

/-- The body of the loop over `pollfds`. -/
def body (s : LoopState) (fd : Int) : Ready → Flow LoopState Exit
  | .quiet => .next s
  | .hangUp =>
    if fd = s.cdcWdmFd then .leave .device s
    else if fd = s.proxy.serverFd then .next s
    else .next (s.cleanup fd)
  | .readable accepted chunk =>
    let chunk := chunk.take qmiBufSize
    if fd = s.proxy.serverFd then .next (s.accept accepted)
    else if fd = s.cdcWdmFd then
      if chunk = [] then .leave .device s else s.readDevice chunk
    else
      if chunk = [] then .stop (s.cleanup fd) else s.readClient fd chunk

/-- The main thread opens the server socket when the modem has answered its sync. The kernel gives
it a descriptor that is not in use. -/
def openServer (s : LoopState) (fd : Nat) : LoopState :=
  if s.proxy.serverFd = -1 ∧ (fd : Int) ≠ s.cdcWdmFd then
    { s with proxy := { s.proxy with serverFd := fd } }
  else s

end LoopState

def qmiProxyLoop : PollProgram LoopState Nat Exit where
  polled := LoopState.polled
  body := LoopState.body
  -- All ways out of the loop close the connections, without a word to the modem.
  cleanup _ s := { s with proxy := s.proxy.closeAll }
  pollError := .poll
  other := LoopState.openServer

abbrev Loop := PollLoop LoopState Exit

/-- The modem has just been opened, the server socket has not. -/
def Loop.init (cdcWdmFd : Nat) : Loop :=
  { state := { proxy := { serverFd := -1 }, cdcWdmFd := cdcWdmFd } }

/-- A message as it is written to a stream: with a header, and with the length that it gives. -/
def Qmi.Formed (qmi : Qmi) : Prop :=
  6 ≤ qmi.length ∧ qmi.length = qmi.hdrLength + 1 ∧ qmi.length ≤ qmiBufSize

instance (qmi : Qmi) : Decidable qmi.Formed := inferInstanceAs (Decidable (_ ∧ _ ∧ _))

/-- A control indication that client ids are revoked. -/
def Qmi.RevokeInd (qmi : Qmi) : Prop :=
  qmi.qmiType = qmuxTypeCtl ∧ qmi.ctlFlags = qmictlCtlFlagInd ∧
    qmi.qmictlType = qmictlRevokeClientIdInd

instance (qmi : Qmi) : Decidable qmi.RevokeInd := inferInstanceAs (Decidable (_ ∧ _ ∧ _))

/-- What the indication is to lead to, at once: the loop is left for it with nothing more written,
and all connections are closed. -/
def Reset (before after : Loop) : Prop :=
  after.left = some .modemReset ∧ after.state.proxy.connections = [] ∧
    after.state.proxy.out = before.state.proxy.out

/-! ### What no event changes -/

namespace Proxy

theorem releaseClients_modemResetFlag (p : Proxy) (clients : List Pair) (disconnect : Bool) :
    (p.releaseClients clients disconnect).modemResetFlag = p.modemResetFlag := by
  cases disconnect with
  | false => rfl
  | true => rw [releaseClients_eq]

theorem releaseClients_serverFd (p : Proxy) (clients : List Pair) (disconnect : Bool) :
    (p.releaseClients clients disconnect).serverFd = p.serverFd := by
  cases disconnect with
  | false => rfl
  | true => rw [releaseClients_eq]

@[simp] theorem cleanup_modemResetFlag (p : Proxy) (clientFd : Int) (disconnect : Bool) :
    (p.cleanupQmiConnection clientFd disconnect).modemResetFlag = p.modemResetFlag := by
  rw [cleanupQmiConnection]
  split
  · rfl
  · exact releaseClients_modemResetFlag ..

@[simp] theorem cleanup_serverFd (p : Proxy) (clientFd : Int) (disconnect : Bool) :
    (p.cleanupQmiConnection clientFd disconnect).serverFd = p.serverFd := by
  rw [cleanupQmiConnection]
  split
  · rfl
  · exact releaseClients_serverFd ..

theorem closeAll_fields (p : Proxy) :
    p.closeAll.modemResetFlag = p.modemResetFlag ∧ p.closeAll.serverFd = p.serverFd := by
  rw [closeAll]
  generalize p.connections = connections
  induction connections generalizing p with
  | nil => exact ⟨rfl, rfl⟩
  | cons con rest ih =>
    rw [List.foldl_cons]
    obtain ⟨flag, server⟩ := ih (p.cleanupQmiConnection con.clientFd false)
    exact ⟨flag.trans (cleanup_modemResetFlag ..), server.trans (cleanup_serverFd ..)⟩

theorem ctlResponse_modemResetFlag (p : Proxy) (rsp : Qmi) :
    (p.ctlResponse rsp).modemResetFlag = p.modemResetFlag := by
  rw [ctlResponse]
  split
  · rfl
  · dsimp only [nextCtlMsg]
    split_ifs <;> rfl

/-- The flag is set behind a test that the service is the control service and an indication in
one. -/
@[simp] theorem recvQmiFromDev_modemResetFlag (p : Proxy) (qmi : Qmi) :
    (p.recvQmiFromDev qmi).modemResetFlag = p.modemResetFlag := by
  rw [recvQmiFromDev]
  split_ifs with closed ctl response indication revoke
  · rfl
  · exact ctlResponse_modemResetFlag p qmi
  · rw [ctl] at indication
    exact absurd indication (by decide)
  · rfl
  · rfl
  · rfl

@[simp] theorem recvQmiFromDev_serverFd (p : Proxy) (qmi : Qmi) :
    (p.recvQmiFromDev qmi).serverFd = p.serverFd := by
  rw [recvQmiFromDev]
  split_ifs
  · rfl
  · exact (ctlResponse_connections p qmi).1
  all_goals rfl

@[simp] theorem recvQmiFromClient_fields (p : Proxy) (qmi : Qmi) (fd : Int) (origin : Origin) :
    (p.recvQmiFromClient qmi fd origin).modemResetFlag = p.modemResetFlag ∧
      (p.recvQmiFromClient qmi fd origin).serverFd = p.serverFd := by
  rw [recvQmiFromClient]
  split_ifs <;> exact ⟨rfl, rfl⟩

/-- An indication changes nothing but that the proxy takes it for the answer to its sync. -/
theorem recvQmiFromDev_of_indication (p : Proxy) {qmi : Qmi} (ctl : qmi.qmiType = qmuxTypeCtl)
    (indication : qmi.ctlFlags = qmictlCtlFlagInd) :
    p.recvQmiFromDev qmi = if p.serverFd = -1 then { p with syncDone := true } else p := by
  have noResponse : qmi.ctlFlags ≠ qmictlCtlFlagRsp := by
    rw [indication]
    decide
  have wrongField : qmi.qmiType ≠ qmictlCtlFlagInd := by
    rw [ctl]
    decide
  rw [recvQmiFromDev, if_pos ctl, if_neg noResponse, if_neg wrongField]

end Proxy

/-- No reset is ever noted, and the modem and the server socket have different descriptors. -/
structure LoopState.Unaware (s : LoopState) : Prop where
  flag : s.proxy.modemResetFlag = false
  apart : s.proxy.serverFd ≠ s.cdcWdmFd
  opened : 0 ≤ s.cdcWdmFd

namespace LoopState

variable {s : LoopState} (unaware : s.Unaware)

include unaware

theorem Unaware.of_fields {s' : LoopState}
    (flag : s'.proxy.modemResetFlag = s.proxy.modemResetFlag)
    (server : s'.proxy.serverFd = s.proxy.serverFd) (device : s'.cdcWdmFd = s.cdcWdmFd) :
    s'.Unaware where
  flag := flag.trans unaware.flag
  apart := by
    rw [server, device]
    exact unaware.apart
  opened := device ▸ unaware.opened

theorem readDevice_eq (chunk : Qmi) :
    s.readDevice chunk = .next
      { s with
        qmiBuf := readInto s.qmiBuf chunk
        proxy := if Whole s.qmiBuf chunk then s.proxy.recvQmiFromDev chunk else s.proxy } := by
  rw [readDevice]
  by_cases whole : Whole s.qmiBuf chunk
  · simp [whole, unaware.flag]
  · simp [whole]

theorem unaware_body (fd : Int) (r : Ready) : (s.body fd r).state.Unaware := by
  cases r with
  | quiet => exact unaware
  | hangUp =>
    rw [body]
    split_ifs
    · exact unaware
    · exact unaware
    · exact unaware.of_fields (by simp [cleanup, Flow.state]) (by simp [cleanup, Flow.state]) rfl
  | readable accepted chunk =>
    rw [body]
    generalize chunk.take qmiBufSize = chunk
    split_ifs
    · exact unaware.of_fields rfl rfl rfl
    · exact unaware
    · rw [readDevice_eq unaware]
      refine unaware.of_fields ?_ ?_ rfl <;> dsimp only [Flow.state] <;> split_ifs <;> simp
    · exact unaware.of_fields (by simp [cleanup, Flow.state]) (by simp [cleanup, Flow.state]) rfl
    · rw [readClient]
      dsimp only
      split_ifs
      · exact unaware.of_fields (by simp [Flow.state]) (by simp [Flow.state]) rfl
      · exact unaware.of_fields rfl rfl rfl

theorem unaware_openServer (fd : Nat) : (s.openServer fd).Unaware := by
  rw [openServer]
  split_ifs with opens
  · exact ⟨unaware.flag, opens.2, unaware.opened⟩
  · exact unaware

end LoopState

theorem qmiProxyLoop_keeps_unaware : qmiProxyLoop.Keeps LoopState.Unaware where
  body _ fd r unaware := LoopState.unaware_body unaware fd r
  cleanup _ s unaware := by
    obtain ⟨flag, server⟩ := s.proxy.closeAll_fields
    exact unaware.of_fields flag server rfl
  other _ fd unaware := LoopState.unaware_openServer unaware fd
  begins _ unaware := unaware

theorem run_unaware (cdcWdmFd : Nat) (events : List (PollEvent Nat)) :
    (run qmiProxyLoop.step (Loop.init cdcWdmFd) events).state.Unaware := by
  refine qmiProxyLoop_keeps_unaware.run _ ?_ events
  exact ⟨rfl, by change (-1 : Int) ≠ cdcWdmFd; omega, Int.natCast_nonneg cdcWdmFd⟩

/-- Whenever the modem delivers the indication, the loop goes on with the next descriptor of the
round, with all its connections and all that it has queued for the modem. -/
theorem revoke_indication_ignored (cdcWdmFd : Nat) (events : List (PollEvent Nat))
    (rest : List Int) (accepted : Int) (qmi : Qmi) :
    let before := run qmiProxyLoop.step (Loop.init cdcWdmFd) events
    let after := qmiProxyLoop.step before (.ready (.readable accepted qmi))
    before.left = none → before.pending = before.state.cdcWdmFd :: rest → qmi.Formed →
      qmi.RevokeInd → ¬ Reset before after ∧ after.left = none ∧ after.pending = rest ∧
        after.state.proxy.connections = before.state.proxy.connections ∧
          after.state.proxy.ctlMsg = before.state.proxy.ctlMsg := by
  intro before after running turn formed ⟨ctl, indication, _⟩
  have unaware : before.state.Unaware := run_unaware cdcWdmFd events
  have body : qmiProxyLoop.body before.state before.state.cdcWdmFd (.readable accepted qmi) =
      before.state.readDevice qmi := by
    have whole : qmi.take qmiBufSize = qmi := List.take_of_length_le formed.2.2
    have some : qmi ≠ [] := List.ne_nil_of_length_pos (by have := formed.1; omega)
    change before.state.body before.state.cdcWdmFd (.readable accepted qmi) = _
    simp [LoopState.body, whole, some, unaware.apart.symm]
  have awake : qmiProxyLoop.blocked before.state = false := rfl
  have goesOn : after =
      { state := { before.state with
          qmiBuf := readInto before.state.qmiBuf qmi
          proxy := if Whole before.state.qmiBuf qmi then before.state.proxy.recvQmiFromDev qmi
            else before.state.proxy }
        pending := rest } := by
    simp only [after, PollProgram.step_ready running awake turn, body, LoopState.readDevice_eq unaware]
  have stays : after.left = none := by rw [goesOn]
  have proxy : after.state.proxy.connections = before.state.proxy.connections ∧
      after.state.proxy.ctlMsg = before.state.proxy.ctlMsg := by
    rw [goesOn, Proxy.recvQmiFromDev_of_indication _ ctl indication]
    constructor <;> dsimp only <;> split_ifs <;> rfl
  refine ⟨?_, stays, by rw [goesOn], proxy⟩
  rintro ⟨left, _, _⟩
  rw [stays] at left
  exact absurd left (by simp)

/-- A revoke indication of the WDS client id 7. -/
def revokeIndication : Qmi :=
  [0x01, 16, 0, 0x80, qmuxTypeCtl, 0x00, qmictlCtlFlagInd, 0, 0x24, 0x00, 5, 0, 0x01, 2, 0, 1, 7]

/-- A request under the WDS client id 7. -/
def wdsRequest : Qmi := [0x01, 12, 0, 0x00, 1, 7, 0, 1, 0, 0x20, 0, 0, 0]

/-- A client connects and allocates a WDS client id; then the next round has begun. -/
def allocation : List (PollEvent Nat) :=
  [.other 4, .poll, .ready .quiet, .ready (.readable 5 []),
    .poll, .ready .quiet, .ready .quiet, .ready (.readable 0 (getClientIdReq 1 1)),
    .poll, .ready (.readable 0 (answer (getClientIdReq 1 1) (clientIdRsp (1, 7)))), .ready .quiet,
    .ready .quiet, .poll]

/-- A request under a revoked client id is still passed on to the modem. -/
theorem revoked_id_reaches_modem :
    (¬ ∀ (cdcWdmFd : Nat) (events : List (PollEvent Nat)) (rest : List Int) (accepted : Int)
      (qmi : Qmi),
      let before := run qmiProxyLoop.step (Loop.init cdcWdmFd) events
      before.left = none → before.pending = before.state.cdcWdmFd :: rest → qmi.Formed →
        qmi.RevokeInd →
          Reset before (qmiProxyLoop.step before (.ready (.readable accepted qmi)))) ∧
    .service wdsRequest ∈ (run qmiProxyLoop.step (Loop.init 3) (allocation ++
      [.ready (.readable 0 revokeIndication), .ready .quiet,
        .ready (.readable 0 wdsRequest)])).state.proxy.out := by
  constructor
  · intro resets
    have reset := resets 3 allocation [4, 5] 0 revokeIndication (by decide +kernel)
      (by decide +kernel) (by decide) (by decide)
    exact absurd reset.1 (by decide +kernel)
  · decide +kernel

/-- The same run: the loop goes on with the client's connection. -/
theorem revoke_indication_ignored_allocated :
    (qmiProxyLoop.step (run qmiProxyLoop.step (Loop.init 3) allocation)
      (.ready (.readable 0 revokeIndication))).pending = [4, 5] :=
  (revoke_indication_ignored 3 allocation [4, 5] 0 revokeIndication (by decide +kernel)
    (by decide +kernel) (by decide) (by decide)).2.2.1

end LorawanFeeds.QmiProxy
