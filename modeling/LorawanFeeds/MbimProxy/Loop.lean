import LorawanFeeds.Lib.Poll
import LorawanFeeds.MbimProxy.Routing

/-!
# The loop of the MBIM proxy

`proxy_loop` polls the device, the server socket and the clients. A client that hangs up is taken
out of its slot. A client whose end of the stream is read is taken out of it, too, but then the
loop returns to `main`, which opens the device anew and clears all slots.
-/
namespace LorawanFeeds.MbimProxy

open Lib

def mbimOpenDone : UInt32 := 0x80000001
def cmRecvBufferSize : Nat := 4096

/-- `le32toh` of four bytes. -/
def le32 (bytes : List UInt8) (i : Nat) : UInt32 :=
  (bytes.getD i 0).toUInt32 ||| (bytes.getD (i + 1) 0).toUInt32 <<< 8 |||
    (bytes.getD (i + 2) 0).toUInt32 <<< 16 ||| (bytes.getD (i + 3) 0).toUInt32 <<< 24

/-- The message in `cm_recv_buffer`. -/
def Message.ofBytes (bytes : List UInt8) : Message :=
  ⟨le32 bytes 0, le32 bytes 4, le32 bytes 8, bytes.drop 12⟩

/-- Why the loop has been left. -/
inductive Exit where
  /-- `goto error`. -/
  | error
  /-- `return len`, behind the end of a client's stream. -/
  | returned
  deriving DecidableEq, Repr

/-- The variables of the loop, and all that has been written. -/
structure LoopState where
  mbimDevFd : Int
  mbimServerFd : Int := -1
  clients : Clients := fun _ => {}
  nextConnection : Nat := 0
  out : List Output := []

namespace LoopState

/-- The descriptor is in use. -/
def InUse (s : LoopState) (fd : Int) : Prop :=
  fd = s.mbimDevFd ∨ fd = s.mbimServerFd ∨ ∃ i, (s.clients i).clientFd = fd

instance (s : LoopState) (fd : Int) : Decidable (s.InUse fd) :=
  inferInstanceAs (Decidable (_ ∨ _ ∨ _))

/-- The descriptors in `pollfds`, in order. -/
def polled (s : LoopState) : List Int :=
  s.mbimDevFd :: if 0 < s.mbimServerFd then
    s.mbimServerFd :: ((List.finRange cmMaxClient).map fun i => (s.clients i).clientFd).filter (0 < ·)
  else []

/-- A new connection. The kernel gives out no descriptor twice. -/
def connect (s : LoopState) (accepted : Int) : LoopState :=
  if s.InUse accepted then s
  else { s with
    clients := handleClientConnect s.clients accepted s.nextConnection
    nextConnection := s.nextConnection + 1 }

def disconnect (s : LoopState) (fd : Int) : LoopState :=
  { s with clients := handleClientDisconnect s.clients fd }

/-- A message of the device. As long as there is no server socket, the proxy waits for the answer
to its own MBIM_OPEN_MSG; `proxy_make_server` then returns the given descriptor. -/
def readDevice (s : LoopState) (serverFd : Int) (chunk : List UInt8) : Flow LoopState Exit :=
  let msg := Message.ofBytes chunk
  if s.mbimServerFd = -1 then
    if msg.messageType = mbimOpenDone then
      if le32 chunk 12 ≠ 0 then .leave .error s
      else if s.InUse serverFd then .next s
      else .next { s with mbimServerFd := serverFd }
    else .next s
  else .next { s with out := s.out ++ handleDeviceResponse s.clients msg }

def readClient (s : LoopState) (fd : Int) (chunk : List UInt8) : LoopState :=
  { s with out := s.out ++ handleClientRequest s.clients fd (Message.ofBytes chunk) }

/-- The body of the loop over `pollfds`. -/
def body (s : LoopState) (fd : Int) : Ready → Flow LoopState Exit
  | .quiet => .next s
  | .hangUp =>
    if fd = s.mbimDevFd then .leave .error s
    else if fd = s.mbimServerFd then .next s
    else .next (s.disconnect fd)
  | .readable accepted chunk =>
    let chunk := chunk.take cmRecvBufferSize
    if fd = s.mbimServerFd then .next (s.connect accepted)
    else if chunk = [] then
      if fd = s.mbimDevFd then .leave .error s else .leave .returned (s.disconnect fd)
    else if fd = s.mbimDevFd then s.readDevice accepted chunk
    else .next (s.readClient fd chunk)

/-- What stands behind the loop, and what `main` then does: the device is closed and all slots are
cleared, whether their clients have been closed or not. -/
def leave (s : LoopState) : LoopState :=
  { s with mbimDevFd := -1, mbimServerFd := -1, clients := fun _ => {} }

end LoopState

def proxyLoop : PollProgram LoopState Empty Exit where
  polled := LoopState.polled
  body := LoopState.body
  cleanup _ := LoopState.leave
  pollError := .error
  other _ e := e.elim

abbrev Loop := PollLoop LoopState Exit

/-- The device has just been opened. -/
def Loop.init (mbimDevFd : Nat) : Loop := { state := { mbimDevFd := mbimDevFd + 1 } }

/-- The ways in which a client's exit shows: it hangs up, or a read gives nothing, be it the end of
the stream or an error. -/
def ClientExit (r : Ready) : Prop := r = .hangUp ∨ ∃ accepted, r = .readable accepted []

/-- The exit of the client in a slot has touched nothing else, and the loop goes on with the other
descriptors of the round. -/
structure Isolated (i : Fin cmMaxClient) (before after : Loop) : Prop where
  running : after.left = none
  others : after.pending = before.pending.tail
  device : after.state.mbimDevFd = before.state.mbimDevFd
  server : after.state.mbimServerFd = before.state.mbimServerFd
  removed : after.state.clients i = { before.state.clients i with clientFd := -1 }
  kept : ∀ j, j ≠ i → after.state.clients j = before.state.clients j

/-! ### Descriptors -/

namespace LoopState

/-- What is open has different descriptors. -/
structure Apart (s : LoopState) : Prop where
  strangers : ∀ i, 0 < (s.clients i).clientFd →
    (s.clients i).clientFd ≠ s.mbimDevFd ∧ (s.clients i).clientFd ≠ s.mbimServerFd
  slots : System.Distinct s.clients Client.clientFd

variable {s : LoopState} (apart : s.Apart)

include apart

theorem apart_connect (accepted : Int) : (s.connect accepted).Apart := by
  rw [connect]
  split_ifs with used
  · exact apart
  · simp only [InUse, not_or, not_exists] at used
    obtain ⟨device, server, fresh⟩ := used
    rcases System.connect_clients s.clients accepted s.nextConnection with same | ⟨i, _, taken⟩
    · rw [same]
      exact ⟨apart.strangers, apart.slots⟩
    · rw [taken]
      refine ⟨fun j live => ?_, apart.slots.update i fun _ j _ => fresh j⟩
      by_cases new : j = i
      · subst new
        simp only [Function.update_self]
        exact ⟨device, server⟩
      · simp only [Function.update_of_ne new] at live ⊢
        exact apart.strangers j live

theorem apart_disconnect (fd : Int) : (s.disconnect fd).Apart := by
  constructor
  · intro i live
    have kept := System.disconnect_clients live
    simp only [disconnect, kept] at live ⊢
    exact apart.strangers i live
  · intro i j first second same
    have keptFirst := System.disconnect_clients first
    have keptSecond := System.disconnect_clients second
    simp only [disconnect, keptFirst, keptSecond] at first second same
    exact apart.slots i j first second same

theorem apart_readDevice (serverFd : Int) (chunk : List UInt8) :
    (s.readDevice serverFd chunk).state.Apart := by
  rw [readDevice]
  split_ifs with _ _ _ used
  · exact apart
  · exact apart
  · simp only [InUse, not_or, not_exists] at used
    exact ⟨fun i live => ⟨(apart.strangers i live).1, used.2.2 i⟩, apart.slots⟩
  · exact apart
  · exact ⟨apart.strangers, apart.slots⟩

theorem apart_body (fd : Int) (r : Ready) : (s.body fd r).state.Apart := by
  cases r with
  | quiet => exact apart
  | hangUp =>
    rw [body]
    split_ifs
    · exact apart
    · exact apart
    · exact apart_disconnect apart fd
  | readable accepted chunk =>
    rw [body]
    generalize chunk.take cmRecvBufferSize = chunk
    split_ifs
    · exact apart_connect apart accepted
    · exact apart
    · exact apart_disconnect apart fd
    · exact apart_readDevice apart accepted chunk
    · exact ⟨apart.strangers, apart.slots⟩

omit apart in
/-- Nothing is open any more. -/
theorem apart_leave (s : LoopState) : s.leave.Apart where
  strangers _ live := absurd live (Int.lt_irrefl 0)
  slots _ _ live := absurd live (Int.lt_irrefl 0)

/-- The slot of a descriptor is the one that is closed. -/
theorem clients_disconnect {i : Fin cmMaxClient} (live : 0 < (s.clients i).clientFd) :
    (s.disconnect (s.clients i).clientFd).clients =
      Function.update s.clients i { s.clients i with clientFd := -1 } := by
  have found : firstSlot s.clients (·.clientFd = (s.clients i).clientFd) = some i := by
    refine firstSlot_eq_some (by simp) fun j same => ?_
    have sameFd : (s.clients j).clientFd = (s.clients i).clientFd := by simpa using same
    exact apart.slots j i (sameFd ▸ live) live sameFd
  simp only [disconnect, handleClientDisconnect, found, safeClose, if_pos live]

end LoopState

theorem proxyLoop_keeps_apart : proxyLoop.Keeps LoopState.Apart where
  body _ fd r apart := LoopState.apart_body apart fd r
  cleanup _ s _ := s.apart_leave
  other _ e := e.elim
  begins _ apart := apart

theorem run_apart (mbimDevFd : Nat) (events : List (PollEvent Empty)) :
    (run proxyLoop.step (Loop.init mbimDevFd) events).state.Apart := by
  refine proxyLoop_keeps_apart.run _ ?_ events
  exact ⟨fun _ live => absurd live (Int.lt_irrefl 0), fun _ _ live => absurd live (Int.lt_irrefl 0)⟩

/-- In every state of the loop a client's exit leaves the others alone exactly if it shows as a
hang-up. -/
theorem client_exit_isolated (mbimDevFd : Nat) (events : List (PollEvent Empty))
    (i : Fin cmMaxClient) (rest : List Int) (r : Ready) :
    let before := run proxyLoop.step (Loop.init mbimDevFd) events
    before.left = none → 0 < (before.state.clients i).clientFd →
      before.pending = (before.state.clients i).clientFd :: rest → ClientExit r →
        (Isolated i before (proxyLoop.step before (.ready r)) ↔ r = .hangUp) := by
  intro before running live turn exit
  have apart : before.state.Apart := run_apart mbimDevFd events
  obtain ⟨notDevice, notServer⟩ := apart.strangers i live
  rcases exit with rfl | ⟨accepted, rfl⟩
  · refine iff_of_true ?_ rfl
    have body : proxyLoop.body before.state (before.state.clients i).clientFd .hangUp =
        .next (before.state.disconnect (before.state.clients i).clientFd) := by
      change before.state.body (before.state.clients i).clientFd .hangUp = _
      simp only [LoopState.body, if_neg notDevice, if_neg notServer]
    rw [PollProgram.step_ready running rfl turn, body]
    dsimp only
    refine ⟨rfl, by rw [turn, List.tail_cons], rfl, rfl, ?_, fun j other => ?_⟩
    · rw [LoopState.clients_disconnect apart live, Function.update_self]
    · rw [LoopState.clients_disconnect apart live, Function.update_of_ne other]
  · refine iff_of_false ?_ (by simp)
    have body : proxyLoop.body before.state (before.state.clients i).clientFd
        (.readable accepted []) =
          .leave .returned (before.state.disconnect (before.state.clients i).clientFd) := by
      change before.state.body (before.state.clients i).clientFd (.readable accepted []) = _
      simp [LoopState.body, notDevice, notServer]
    rw [PollProgram.step_ready running rfl turn, body]
    intro isolated
    exact absurd isolated.running (by simp)

/-- The answer to MBIM_OPEN_MSG. -/
def openAnswer : List UInt8 := [1, 0, 0, 0x80, 16, 0, 0, 0, 1, 0, 0, 0, 0, 0, 0, 0]

/-- Two clients have connected, and the turn of the first has come. -/
def twoClients : List (PollEvent Empty) :=
  [.poll, .ready (.readable 4 openAnswer), .poll, .ready .quiet, .ready (.readable 5 []),
    .poll, .ready .quiet, .ready (.readable 6 []), .ready .quiet, .poll, .ready .quiet, .ready .quiet]

/-- The end of the first client's stream ends the loop, and empties the slot of the second. -/
theorem orderly_close_ends_loop :
    ¬ ∀ (mbimDevFd : Nat) (events : List (PollEvent Empty)) (i : Fin cmMaxClient)
      (rest : List Int) (r : Ready),
      let before := run proxyLoop.step (Loop.init mbimDevFd) events
      before.left = none → 0 < (before.state.clients i).clientFd →
        before.pending = (before.state.clients i).clientFd :: rest → ClientExit r →
          Isolated i before (proxyLoop.step before (.ready r)) := by
  intro isolates
  have isolated := isolates 2 twoClients ⟨0, by decide⟩ [6] (.readable 0 []) (by decide +kernel)
    (by decide +kernel) (by decide +kernel) (.inr ⟨0, rfl⟩)
  have second := isolated.kept ⟨1, by decide⟩ (by decide)
  exact absurd (congrArg Client.clientFd second) (by decide +kernel)

/-- The same client hangs up: the second stays in its slot. -/
theorem client_exit_isolated_hangUp :
    Isolated ⟨0, by decide⟩ (run proxyLoop.step (Loop.init 2) twoClients)
      (proxyLoop.step (run proxyLoop.step (Loop.init 2) twoClients) (.ready .hangUp)) :=
  (client_exit_isolated 2 twoClients ⟨0, by decide⟩ [6] .hangUp (by decide +kernel) (by decide +kernel)
    (by decide +kernel) (.inl rfl)).mpr rfl

end LorawanFeeds.MbimProxy
