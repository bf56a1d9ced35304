import LorawanFeeds.MbimClient.Calls
import LorawanFeeds.MbimClient.ReadThread
import LorawanFeeds.MbimProxy.Loop

/-!
# Connection managers that share a modem

Each process of the connection manager counts its transactions from 1, so that the requests of
different processes have the same numbers. What a process reads from its connection it takes for the
response of its request if the number fits. The proxy keeps the processes apart: it needs numbers of
24 bits for that, and the way in which the clients count provides them.

Here the clients, their connections, the proxy and the modem are one system. A stream keeps the
order of what is written to it, but not where one message ends. The proxy reads all that stands in a
stream and takes it for one message; a client reads a header and then what belongs to it.
-/
namespace LorawanFeeds.MbimProxy

open Lib Memory

/-- A message with its length. -/
def message (messageType transactionId : UInt32) (payload : List UInt8) : Message :=
  ⟨messageType, (12 + payload.length).toUInt32, transactionId, payload⟩

/-- The bytes of `MBIM_MESSAGE_HEADER`. -/
def Message.header (msg : Message) : List UInt8 :=
  bytesOf msg.messageType ++ bytesOf msg.messageLength ++ bytesOf msg.transactionId

def Message.bytes (msg : Message) : List UInt8 := msg.header ++ msg.payload

/-- The message has the length that it tells, and fits into the buffer of a client. -/
def Message.Whole (msg : Message) : Prop :=
  msg.messageLength.toNat = msg.bytes.length ∧ msg.bytes.length ≤ MbimClient.recvBufSize

/-- What has been asked: the process, and how many requests it has composed before. -/
structure Origin where
  process : Nat
  composition : Nat
  deriving DecidableEq, Repr

/-- A message on its way to a client. An indication is the answer to nothing. -/
structure Delivery where
  msg : Message
  origin : Option Origin
  deriving DecidableEq, Repr

/-- A connection, with what has been written to either end and not been read. -/
structure Socket where
  process : Nat := 0
  toProxy : List (Nat × Message) := []
  toClient : List Delivery := []

/-- The bytes that the proxy can read from the connection. -/
def Socket.fromClient (socket : Socket) : List UInt8 :=
  socket.toProxy.flatMap fun sent => sent.2.bytes

/-- The bytes that the client can read. -/
def Socket.fromProxy (socket : Socket) : List UInt8 :=
  socket.toClient.flatMap fun delivery => delivery.msg.bytes

/-- A process, its connection, and what the messages that it has received are the answers to. -/
structure Process where
  log : MbimClient.Log := {}
  socket : Option Nat := none
  origins : List (Option Origin) := []

/-- The proxy accepts the connections in the order in which they have been opened, and numbers them
so. `origins` are those of the requests that the proxy has read. -/
structure SharedModem where
  proxy : System := {}
  origins : List Origin := []
  processes : Nat → Process := fun _ => {}
  opened : Nat := 0
  sockets : Nat → Socket := fun _ => {}

namespace SharedModem

inductive Event where
  /-- The reader of a process opens a connection, or fails to. -/
  | start (process : Nat) (fd : Int)
  | send (process : Nat) (messageType : UInt32) (payload : List UInt8) (allocated ppCmdDone : Bool)
      (msecs : UInt32) (write : Int)
  /-- The reader of a process reads a message into its buffer, which has other contents before. -/
  | receive (process : Nat) (cmRecvBuf : Memory) (block : Option Memory)
  | quit (process : Nat)
  | wake (process : Nat) (ret : Int)
  | update (process : Nat) (noted : MbimClient.Noted)
  /-- The proxy accepts the next connection, under this descriptor. -/
  | accept (clientFd : Int)
  | hangUp (clientFd : Int)
  /-- The proxy reads from a connection. -/
  | forward (clientFd : Int)
  /-- The modem answers one of the requests that it has received. -/
  | respond (index : Nat) (messageType : UInt32) (payload : List UInt8)
  | indicate (messageType : UInt32) (payload : List UInt8)

/-- What the proxy writes to the connections. -/
def deliver (out : List Output) (origin : Option Origin) (sockets : Nat → Socket) (k : Nat) :
    Socket :=
  { sockets k with
    toClient := (sockets k).toClient ++ out.filterMap fun
      | .client connection msg => if connection = k then some ⟨msg, origin⟩ else none
      | .device _ => none }

/-- A step of a process, which leaves it with this connection. -/
def act (s : SharedModem) (p : Nat) (e : MbimClient.Event) (socket : Option Nat) : SharedModem :=
  { s with
    processes := Function.update s.processes p
      { s.processes p with log := (s.processes p).log.step e, socket := socket } }

/-- The process has a new connection. -/
def connect (s : SharedModem) (p : Nat) : SharedModem :=
  { s with
    processes := Function.update s.processes p { s.processes p with socket := some s.opened }
    opened := s.opened + 1
    sockets := Function.update s.sockets s.opened { process := p } }

def start (s : SharedModem) (p : Nat) (fd : Int) : SharedModem :=
  let s := s.act p (.start fd) none
  if 0 < fd then s.connect p else s

/-- A request comes into the stream. -/
def enqueue (s : SharedModem) (k : Nat) (sent : Nat × Message) : SharedModem :=
  { s with
    sockets := Function.update s.sockets k
      { s.sockets k with toProxy := (s.sockets k).toProxy ++ [sent] } }

/-- The event of the client, which writes a message with this payload. -/
def sendEvent (messageType : UInt32) (payload : List UInt8) (allocated ppCmdDone : Bool)
    (msecs : UInt32) (write : Int) : MbimClient.Event :=
  .send messageType (12 + payload.length).toUInt32 allocated ppCmdDone msecs write

/-- A request is in the stream if it has been written as a whole. -/
def send (s : SharedModem) (p : Nat) (messageType : UInt32) (payload : List UInt8)
    (allocated ppCmdDone : Bool) (msecs : UInt32) (write : Int) : SharedModem :=
  let e := sendEvent messageType payload allocated ppCmdDone msecs write
  let after := s.act p e (s.processes p).socket
  match (s.processes p).log.state.writes e, (s.processes p).socket with
  | some request, some k =>
    if 0 < write ∧ write = request.messageLength.toNat then
      after.enqueue k ((s.processes p).log.compositions,
        message request.messageType request.transactionId payload)
    else after
  | _, _ => after

/-- `mbim_proxy_read` from a stream. -/
def proxyRead (cmRecvBuf : Memory) (stream : List UInt8) : Int × List Write :=
  MbimClient.mbimProxyRead cmRecvBuf MbimClient.recvBufSize (some stream)
    (some (stream.drop MbimClient.headerSize))

/-- The reader takes the first message from the stream, for `mbim_recv_command`. -/
def receive (s : SharedModem) (p : Nat) (cmRecvBuf : Memory) (block : Option Memory) :
    SharedModem :=
  match (s.processes p).socket with
  | none => s
  | some k =>
    match (s.sockets k).toClient with
    | [] => s
    | delivery :: rest =>
      let pResponse := Write.applyAll cmRecvBuf (proxyRead cmRecvBuf (s.sockets k).fromProxy).2
      { s with
        processes := Function.update s.processes p
          { s.processes p with
            log := (s.processes p).log.step (.recv pResponse block)
            origins := (s.processes p).origins ++ [delivery.origin] }
        sockets := Function.update s.sockets k { s.sockets k with toClient := rest } }

/-- The proxy reads what stands in the stream, and handles it as one request: by its header, it is the
first. -/
def forward (s : SharedModem) (fd : Int) : SharedModem :=
  match firstSlot s.proxy.clients (·.clientFd = fd) with
  | none => s
  | some i =>
    let connection := (s.proxy.clients i).ident
    match (s.sockets connection).toProxy with
    | [] => s
    | (composition, _) :: _ =>
      let msg := Message.ofBytes ((s.sockets connection).fromClient.take cmRecvBufferSize)
      let origin : Origin := ⟨(s.sockets connection).process, composition⟩
      { s with
        proxy := s.proxy.step (.request fd msg)
        origins := s.origins ++ [origin]
        sockets := deliver (handleClientRequest s.proxy.clients fd msg) (some origin)
          (Function.update s.sockets connection { s.sockets connection with toProxy := [] }) }

def respond (s : SharedModem) (index : Nat) (messageType : UInt32) (payload : List UInt8) :
    SharedModem :=
  match s.proxy.inFlight[index]? with
  | none => s
  | some entry =>
    let response := message messageType entry.msg.transactionId payload
    { s with
      proxy := s.proxy.step (.response index response)
      sockets := deliver (handleDeviceResponse s.proxy.clients response)
        s.origins[entry.request.number]? s.sockets }

/-- A message without a transaction, which goes to all clients. -/
def indicate (s : SharedModem) (messageType : UInt32) (payload : List UInt8) : SharedModem :=
  let out := handleDeviceResponse s.proxy.clients (message messageType 0 payload)
  { s with sockets := deliver out none s.sockets }

/-- The proxy accepts the next connection, if there is one. -/
def accept (s : SharedModem) (fd : Int) : SharedModem :=
  if 0 < fd ∧ s.proxy.nextConnection < s.opened then { s with proxy := s.proxy.step (.connect fd) }
  else s

def step (s : SharedModem) : Event → SharedModem
  | .start p fd => s.start p fd
  | .send p messageType payload allocated ppCmdDone msecs write =>
    s.send p messageType payload allocated ppCmdDone msecs write
  | .receive p cmRecvBuf block => s.receive p cmRecvBuf block
  | .quit p => s.act p .quit none
  | .wake p ret => s.act p (.wake ret) (s.processes p).socket
  | .update p noted => s.act p (.update noted) (s.processes p).socket
  | .accept fd => s.accept fd
  | .hangUp fd => { s with proxy := s.proxy.step (.disconnect fd) }
  | .forward fd => if 0 < fd then s.forward fd else s
  | .respond index messageType payload => s.respond index messageType payload
  | .indicate messageType payload => s.indicate messageType payload

/-- A message fits into the buffer, with all that stands before it in the stream. -/
def Fits (unread : List UInt8) (payload : List UInt8) : Prop :=
  unread.length + (12 + payload.length) ≤ cmRecvBufferSize

instance (unread payload : List UInt8) : Decidable (Fits unread payload) :=
  inferInstanceAs (Decidable (_ ≤ _))

/-- What the result rests on: no request is composed with the number `2 ^ 24` in vain, no response
is a whole round of numbers late, no connection is put into a slot that a request in flight names,
and what is written fits into the buffers. -/
def Allowed (s : SharedModem) : Event → Prop
  | .send p messageType payload allocated ppCmdDone msecs write =>
    (s.processes p).log.Spares (sendEvent messageType payload allocated ppCmdDone msecs write) ∧
      ∀ k ∈ (s.processes p).socket, Fits (s.sockets k).fromClient payload
  | .receive p _ _ => ∀ k ∈ (s.processes p).socket, ∀ delivery ∈ (s.sockets k).toClient.head?,
      ∀ origin ∈ delivery.origin,
        (s.processes p).log.compositions ≤ origin.composition + MbimClient.transactions
  | .accept fd => s.proxy.SlotFree (.connect fd)
  | .respond _ _ payload | .indicate _ payload => Fits [] payload
  | _ => True

instance (s : SharedModem) : ∀ e, Decidable (s.Allowed e)
  | .send p messageType payload allocated ppCmdDone msecs write => inferInstanceAs (Decidable
      ((s.processes p).log.Spares (sendEvent messageType payload allocated ppCmdDone msecs write) ∧
        ∀ k ∈ (s.processes p).socket, Fits (s.sockets k).fromClient payload))
  | .receive p _ _ => inferInstanceAs (Decidable (∀ k ∈ (s.processes p).socket,
      ∀ delivery ∈ (s.sockets k).toClient.head?, ∀ origin ∈ delivery.origin,
        (s.processes p).log.compositions ≤ origin.composition + MbimClient.transactions))
  | .accept fd => inferInstanceAs (Decidable (s.proxy.SlotFree (.connect fd)))
  | .respond _ _ payload | .indicate _ payload => inferInstanceAs (Decidable (Fits [] payload))
  | .start _ _ | .quit _ | .wake _ _ | .update _ _ | .hangUp _ | .forward _ =>
    inferInstanceAs (Decidable True)

/-- The proxy reads all that stands in a stream, and a client reads the first message. -/
structure ReadsWhole (s : SharedModem) : Prop where
  proxy : ∀ k, (s.sockets k).fromClient.length ≤ cmRecvBufferSize
  client : ∀ k delivery rest buf, (s.sockets k).toClient = delivery :: rest →
    Write.applyAll buf (proxyRead buf (s.sockets k).fromProxy).2 =
        Write.apply buf ⟨0, delivery.msg.bytes⟩ ∧
      ((proxyRead buf (s.sockets k).fromProxy).2.map fun w => w.bytes.length).sum =
        delivery.msg.bytes.length

/-! ### Streams and messages -/

theorem length_bytes (msg : Message) : msg.bytes.length = 12 + msg.payload.length :=
  List.length_append

theorem message_whole {messageType tid : UInt32} {payload : List UInt8}
    (fits : 12 + payload.length ≤ MbimClient.recvBufSize) :
    (message messageType tid payload).Whole := by
  have small : 12 + payload.length < 2 ^ 32 := Nat.lt_of_le_of_lt fits (by decide)
  rw [Message.Whole, length_bytes]
  exact ⟨Nat.mod_eq_of_lt small, fits⟩

/-- The proxy goes by the header of the first message. -/
theorem transactionId_ofBytes (msg : Message) (rest : List UInt8) :
    (Message.ofBytes ((msg.bytes ++ rest).take cmRecvBufferSize)).transactionId =
      msg.transactionId := by
  simp only [Message.ofBytes, le32, Message.bytes, Message.header, bytesOf, cmRecvBufferSize,
    List.cons_append, List.nil_append, List.take_succ_cons, List.getD_cons_succ,
    List.getD_cons_zero]
  exact word_bytes msg.transactionId

/-- What a client reads begins with the header of the first message, too, and ends with it if the
message has the right length. -/
theorem received_eq (msg : Message) (rest : List UInt8) :
    ∃ payload, MbimClient.received (some (msg.bytes ++ rest))
      (some ((msg.bytes ++ rest).drop MbimClient.headerSize)) = msg.header ++ payload ∧
        (msg.Whole → payload = msg.payload) := by
  have front : (msg.bytes ++ rest).take MbimClient.headerSize = msg.header := by
    simp [Message.bytes, Message.header, bytesOf, MbimClient.headerSize]
  have back : (msg.bytes ++ rest).drop MbimClient.headerSize = msg.payload ++ rest := by
    simp [Message.bytes, Message.header, bytesOf, MbimClient.headerSize]
  have length : MbimClient.messageLength (ofList msg.header) = msg.messageLength :=
    word_bytes msg.messageLength
  rw [MbimClient.received, Option.getD_some, front, back, length]
  split
  next =>
    refine ⟨_, rfl, fun whole => ?_⟩
    rw [whole.1, length_bytes, Option.getD_some]
    simp [MbimClient.headerSize]
  next none =>
    refine ⟨[], (List.append_nil _).symm, fun whole => ?_⟩
    refine absurd ⟨rfl, ?_, ?_⟩ none
    · rw [whole.1, length_bytes]
      exact Nat.le_add_right _ _
    · rw [whole.1]
      exact whole.2

theorem transactionId_proxyRead (buf : Memory) (msg : Message) (rest : List UInt8) :
    MbimClient.transactionId (Write.applyAll buf (proxyRead buf (msg.bytes ++ rest)).2) =
      msg.transactionId := by
  obtain ⟨payload, received, -⟩ := received_eq msg rest
  rw [proxyRead, (MbimClient.mbimProxyRead_fills buf _ _).buffer, received]
  exact word_bytes msg.transactionId

theorem proxyRead_whole (buf : Memory) {msg : Message} (whole : msg.Whole) (rest : List UInt8) :
    Write.applyAll buf (proxyRead buf (msg.bytes ++ rest)).2 = Write.apply buf ⟨0, msg.bytes⟩ ∧
      ((proxyRead buf (msg.bytes ++ rest)).2.map fun w => w.bytes.length).sum =
        msg.bytes.length := by
  obtain ⟨payload, received, ends⟩ := received_eq msg rest
  have fills := MbimClient.mbimProxyRead_fills buf (some (msg.bytes ++ rest))
    (some ((msg.bytes ++ rest).drop MbimClient.headerSize))
  rw [received, ends whole] at fills
  exact ⟨fills.buffer, fills.arrived⟩

end SharedModem

/-! ### The invariant -/

/-- The request with this origin has been written, with this number. -/
def Asked (processes : Nat → Process) (o : Origin) (tid : UInt32) : Prop :=
  ∃ w ∈ (processes o.process).log.written, w.1 = o.composition ∧ w.2.transactionId = tid

/-- A message may go to this process: it is an indication, or answers one of its requests. -/
structure Delivery.Right (processes : Nat → Process) (p : Nat) (delivery : Delivery) : Prop where
  whole : delivery.msg.Whole
  indication : delivery.origin = none → delivery.msg.transactionId = 0
  answer : ∀ o, delivery.origin = some o →
    o.process = p ∧ Asked processes o delivery.msg.transactionId

/-- What may stand in the streams of a connection. -/
structure Socket.Sound (processes : Nat → Process) (socket : Socket) : Prop where
  toProxy : ∀ sent ∈ socket.toProxy,
    Asked processes ⟨socket.process, sent.1⟩ sent.2.transactionId
  short : socket.fromClient.length ≤ cmRecvBufferSize
  toClient : ∀ delivery ∈ socket.toClient, delivery.Right processes socket.process

structure Process.Sound (p : Nat) (process : Process) : Prop where
  marked : process.log.Marked (fun c => some ⟨p, c⟩) process.origins
  own : ∀ o, some o ∈ process.origins → o.process = p

namespace SharedModem

structure Sound (s : SharedModem) : Prop where
  wellFormed : s.proxy.WellFormed
  routed : s.proxy.Routed
  accepted : s.proxy.nextConnection ≤ s.opened
  numbered : s.origins.length = s.proxy.nextRequest
  inFlight : ∀ entry ∈ s.proxy.inFlight, ∃ o, s.origins[entry.request.number]? = some o ∧
    o.process = (s.sockets entry.request.connection).process ∧
      Asked s.processes o entry.request.transactionId
  processes : ∀ p, (s.processes p).Sound p
  connected : ∀ p k, (s.processes p).socket = some k → k < s.opened ∧ (s.sockets k).process = p
  sockets : ∀ k, (s.sockets k).Sound s.processes

theorem init_sound : ({} : SharedModem).Sound where
  wellFormed := System.init_wellFormed
  routed := System.init_routed
  accepted := le_rfl
  numbered := rfl
  inFlight := List.forall_mem_nil _
  processes p := ⟨MbimClient.Log.init_marked _, fun _ member => by cases member⟩
  connected := by rintro p k ⟨⟩
  sockets _ := ⟨List.forall_mem_nil _, Nat.zero_le _, List.forall_mem_nil _⟩

end SharedModem

/-! ### What has been written stays so -/

section

variable {processes processes' : Nat → Process}

/-- The requests of the processes are only added to. -/
def Grows (processes processes' : Nat → Process) : Prop :=
  ∀ p, ∀ w ∈ (processes p).log.written, w ∈ (processes' p).log.written

theorem grows_update {p : Nat} {new : Process}
    (more : ∀ w ∈ (processes p).log.written, w ∈ new.log.written) :
    Grows processes (Function.update processes p new) := by
  intro q w written
  by_cases mine : q = p
  · subst mine
    rw [Function.update_self]
    exact more w written
  · rwa [Function.update_of_ne mine]

theorem Asked.mono (grows : Grows processes processes') {o : Origin} {tid : UInt32}
    (asked : Asked processes o tid) : Asked processes' o tid := by
  obtain ⟨w, written, same⟩ := asked
  exact ⟨w, grows _ w written, same⟩

theorem Delivery.Right.mono (grows : Grows processes processes') {p : Nat} {delivery : Delivery}
    (right : delivery.Right processes p) : delivery.Right processes' p :=
  ⟨right.whole, right.indication, fun o origin => (right.answer o origin).imp_right (.mono grows)⟩

theorem Socket.Sound.mono (grows : Grows processes processes') {socket : Socket}
    (sound : socket.Sound processes) : socket.Sound processes' where
  toProxy sent member := (sound.toProxy sent member).mono grows
  short := sound.short
  toClient delivery member := (sound.toClient delivery member).mono grows

/-- A connection stays with its process. -/
theorem process_update {sockets : Nat → Socket} {k : Nat} {new : Socket}
    (same : new.process = (sockets k).process) (j : Nat) :
    (Function.update sockets k new j).process = (sockets j).process := by
  by_cases here : j = k
  · rw [here, Function.update_self, same]
  · rw [Function.update_of_ne here]

end

namespace SharedModem

/-! ### One step -/

section

variable {s : SharedModem} (sound : s.Sound)

include sound

/-- The number of a request is one that the proxy can do with. -/
theorem Sound.range {o : Origin} {tid : UInt32} (asked : Asked s.processes o tid) :
    1 ≤ tid.toNat ∧ tid.toNat < 2 ^ 24 := by
  obtain ⟨w, written, -, rfl⟩ := asked
  have range := (sound.processes o.process).marked.counted.numbered.range w written
  rw [MbimClient.transactions] at range
  omega

/-- A process does something, and has this connection then. -/
theorem Sound.update_process {p : Nat} {new : Process}
    (more : ∀ w ∈ (s.processes p).log.written, w ∈ new.log.written)
    (connected : ∀ k, new.socket = some k → k < s.opened ∧ (s.sockets k).process = p)
    (process : new.Sound p) : Sound { s with processes := Function.update s.processes p new } := by
  have grows := grows_update more
  refine ⟨sound.wellFormed, sound.routed, sound.accepted, sound.numbered, ?_, ?_, ?_, ?_⟩
  · intro entry member
    obtain ⟨o, found, process, asked⟩ := sound.inFlight entry member
    exact ⟨o, found, process, asked.mono grows⟩
  · exact (Function.forall_update_iff _ _).mpr ⟨process, fun q _ => sound.processes q⟩
  · exact (Function.forall_update_iff _ (fun q (process : Process) => ∀ k,
      process.socket = some k → k < s.opened ∧ (s.sockets k).process = q)).mpr
        ⟨connected, fun q _ => sound.connected q⟩
  · exact fun k => (sound.sockets k).mono grows

theorem act_sound (p : Nat) {e : MbimClient.Event} (noMessage : ∀ m block, e ≠ .recv m block)
    (spares : (s.processes p).log.Spares e) {socket : Option Nat}
    (connected : ∀ k, socket = some k → k < s.opened ∧ (s.sockets k).process = p) :
    (s.act p e socket).Sound := by
  refine sound.update_process (fun w => List.mem_append_left _) connected ⟨?_, ?_⟩
  · exact (sound.processes p).marked.step noMessage spares
  · exact (sound.processes p).own

theorem connect_sound (p : Nat) : (s.connect p).Sound := by
  have grows : Grows s.processes (s.connect p).processes := grows_update fun w written => written
  have older {k : Nat} (before : k ≠ s.opened) : (s.connect p).sockets k = s.sockets k :=
    Function.update_of_ne before _ _
  refine ⟨sound.wellFormed, sound.routed, Nat.le_succ_of_le sound.accepted, sound.numbered,
    ?_, ?_, ?_, ?_⟩
  · intro entry member
    obtain ⟨o, found, process, asked⟩ := sound.inFlight entry member
    -- The connection of a request in flight has been accepted, so that it is not the new one.
    have accepted := Nat.lt_of_lt_of_le (sound.routed.tagged entry member).2.1 sound.accepted
    refine ⟨o, found, ?_, asked.mono grows⟩
    rw [older accepted.ne]
    exact process
  · refine (Function.forall_update_iff _ _).mpr ⟨?_, fun q _ => sound.processes q⟩
    exact ⟨(sound.processes p).marked, (sound.processes p).own⟩
  · refine (Function.forall_update_iff _ (fun q (process : Process) => ∀ k,
      process.socket = some k → k < s.opened + 1 ∧ ((s.connect p).sockets k).process = q)).mpr
        ⟨?_, fun q _ k same => ?_⟩
    · rintro k ⟨⟩
      exact ⟨Nat.lt_succ_self _, by simp [connect]⟩
    · obtain ⟨bound, process⟩ := sound.connected q k same
      rw [older bound.ne]
      exact ⟨Nat.lt_succ_of_lt bound, process⟩
  · refine (Function.forall_update_iff _ (fun _ (socket : Socket) =>
      socket.Sound (s.connect p).processes)).mpr ⟨?_, fun k _ => (sound.sockets k).mono grows⟩
    exact ⟨List.forall_mem_nil _, Nat.zero_le _, List.forall_mem_nil _⟩

/-- A connection has other contents. -/
theorem Sound.update_socket {k : Nat} {new : Socket} (socket : new.Sound s.processes)
    (process : new.process = (s.sockets k).process) :
    Sound { s with sockets := Function.update s.sockets k new } := by
  refine ⟨sound.wellFormed, sound.routed, sound.accepted, sound.numbered, ?_, sound.processes,
    ?_, ?_⟩
  · intro entry member
    dsimp only
    rw [process_update process]
    exact sound.inFlight entry member
  · intro p j same
    dsimp only
    rw [process_update process]
    exact sound.connected p j same
  · exact (Function.forall_update_iff _ (fun _ (socket : Socket) =>
      socket.Sound s.processes)).mpr ⟨socket, fun j _ => sound.sockets j⟩

theorem enqueue_sound {k : Nat} {sent : Nat × Message}
    (asked : Asked s.processes ⟨(s.sockets k).process, sent.1⟩ sent.2.transactionId)
    (short : (s.sockets k).fromClient.length + sent.2.bytes.length ≤ cmRecvBufferSize) :
    (s.enqueue k sent).Sound := by
  have before := sound.sockets k
  refine sound.update_socket ⟨?_, ?_, before.toClient⟩ rfl
  · intro other member
    rcases List.mem_append.mp member with old | new
    · exact before.toProxy other old
    · rw [List.mem_singleton.mp new]
      exact asked
  · rw [Socket.fromClient, List.flatMap_append, List.flatMap_singleton, List.length_append]
    exact short

theorem send_sound (p : Nat) (messageType : UInt32) (payload : List UInt8)
    (allocated ppCmdDone : Bool) (msecs : UInt32) (write : Int)
    (allowed : s.Allowed (.send p messageType payload allocated ppCmdDone msecs write)) :
    (s.send p messageType payload allocated ppCmdDone msecs write).Sound := by
  obtain ⟨spares, fits⟩ := allowed
  have noMessage : ∀ m block,
      sendEvent messageType payload allocated ppCmdDone msecs write ≠ .recv m block := by
    rintro m block ⟨⟩
  have after := act_sound sound p noMessage spares (sound.connected p)
  rw [send]
  split
  next request k writes connected =>
    split_ifs
    · refine enqueue_sound after ?_ ?_
      · -- The request that is in the stream is the one that the client has written.
        have written := (MbimClient.Log.step_composed writes).2
        refine ⟨((s.processes p).log.compositions, request), ?_, rfl, rfl⟩
        simp only [act, (sound.connected p k connected).2, Function.update_self, written]
        exact List.mem_append_right _ (.head _)
      · rw [length_bytes]
        exact fits k connected
    · exact after
  next => exact after

omit sound in
/-- An earlier request has the number of the last one only if a round of numbers is between them. -/
theorem same_composition {l : MbimClient.Log} (counted : l.Counted)
    {w w' : Nat × MbimClient.Request} (member : w ∈ l.written) (last : w' ∈ l.written)
    (isLast : w'.1 = l.compositions - 1)
    (inTime : l.compositions ≤ w.1 + MbimClient.transactions)
    (same : w.2.transactionId = w'.2.transactionId) : w.1 = w'.1 := by
  obtain ⟨before, number⟩ := counted.written w member
  have lastNumber := (counted.written w' last).2
  rw [same] at number
  rw [MbimClient.transactions] at *
  omega

/-- A message with the number of the waiting request is the answer to this request. -/
theorem Sound.origin_eq {p : Nat} {call : MbimClient.Call}
    (running : (s.processes p).log.state.call = some call) {delivery : Delivery}
    (right : delivery.Right s.processes p)
    (same : delivery.msg.transactionId = call.request.transactionId)
    (inTime : ∀ o ∈ delivery.origin,
      (s.processes p).log.compositions ≤ o.composition + MbimClient.transactions) :
    delivery.origin = some ⟨p, (s.processes p).log.compositions - 1⟩ := by
  have marked := (sound.processes p).marked
  obtain ⟨-, earlier, written⟩ := marked.current call running
  have last : ((s.processes p).log.compositions - 1, call.request) ∈
      (s.processes p).log.written := by
    rw [written]
    exact List.mem_append_right _ (.head _)
  cases origin : delivery.origin with
  | none =>
    -- An indication has no number, and a request has one.
    have range := (marked.counted.numbered.range _ last).1
    rw [← same, right.indication origin] at range
    cases range
  | some o =>
    obtain ⟨mine, w, member, composition, number⟩ := right.answer o origin
    have timely := inTime o origin
    rw [mine] at member
    rw [← composition] at timely
    have isLast : w.1 = (s.processes p).log.compositions - 1 :=
      same_composition marked.counted member last rfl timely (number.trans same)
    rw [← isLast, composition, ← mine]

theorem receive_sound (p : Nat) (cmRecvBuf : Memory) (block : Option Memory)
    (allowed : s.Allowed (.receive p cmRecvBuf block)) : (s.receive p cmRecvBuf block).Sound := by
  unfold receive
  split
  next => exact sound
  next k connected =>
    split
    next => exact sound
    next delivery rest stream =>
      have process := (sound.connected p k connected).2
      have right := (sound.sockets k).toClient delivery (by rw [stream]; exact .head _)
      rw [process] at right
      have taken : Sound { s with
          sockets := Function.update s.sockets k { s.sockets k with toClient := rest } } := by
        refine sound.update_socket ⟨(sound.sockets k).toProxy, (sound.sockets k).short, ?_⟩ rfl
        intro other member
        exact (sound.sockets k).toClient other (by rw [stream]; exact .tail _ member)
      have marked : ((s.processes p).log.step (.recv (Write.applyAll cmRecvBuf
          (proxyRead cmRecvBuf (s.sockets k).fromProxy).2) block)).Marked (fun c => some ⟨p, c⟩)
            ((s.processes p).origins ++ [delivery.origin]) := by
        refine (sound.processes p).marked.recv block fun call running same => ?_
        rw [Socket.fromProxy, stream, List.flatMap_cons, transactionId_proxyRead] at same
        refine sound.origin_eq running right same (allowed k connected delivery ?_)
        rw [stream]
        rfl
      refine taken.update_process ?_ (taken.connected p) ⟨marked, ?_⟩
      · intro w written
        rwa [(MbimClient.Log.step_uncomposed rfl).2]
      · intro o member
        rcases List.mem_append.mp member with old | new
        · exact (sound.processes p).own o old
        · exact (right.answer o (List.mem_singleton.mp new).symm).1

/-! ### One step of the proxy -/

/-- The proxy writes to the connections. -/
theorem Sound.deliver {out : List Output} {origin : Option Origin}
    (right : ∀ connection msg, .client connection msg ∈ out →
      Delivery.Right s.processes (s.sockets connection).process ⟨msg, origin⟩) :
    Sound { s with sockets := deliver out origin s.sockets } := by
  refine ⟨sound.wellFormed, sound.routed, sound.accepted, sound.numbered, sound.inFlight,
    sound.processes, sound.connected, fun k => ⟨?_, ?_, ?_⟩⟩
  · exact (sound.sockets k).toProxy
  · exact (sound.sockets k).short
  · intro delivery member
    rcases List.mem_append.mp member with old | new
    · exact (sound.sockets k).toClient delivery old
    · obtain ⟨output, written, same⟩ := List.mem_filterMap.mp new
      cases output with
      | device msg => cases same
      | client connection msg =>
        dsimp only at same
        split at same
        next here =>
          cases same
          exact here ▸ right connection msg written
        next => cases same

/-- The proxy takes a step after which no other requests are in flight. -/
theorem Sound.proxy_step {e : MbimProxy.Event} (inRange : e.InRange) (free : s.proxy.SlotFree e)
    (inFlight : ∀ entry ∈ (s.proxy.step e).inFlight, entry ∈ s.proxy.inFlight)
    (nextRequest : (s.proxy.step e).nextRequest = s.proxy.nextRequest)
    (accepted : (s.proxy.step e).nextConnection ≤ s.opened) :
    Sound { s with proxy := s.proxy.step e } where
  wellFormed := System.step_wellFormed sound.wellFormed e
  routed := System.step_routed sound.wellFormed sound.routed inRange free
  accepted := accepted
  numbered := sound.numbered.trans nextRequest.symm
  inFlight entry member := sound.inFlight entry (inFlight entry member)
  processes := sound.processes
  connected := sound.connected
  sockets := sound.sockets

theorem accept_sound (fd : Int) (allowed : s.Allowed (.accept fd)) : (s.accept fd).Sound := by
  rw [accept]
  split
  next waiting =>
    have same : (s.proxy.step (.connect fd)).inFlight = s.proxy.inFlight ∧
        (s.proxy.step (.connect fd)).nextRequest = s.proxy.nextRequest ∧
          (s.proxy.step (.connect fd)).nextConnection ≤ s.opened := by
      rw [System.step]
      split
      · exact ⟨rfl, rfl, sound.accepted⟩
      · exact ⟨rfl, rfl, waiting.2⟩
    obtain ⟨inFlight, nextRequest, accepted⟩ := same
    refine sound.proxy_step trivial allowed ?_ nextRequest accepted
    exact fun entry member => inFlight ▸ member
  next => exact sound

/-- A request has been read, and is in flight if it goes to the modem. -/
theorem Sound.read_request {fd : Int} (positive : 0 < fd) {i : Fin cmMaxClient}
    (found : firstSlot s.proxy.clients (·.clientFd = fd) = some i) (msg : Message)
    {composition : Nat}
    (asked : Asked s.processes ⟨(s.sockets (s.proxy.clients i).ident).process, composition⟩
      msg.transactionId) :
    Sound { s with
      proxy := s.proxy.step (.request fd msg)
      origins := s.origins ++ [⟨(s.sockets (s.proxy.clients i).ident).process, composition⟩] } := by
  have stepped : s.proxy.step (.request fd msg) = { s.proxy with
      inFlight := s.proxy.inFlight ++ (forwarded (handleClientRequest s.proxy.clients fd msg)).map
        fun written => ⟨written, (s.proxy.clients i).ident, s.proxy.nextRequest, msg.transactionId⟩
      nextRequest := s.proxy.nextRequest + 1 } := by
    rw [System.step, if_pos positive, System.request, found]
  have wellFormed := System.step_wellFormed sound.wellFormed (.request fd msg)
  have routed : (s.proxy.step (.request fd msg)).Routed :=
    System.step_routed sound.wellFormed sound.routed (sound.range asked) trivial
  refine ⟨wellFormed, routed, ?_, ?_, ?_, sound.processes, sound.connected, sound.sockets⟩
  · dsimp only
    rw [stepped]
    exact sound.accepted
  · dsimp only
    rw [stepped, List.length_append, sound.numbered]
    rfl
  · dsimp only
    rw [stepped]
    intro entry member
    rcases List.mem_append.mp member with old | new
    · obtain ⟨o, known, mine⟩ := sound.inFlight entry old
      have bound := (List.getElem?_eq_some_iff.mp known).1
      exact ⟨o, by rw [List.getElem?_append_left bound, known], mine⟩
    · obtain ⟨written, -, rfl⟩ := List.mem_map.mp new
      refine ⟨_, ?_, rfl, asked⟩
      dsimp only
      rw [← sound.numbered, List.getElem?_concat_length]

theorem forward_sound {fd : Int} (positive : 0 < fd) : (s.forward fd).Sound := by
  unfold forward
  split
  next => exact sound
  next i found =>
    dsimp only
    split
    next => exact sound
    next composition first rest stream =>
      have asked := (sound.sockets (s.proxy.clients i).ident).toProxy (composition, first)
        (by rw [stream]; exact .head _)
      have number := transactionId_ofBytes first (rest.flatMap fun sent => sent.2.bytes)
      have bytes : (s.sockets (s.proxy.clients i).ident).fromClient =
          first.bytes ++ rest.flatMap fun sent => sent.2.bytes := by
        rw [Socket.fromClient, stream, List.flatMap_cons]
      rw [bytes]
      generalize Message.ofBytes _ = msg at number ⊢
      dsimp only at asked
      rw [← number] at asked
      have emptied : Socket.Sound s.processes
          { s.sockets (s.proxy.clients i).ident with toProxy := [] } :=
        ⟨List.forall_mem_nil _, Nat.zero_le _, (sound.sockets (s.proxy.clients i).ident).toClient⟩
      have read := (sound.read_request positive found msg asked).update_socket
        (k := (s.proxy.clients i).ident) emptied rfl
      refine read.deliver fun connection answer written => ?_
      -- Only the answer to MBIM_OPEN_MSG or MBIM_CLOSE_MSG goes back at once.
      rw [handleClientRequest, found] at written
      dsimp only at written
      split at written
      · cases List.mem_singleton.mp written
        have short : (16 : Nat) ≤ MbimClient.recvBufSize := by decide
        refine ⟨⟨rfl, short⟩, by rintro ⟨⟩, ?_⟩
        rintro o ⟨⟩
        simp only [Function.update_self]
        exact ⟨trivial, asked⟩
      · cases List.mem_singleton.mp written

omit sound in
/-- The proxy changes nothing but the transaction of what it passes on. -/
theorem whole_of_response {clients : Clients} {response msg : Message} {connection : Nat}
    (whole : response.Whole)
    (written : .client connection msg ∈ handleDeviceResponse clients response) : msg.Whole := by
  rw [handleDeviceResponse] at written
  split at written
  · obtain ⟨i, -, same⟩ := List.mem_map.mp written
    cases same
    exact whole
  · split at written
    · cases List.mem_singleton.mp written
      rw [Message.Whole, length_bytes] at whole ⊢
      exact whole
    · cases written

theorem respond_sound (index : Nat) (messageType : UInt32) (payload : List UInt8)
    (allowed : s.Allowed (.respond index messageType payload)) :
    (s.respond index messageType payload).Sound := by
  unfold respond
  split
  next => exact sound
  next entry found =>
    dsimp only
    have member := List.mem_of_getElem? found
    obtain ⟨o, known, process, asked⟩ := sound.inFlight entry member
    have whole : (message messageType entry.msg.transactionId payload).Whole :=
      message_whole (Nat.le_trans (Nat.le_add_left _ _) allowed)
    have right := System.deliveries_eq sound.wellFormed (sound.routed.tagged entry member)
      (message messageType entry.msg.transactionId payload)
    change delivered (handleDeviceResponse s.proxy.clients
      (message messageType entry.msg.transactionId payload)) = _ at right
    generalize message messageType entry.msg.transactionId payload = response at right whole ⊢
    have stepped : s.proxy.step (.response index response) =
        s.proxy.respond index entry response := by
      rw [System.step, found]
    have answered : Sound { s with proxy := s.proxy.step (.response index response) } := by
      refine sound.proxy_step trivial trivial (fun other left => ?_) ?_ ?_
      · rw [stepped] at left
        exact List.mem_of_mem_eraseIdx left
      · rw [stepped]
        rfl
      · rw [stepped]
        exact sound.accepted
    refine answered.deliver fun connection msg written => ?_
    -- The response goes to the connection of the request alone, with its number.
    have received : (connection, msg.transactionId) ∈
        delivered (handleDeviceResponse s.proxy.clients response) :=
      List.mem_filterMap.mpr ⟨_, written, rfl⟩
    rw [right] at received
    split at received
    · obtain ⟨here, number⟩ := Prod.mk.inj (List.mem_singleton.mp received)
      rw [known]
      refine ⟨whole_of_response whole written, by rintro ⟨⟩, ?_⟩
      rintro other ⟨⟩
      dsimp only
      rw [here, number]
      exact ⟨process, asked⟩
    · cases received

theorem indicate_sound (messageType : UInt32) (payload : List UInt8)
    (allowed : s.Allowed (.indicate messageType payload)) :
    (s.indicate messageType payload).Sound := by
  have whole : (message messageType 0 payload).Whole :=
    message_whole (Nat.le_trans (Nat.le_add_left _ _) allowed)
  refine sound.deliver fun connection msg written => ⟨whole_of_response whole written, ?_, ?_⟩
  · intro _
    have broadcast : (message messageType 0 payload).transactionId = 0 := rfl
    rw [handleDeviceResponse, if_pos broadcast] at written
    obtain ⟨i, -, same⟩ := List.mem_map.mp written
    cases same
    rfl
  · rintro o ⟨⟩

theorem step_sound (e : Event) (allowed : s.Allowed e) : (s.step e).Sound := by
  have free {p : Nat} {e : MbimClient.Event}
      (nothing : (s.processes p).log.state.composed e = none) : (s.processes p).log.Spares e := by
    intro composed
    rw [nothing] at composed
    cases composed
  cases e with
  | start p fd =>
    have closed : (s.act p (.start fd) none).Sound :=
      act_sound sound p (by rintro m block ⟨⟩) (free rfl) (by rintro k ⟨⟩)
    change (SharedModem.start s p fd).Sound
    rw [start]
    split
    · exact connect_sound closed p
    · exact closed
  | send p messageType payload allocated ppCmdDone msecs write =>
    exact send_sound sound p messageType payload allocated ppCmdDone msecs write allowed
  | receive p cmRecvBuf block => exact receive_sound sound p cmRecvBuf block allowed
  | quit p => exact act_sound sound p (by rintro m block ⟨⟩) (free rfl) (by rintro k ⟨⟩)
  | wake p ret => exact act_sound sound p (by rintro m block ⟨⟩) (free rfl) (sound.connected p)
  | update p noted => exact act_sound sound p (by rintro m block ⟨⟩) (free rfl) (sound.connected p)
  | accept fd => exact accept_sound sound fd allowed
  | hangUp fd =>
    exact sound.proxy_step trivial trivial (fun _ member => member) rfl sound.accepted
  | forward fd =>
    change (if 0 < fd then s.forward fd else s).Sound
    split
    next positive => exact forward_sound sound positive
    next => exact sound
  | respond index messageType payload => exact respond_sound sound index messageType payload allowed
  | indicate messageType payload => exact indicate_sound sound messageType payload allowed

end

theorem Sound.readsWhole {s : SharedModem} (sound : s.Sound) : s.ReadsWhole where
  proxy k := (sound.sockets k).short
  client k delivery rest buf stream := by
    have right := (sound.sockets k).toClient delivery (by rw [stream]; exact .head _)
    rw [Socket.fromProxy, stream, List.flatMap_cons]
    exact proxyRead_whole buf right.whole _

theorem run_sound (events : List Event) (allowed : Guarded step Allowed {} events) :
    (run step {} events).Sound :=
  guarded_invariant step Allowed Sound (fun _ e sound allowed => step_sound sound e allowed) {}
    init_sound events allowed

/-- However the steps of the processes, of the proxy and of the modem follow one another: each read
takes what has been written as one message, the proxy gives every response to the connection of its
request, no process receives the answer to a request of another one, and a message that a call
returns is the answer to the request of this very call. -/
theorem calls_return_own_answers (events : List Event) (allowed : Guarded step Allowed {} events) :
    let s := run step {} events
    s.ReadsWhole ∧ (∀ answered ∈ s.proxy.answered, answered.Right) ∧
      ∀ p, (∀ o, some o ∈ (s.processes p).origins → o.process = p) ∧
        ∀ k r number copy, (s.processes p).log.state.returned[k]? = some r →
          r.pCmdDone = some (number, copy) →
            ∃ request m c, r.written = some request ∧
              (s.processes p).log.compositionOf k = some c ∧
              (s.processes p).origins[number]? = some (some ⟨p, c⟩) ∧
              (s.processes p).log.state.received[number]? = some m ∧
              MbimClient.transactionId m = request.transactionId ∧ MbimClient.CopyOf copy m := by
  intro s
  have sound : s.Sound := run_sound events allowed
  refine ⟨sound.readsWhole, sound.routed.right, fun p => ⟨(sound.processes p).own, ?_⟩⟩
  intro k r number copy found done
  have marked := (sound.processes p).marked
  obtain ⟨c, composition, origin⟩ := marked.returned k r number copy found done
  obtain ⟨-, -, request, written, m, received, same, copied, -⟩ :=
    marked.paired.returned r (List.mem_of_getElem? found) number copy done
  exact ⟨request, m, c, written, composition, origin, received, same, copied⟩

/-- A message of zeros. -/
def zeros : Memory := fun _ => 0

/-- Two processes send their first requests, and the second is answered before the first. -/
def twoProcesses : List Event := [.start 0 3, .start 1 3, .accept 5, .accept 6,
  .send 0 3 [] true true 1000 12, .send 1 3 [] true true 1000 12, .forward 5, .forward 6,
  .respond 1 0x80000003 [], .respond 0 0x80000003 [], .receive 0 zeros (some zeros),
  .receive 1 zeros (some zeros), .wake 0 0, .wake 1 0]

theorem calls_return_own_answers_swapped :
    let s := run step {} twoProcesses
    Guarded step Allowed {} twoProcesses ∧
      ∃ r number copy, (s.processes 0).log.state.returned[0]? = some r ∧
        r.pCmdDone = some (number, copy) ∧
          ∃ request m c, r.written = some request ∧ (s.processes 0).log.compositionOf 0 = some c ∧
            (s.processes 0).origins[number]? = some (some ⟨0, c⟩) ∧
            (s.processes 0).log.state.received[number]? = some m ∧
            MbimClient.transactionId m = request.transactionId ∧ MbimClient.CopyOf copy m := by
  intro s
  have allowed : Guarded step Allowed {} twoProcesses := by decide +kernel
  have answers := ((calls_return_own_answers twoProcesses allowed).2.2 0).2 0
  exact ⟨allowed, _, _, _, rfl, rfl, answers _ _ _ rfl rfl⟩

-- The next process in the slot of one that has gone takes its answer for its own.
example : ((run step {} [.start 0 3, .accept 5, .send 0 3 [] true true 1000 12, .forward 5, .quit 0,
    .hangUp 5, .start 1 3, .accept 5, .send 1 3 [] true true 1000 12, .respond 0 0x80000003 [],
    .receive 1 zeros (some zeros), .wake 1 0]).processes 1).origins = [some ⟨0, 0⟩] := by
  decide +kernel

end SharedModem
end LorawanFeeds.MbimProxy
