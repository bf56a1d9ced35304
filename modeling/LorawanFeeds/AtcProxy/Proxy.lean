import LorawanFeeds.AtChannel.Channel
import LorawanFeeds.Lib.Poll

/-!
# The AT proxy

`quectel-atc-proxy.c` lets several clients send AT commands to one modem. The loop of the proxy
executes one command after the other; meanwhile the reader thread of the AT channel hands all
lines of the modem to `onUnsolicited`, which writes them to the client whose command is being
executed, or to all if there is none. The loop looks for this client with an element of
`pollfds` that lies behind those in use.
-/
namespace LorawanFeeds.AtcProxy

open Lib AtChannel

/-- `ATC_PROXY_CONNECTION`. Its number stands for its address, which is not used again here. -/
structure Connection where
  clientFd : Int
  ident : Nat
  deriving DecidableEq, Repr

/-- A line that came while a command was executed: whose command, and who has received the line. -/
structure Reply where
  client : Nat
  receivers : List Nat
  deriving DecidableEq, Repr

def pollfdsSize : Nat := 2 + 64
def atcBufSize : Nat := 4096

structure Proxy where
  atcDevFd : Int
  atcProxyServerFd : Int := -1
  connections : List Connection := []
  /-- `current_client_fd`, which may point to a connection that has been freed. -/
  current : Option Nat := none
  channel : Channel := { atcProxy := true }
  /-- The connection whose command the thread of the loop waits for. -/
  executing : Option Nat := none
  /-- The number of elements of `pollfds` that are in use in this round. -/
  nevents : Nat := 0
  /-- What the memory behind them holds for a descriptor. -/
  garbage : Int := 0
  nextConnection : Nat := 0
  /-- The elements of `pollfds` that the client was looked for with, and how many were in use. -/
  consulted : List (Nat × Nat) := []
  replies : List Reply := []
  /-- Freed memory has been used. -/
  corrupt : Bool := false
  deriving DecidableEq, Repr

inductive Other where
  | openServer (fd : Nat)
  /-- The unused part of `pollfds` is on the stack, and not set to anything. -/
  | garbage (fd : Int)
  /-- The reader handles a line; the writes to some descriptors fail. -/
  | line (line : Line) (fails : List Int)
  /-- The reader passes on an unsolicited message of two lines, whatever command is executed. -/
  | sms (fails : List Int)
  /-- `at_send_command` returns. -/
  | finish
  deriving DecidableEq, Repr

namespace Proxy

/-- The descriptors in `pollfds`, in order. -/
def polled (p : Proxy) : List Int :=
  ([p.atcDevFd] ++ (if 0 < p.atcProxyServerFd then [p.atcProxyServerFd] else []) ++
    p.connections.map Connection.clientFd).take pollfdsSize

/-- `accept_atc_connection`. -/
def acceptAtcConnection (p : Proxy) (clientFd : Int) : Proxy :=
  { p with
    connections := p.connections ++ [⟨clientFd, p.nextConnection⟩]
    nextConnection := p.nextConnection + 1 }

/-- `cleanup_atc_connection`. -/
def cleanupAtcConnection (p : Proxy) (clientFd : Int) : Proxy :=
  match p.connections.find? (·.clientFd = clientFd) with
  | none => p
  | some con =>
    { p with
      connections := p.connections.eraseP (·.clientFd = clientFd)
      current := if p.current = some con.ident then none else p.current }

/-- The loop of `onUnsolicited` over all connections. -/
def broadcast (p : Proxy) (fails : List Int) : Proxy × List Nat :=
  let receivers := p.connections.filter (0 < ·.clientFd)
  let kept := p.connections.filter fun con => ¬ (0 < con.clientFd ∧ con.clientFd ∈ fails)
  ({ p with connections := kept }, receivers.map Connection.ident)

/-- `onUnsolicited`, with the connections that the line is written to. A current client that cannot
be written to is freed, and stays the current one. -/
def onUnsolicited (p : Proxy) (fails : List Int) : Proxy × List Nat :=
  match p.current with
  | none => p.broadcast fails
  | some ident =>
    match p.connections.find? (·.ident = ident) with
    | none => ({ p with corrupt := true }, [])
    | some con =>
      (if con.clientFd ∈ fails then { p with connections := p.connections.erase con } else p,
        [con.ident])

/-- A call of `onUnsolicited` for a line of the modem. -/
def deliver (p : Proxy) (fails : List Int) : Proxy :=
  let written := p.onUnsolicited fails
  { written.1 with
    replies := p.replies ++ p.executing.toList.map fun client => ⟨client, written.2⟩ }

/-- The reader handles a line with `processLine`. -/
def handleLine (p : Proxy) (line : Line) (fails : List Int) : Proxy :=
  let channel := p.channel.processLine line
  (channel.unsolicited.drop p.channel.unsolicited.length).foldl (fun p _ => p.deliver fails)
    { p with channel := channel }

/-- A client's command, up to the wait in `at_send_command`. The list is searched for the descriptor
at `pollfds[nevents]`; if there is none, the current client stays what it was. -/
def beginCommand (p : Proxy) (fd : Int) (command : Line) : Proxy :=
  { p with
    consulted := p.consulted ++ [(p.nevents, p.nevents)]
    current := match p.connections.find? (·.clientFd = p.garbage) with
      | some con => some con.ident
      | none => p.current
    executing := (p.connections.find? (·.clientFd = fd)).map Connection.ident
    channel := p.channel.beginCommand command .noResult [] none }

/-- `at_send_command` has returned. -/
def finishCommand (p : Proxy) : Proxy :=
  match p.executing with
  | none => p
  | some _ =>
    { p with current := none, executing := none, channel := p.channel.clearPendingCommand }

/-- The body of the loop over `pollfds`. The modem is read by the other thread. -/
def body (p : Proxy) (fd : Int) : Ready → Flow Proxy Unit
  | .quiet => .next p
  | .hangUp =>
    if fd = p.atcDevFd then .leave () p
    else if fd = p.atcProxyServerFd then .next p
    else .next (p.cleanupAtcConnection fd)
  | .readable accepted chunk =>
    let chunk := chunk.take atcBufSize
    if fd = p.atcProxyServerFd then .next (p.acceptAtcConnection accepted)
    else if fd = p.atcDevFd then .next p
    else if chunk = [] then .stop (p.cleanupAtcConnection fd)
    else .next (p.beginCommand fd (chunk.map fun byte => Char.ofNat byte.toNat))

/-- The `while` loop behind `atc_proxy_loop_exit`. -/
def closeAll (p : Proxy) : Proxy :=
  p.connections.foldl (fun p con => p.cleanupAtcConnection con.clientFd) p

def other (p : Proxy) : Other → Proxy
  | .openServer fd => if p.atcProxyServerFd = -1 then { p with atcProxyServerFd := fd } else p
  | .garbage fd => { p with garbage := fd }
  | .line line fails => p.handleLine line fails
  | .sms fails => (p.onUnsolicited fails).1
  | .finish => p.finishCommand

end Proxy

def atcProxyLoop : PollProgram Proxy Other Unit where
  polled := Proxy.polled
  begins p := { p with nevents := p.polled.length }
  blocked p := p.executing.isSome
  body := Proxy.body
  cleanup _ := Proxy.closeAll
  pollError := ()
  other := Proxy.other

abbrev Loop := PollLoop Proxy Unit

def Loop.init (atcDevFd : Nat) : Loop := { state := { atcDevFd := atcDevFd } }

end LorawanFeeds.AtcProxy
