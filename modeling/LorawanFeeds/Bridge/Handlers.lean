import LorawanFeeds.Lib.Run
import LorawanFeeds.Bridge.Downlink

/-!
# The handlers and the two threads

`on_message` runs in the thread of the MQTT client, `read_cb` in the event loop of the UDP
socket. They share `queue_downlink`: `on_message` locks it for each push, `read_cb` for the
whole of `response_pkt_pull_data`. So a call of `on_message` is a sequence of actions between
which datagrams may be handled, and a call of `read_cb` is one step.
-/
namespace LorawanFeeds.Bridge

open Lib

/-! ### Datagrams from the concentrator -/

/-- `buffer_up[i]`: the buffer is cleared before each datagram. -/
def bufferUp (datagram : Bytes) (i : Nat) : UInt8 := (datagram.take txBuffSize).getD i 0

/-- The text at `buffer_up + 12`, which ends at the first zero. -/
def jsonText (datagram : Bytes) : Bytes :=
  ((datagram.take txBuffSize).drop 12).takeWhile (· ≠ 0)

/-- The version, the token of the request and the packet type. -/
def header (datagram : Bytes) (kind : UInt8) : Bytes :=
  [bufferUp datagram 0, bufferUp datagram 1, bufferUp datagram 2, kind]

/-- `uint8_t ack[32]`. -/
def ackDatagram (datagram : Bytes) (kind : UInt8) : Bytes :=
  header datagram kind ++ List.replicate 28 0

/-- `buffer_down` after the copy of a message that fits: cleared, the header, and the message. -/
def pullRespDatagram (datagram message : Bytes) : Bytes :=
  (header datagram pktPullResp ++ message ++ List.replicate bufferDownSize 0).take bufferDownSize

def responsePktPushData (env : Env) (datagram : Bytes) : Handler Int := do
  -- The datagram is acknowledged before it is parsed.
  Eff.emit (.ack (ackDatagram datagram pktPushAck))
  Eff.tryCatch
    (do
      let uplinkJson ← parse env (jsonText datagram)
      Eff.when (env.topicPubGatewayStat ≠ "" ∧ uplinkJson.contains "stat")
        (publishChirpstackFormatStatJson env uplinkJson)
      Eff.when (env.topicPubRxpk ≠ "" ∧ uplinkJson.contains "rxpk")
        (publishChirpstackFormatUplinkJson env uplinkJson)
      pure 0)
    caught (fun _ => pure (-1))

inductive TxAckField where
  | gatewayID | gatewayTimestamp | downlinkAck
  deriving DecidableEq, Repr

def TxAckField.path : TxAckField → List String
  | .gatewayID => ["gatewayID"]
  | .gatewayTimestamp => ["gatewayTimestamp"]
  | .downlinkAck => ["downlinkAck"]

def txAckSchema : Schema TxAckField :=
  .ofList TxAckField.path [.gatewayID, .gatewayTimestamp, .downlinkAck]
    (fun f => by cases f <;> decide) (by decide)

def publishChirpstackFormatDownlinkAckJson (env : Env) (jsonAck : Json) : Handler Unit := do
  let draft : Draft txAckSchema := .empty
  let draft := draft.set .gatewayID (.str (← encodeEui env))
  let draft := draft.set .gatewayTimestamp (.int env.now)
  let draft := draft.set .downlinkAck (← access jsonAck "txpk_ack")
  Eff.emit (.publish .downlinkAck draft.json)

def recievePktTxAck (env : Env) (datagram : Bytes) : Handler Int :=
  Eff.tryCatch
    (do
      let txackJson ← parse env (jsonText datagram)
      Eff.when (env.topicPubDownlinkAck ≠ "" ∧ txackJson.contains "txpk_ack")
        (publishChirpstackFormatDownlinkAckJson env txackJson)
      pure 0)
    caught (fun _ => pure 0)

/-- The part of `response_pkt_pull_data` behind the `sendto`: what was sent is published. -/
def echoDownlink (env : Env) (message : Bytes) : Handler Int :=
  Eff.tryCatch
    (do
      let downlinkJson ← parse env message
      Eff.when (env.topicPubDownlink ≠ "" ∧ downlinkJson.contains "txpk")
        (publishChirpstackFormatDownlinkJson env downlinkJson)
      pure 0)
    caught (fun _ => pure (-1))

/-- A message that does not fit is copied past the end of `buffer_down`, onto other variables of the
program. C++ gives what follows no meaning, and nothing more is said of the handler. -/
def responsePktPullData (env : Env) (queueDownlink : List Bytes) (datagram : Bytes) :
    Handler Int :=
  match queueDownlink with
  | [] => do
    Eff.emit (.ack (ackDatagram datagram pktPullAck))
    pure 0
  | message :: _ => do
    Eff.emit .pop
    -- The copy has no bound but the length of the message.
    Eff.emit (.memcpy 4 message.length)
    if 4 + message.length ≤ bufferDownSize then do
      Eff.emit (.pullResp message (pullRespDatagram datagram message))
      echoDownlink env message
    else Eff.raise .undefined

/-- `map_udp_pkt_cb`; other packet types have no handler. -/
def udpPktCb (env : Env) (queueDownlink : List Bytes) (datagram : Bytes) : Handler Int :=
  let mode := bufferUp datagram 3
  if mode = pktPushData then responsePktPushData env datagram
  else if mode = pktPullData then responsePktPullData env queueDownlink datagram
  else if mode = pktTxAck then recievePktTxAck env datagram
  else pure 0

/-- `read_cb`; a failed `recvfrom` is the empty datagram. -/
def readCb (env : Env) (queueDownlink : List Bytes) (datagram : Bytes) : Handler Unit :=
  if datagram = [] ∨ bufferUp datagram 0 ≠ protocolVersion then pure ()
  else do
    let _ ← udpPktCb env queueDownlink datagram
    pure ()

/-! ### Messages from the network server -/

def onMessage (env : Env) (payload : Bytes) : Handler Unit :=
  match env.parse payload with
  | none => pure ()
  | some jsonDownlink =>
    -- A `txpk` is queued as it came.
    if jsonDownlink.contains "txpk" then Eff.emit (.push payload)
    else if jsonDownlink.contains "downlinkItems" then
      parseRemoteDownlinkItemsJson env jsonDownlink
    else pure ()

/-! ### The system -/

structure State where
  queueDownlink : List Bytes := []
  /-- What is left of the call of `on_message` in progress. -/
  mqtt : List Action := []
  /-- How that call will end. -/
  mqttEnd : Except Fault Unit := .ok ()
  /-- All actions so far. -/
  trace : List Action := []
  /-- The fault that left a handler, after which the process is gone. -/
  down : Option Fault := none

def State.init : State := {}

/-- The effect of one action on the shared state. -/
def State.perform (s : State) (a : Action) : State :=
  let s := { s with trace := s.trace ++ [a] }
  match a with
  | .push payload => { s with queueDownlink := s.queueDownlink ++ [payload] }
  | .pop => { s with queueDownlink := s.queueDownlink.tail }
  | _ => s

/-- The payloads pushed, in push order. -/
def pushes (trace : List Action) : List Bytes :=
  trace.filterMap fun
    | .push payload => some payload
    | _ => none

/-- The payloads taken from the queue and handed to `sendto`, in that order. -/
def handovers (trace : List Action) : List Bytes :=
  trace.filterMap fun
    | .pullResp payload _ => some payload
    | _ => none

/-- The datagrams handed to `sendto`. -/
def sent (trace : List Action) : List Bytes :=
  trace.filterMap fun
    | .ack datagram | .pullResp _ datagram => some datagram
    | _ => none

def State.finish (s : State) : Except Fault Unit → State
  | .ok () => s
  | .error fault => { s with down := some fault }

inductive Event where
  /-- The MQTT client calls `on_message`. -/
  | message (payload : Bytes)
  /-- The MQTT thread does its next action. -/
  | mqttStep
  /-- The event loop calls `read_cb`. -/
  | datagram (bytes : Bytes)

/-- One step of the two threads; nothing happens any more once the process is down, and a
new message waits for the end of the call before it. -/
def step (env : Env) (s : State) (e : Event) : State :=
  if s.down.isSome then s
  else match e with
    | .message payload =>
      if s.mqtt = [] then
        let call := onMessage env payload
        -- A call without actions is over at once.
        match call.events with
        | [] => s.finish call.result
        | _ => { s with mqtt := call.events, mqttEnd := call.result }
      else s
    | .mqttStep =>
      match s.mqtt with
      | [] => s
      -- The call ends with its last action, for better or worse.
      | [last] => ({ s with mqtt := [] }.perform last).finish s.mqttEnd
      | next :: rest => { s with mqtt := rest }.perform next
    | .datagram bytes =>
      -- The lock is held for the whole call, so that it is one step.
      let call := readCb env s.queueDownlink bytes
      (call.events.foldl State.perform s).finish call.result

end LorawanFeeds.Bridge
