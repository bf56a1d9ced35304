import LorawanFeeds.Lib.Effect
import LorawanFeeds.Lib.Draft
import LorawanFeeds.Bridge.Base64

/-!
# The gateway bridge and its two peers

`lora-gateway-bridge.hpp` and the shared parts of `lora-gateway-bridge.cpp`. The bridge talks
the UDP packet-forwarder protocol with the concentrator and JSON over MQTT with the network
server. A handler is a computation over the actions below; the reads that the JSON library
leaves undefined on some arguments are actions too, so that the record of a handler shows
every argument they were used on.
-/
namespace LorawanFeeds.Bridge

open Lib

def protocolVersion : UInt8 := 2
def pktPushData : UInt8 := 0
def pktPushAck : UInt8 := 1
def pktPullData : UInt8 := 2
def pktPullResp : UInt8 := 3
def pktPullAck : UInt8 := 4
def pktTxAck : UInt8 := 5

/-- `sizeof(buffer_down)`. -/
def bufferDownSize : Nat := 1000

/-- `TX_BUFF_SIZE`, the size of `buffer_up`. -/
def txBuffSize : Nat := 540 * 255 + 30 + 200

abbrev Bytes := List UInt8

inductive Topic where
  | rxpk
  | downlink
  | downlinkAck
  | gatewayStat
  deriving DecidableEq, Repr

inductive Exception where
  | json (e : JsonError)
  | parseError
  | runtimeError
  deriving DecidableEq, Repr

/-- How a handler can stop: with an exception, or where C++ and the JSON library give the
program no meaning any more. -/
inductive Fault where
  | throws (e : Exception)
  | undefined
  deriving DecidableEq, Repr

inductive Action where
  /-- `operator[]` of a constant JSON value. -/
  | access (j : Json) (key : String)
  /-- Reading `stat_tb` at an index. -/
  | statTb (index : Int)
  /-- Copying into `buffer_down` at an offset. -/
  | memcpy (offset length : Nat)
  | push (payload : Bytes)
  | pop
  /-- `sendto` of an acknowledgement. -/
  | ack (datagram : Bytes)
  /-- `sendto` of the downlink that was taken from the queue. -/
  | pullResp (payload datagram : Bytes)
  | publish (topic : Topic) (doc : Json)

abbrev Handler := Eff Action Fault

/-- What the handlers use and do not change: the reader and the writer of the JSON library,
the configured topics, the gateway's identity, the clock and the gateway's address. -/
structure Env where
  parse : Bytes → Option Json
  dump : Json → Bytes
  topicPubRxpk : String
  topicPubDownlink : String
  topicPubDownlinkAck : String
  topicPubGatewayStat : String
  gatewayEui : Bytes
  now : Int64
  localIp : String

/-- Without the key, `operator[]` of a constant JSON value throws on anything but an object,
and has no defined meaning on an object. -/
def accessFault (j : Json) : Fault :=
  if j.isObject then .undefined else .throws (.json (.cannotIndex j.typeName))

/-- `operator[]` of a constant JSON value. -/
def access (j : Json) (key : String) : Handler Json := do
  -- The record shows the access whether or not the member is there.
  Eff.emit (.access j key)
  match j.get? key with
  | some v => pure v
  | none => Eff.raise (accessFault j)

def convert {α : Type} (x : Except JsonError α) : Handler α :=
  Eff.ofExcept x fun e => .throws (.json e)

/-- `json::parse`. -/
def parse (env : Env) (text : Bytes) : Handler Json :=
  match env.parse text with
  | some j => pure j
  | none => Eff.raise (.throws .parseError)

/-- `catch (const std::exception &)`; the exceptions of the JSON library are of that type. -/
def caught : Fault → Option Exception
  | .throws e => some e
  | .undefined => none

def ascii (bytes : Bytes) : String := String.ofList (bytes.map fun b => Char.ofNat b.toNat)

/-- `base_64_obj.encode(string(gateway_eui))`. -/
def encodeEui (env : Env) : Handler String :=
  match Base64.encode env.gatewayEui with
  | some text => pure (ascii text)
  | none => Eff.raise (.throws .runtimeError)

/-- The gateway's identity as the published documents show it. -/
def gatewayId (env : Env) : String := ascii (Base64.encoding env.gatewayEui)

@[simp] theorem encodeEui_eq (env : Env) : encodeEui env = pure (gatewayId env) := by
  simp [encodeEui, Base64.encode_eq, gatewayId]

/-- Assigns a member of `source` where there is one: `if (source.contains(key)) …`. -/
def copyIfPresent {F : Type} [DecidableEq F] {S : Schema F} (draft : Draft S) (place : F)
    (source : Json) (key : String) : Handler (Draft S) :=
  if source.contains key then do pure (draft.set place (← access source key))
  else pure draft

/-! ### The gateway's identity -/

def hexDigit (n : Nat) : UInt8 := if n < 10 then '0'.toUInt8 + n.toUInt8 else 'a'.toUInt8 + (n - 10).toUInt8

/-- `%02x`. -/
def hexByte (b : UInt8) : Bytes := [hexDigit (b.toNat / 16), hexDigit (b.toNat % 16)]

/-- `generate_gateway_id_by_mac`. -/
def generateGatewayIdByMac (mac : Fin 6 → UInt8) : Bytes :=
  -- An EUI-64: `fffe` in the middle of the hardware address.
  hexByte (mac 0) ++ hexByte (mac 1) ++ hexByte (mac 2) ++ ['f', 'f', 'f', 'e'].map Char.toUInt8 ++
    hexByte (mac 3) ++ hexByte (mac 4) ++ hexByte (mac 5)

theorem generateGatewayIdByMac_length (mac : Fin 6 → UInt8) :
    (generateGatewayIdByMac mac).length = 16 := rfl

/-- A gateway with all topics configured, over a given reader of JSON text. -/
def sampleEnv (parse : Bytes → Option Json) : Env where
  parse := parse
  dump _ := []
  topicPubRxpk := "rxpk"
  topicPubDownlink := "downlink"
  topicPubDownlinkAck := "downlink_ack"
  topicPubGatewayStat := "gateway_stat"
  gatewayEui := generateGatewayIdByMac fun i => i.val.toUInt8
  now := 1700000000
  localIp := "192.168.1.2"

theorem sampleEnv_eui {parse : Bytes → Option Json} :
    (sampleEnv parse).gatewayEui = generateGatewayIdByMac fun i => i.val.toUInt8 := rfl

/-- The same over a reader that accepts one text. -/
def textEnv (text : Bytes) (doc : Json) : Env :=
  sampleEnv fun input => if input = text then some doc else none

theorem textEnv_parse (text : Bytes) (doc : Json) : (textEnv text doc).parse text = some doc :=
  if_pos rfl

/-! ### The rules of the primitive actions -/

variable {P : Action → Prop} {E : Fault → Prop}

/-- What a constant `operator[]` comes to. -/
theorem sat_access (j : Json) (key : String) (Q : Json → Prop) :
    Eff.Sat P Q E (access j key) ↔ P (.access j key) ∧
      match j.get? key with
      | some v => Q v
      | none => E (accessFault j) := by
  rw [access]
  rw [Eff.sat_bind, Eff.sat_emit]
  cases j.get? key <;> simp

/-- `j[key]` of a value that has the member. -/
def member (j : Json) (key : String) : Json := (j.get? key).getD .null

theorem member_of_get? {j v : Json} {key : String} (found : j.get? key = some v) :
    member j key = v := by
  rw [member, found]
  rfl

/-- The value has the member, and it satisfies `P`. -/
def Has (j : Json) (key : String) (P : Json → Prop) : Prop := ∃ v, j.get? key = some v ∧ P v

theorem has_congr_of_get? {j : Json} {key : String} {P Q : Json → Prop}
    (same : ∀ v, j.get? key = some v → (P v ↔ Q v)) : Has j key P ↔ Has j key Q :=
  exists_congr fun v => and_congr_right (same v)

theorem has_congr {j : Json} {key : String} {P Q : Json → Prop} (same : ∀ v, P v ↔ Q v) :
    Has j key P ↔ Has j key Q :=
  has_congr_of_get? fun v _ => same v

theorem has_and_const {j : Json} {key : String} {P : Json → Prop} {Q : Prop} :
    (Has j key fun v => P v ∧ Q) ↔ Has j key P ∧ Q := by
  simp only [Has, ← and_assoc, exists_and_right]

theorem not_has {j : Json} (scalar : j.isObject = false) (key : String) (P : Json → Prop) :
    ¬ Has j key P := by
  rintro ⟨v, found, _⟩
  rw [Json.isObject_of_get? found] at scalar
  exact absurd scalar (by decide)

theorem not_contains {j : Json} (scalar : j.isObject = false) (key : String) :
    j.contains key = false := by
  cases j <;> simp_all [Json.isObject, Json.contains, Json.get?, Json.members, OrderedMap.find?]

theorem has_const {j : Json} {key : String} {P : Prop} :
    (Has j key fun _ => P) ↔ j.contains key ∧ P := by
  simp only [Has, exists_and_right, Json.contains_eq_true_iff]

theorem has_iff_contains {j : Json} {key : String} {P : Json → Prop} {Q : Prop}
    (same : ∀ v, P v ↔ Q) : Has j key P ↔ j.contains key ∧ Q :=
  (has_congr same).trans has_const

theorem access_of_get? {j v : Json} {key : String} (found : j.get? key = some v) :
    access j key = ⟨[.access j key], .ok v⟩ := by
  rw [access]
  rw [found]
  rfl

section Observed

variable {γ : Type} (view : Action → Option γ) {F : Type} [DecidableEq F] {S : Schema F}

/-- A constant `operator[]`, seen through a view that does not show it. -/
theorem observe_access (hidden : ∀ j key, view (.access j key) = none) (j : Json) (key : String) :
    (access j key).observe view =
      match j.get? key with
      | some v => pure v
      | none => Eff.raise (accessFault j) := by
  rw [access, Eff.observe_bind, Eff.observe_emit_of_none (hidden j key), Eff.pure_bind]
  cases j.get? key <;> rfl

theorem observe_access_of_contains (hidden : ∀ j key, view (.access j key) = none) {j : Json}
    {key : String} (present : j.contains key) :
    (access j key).observe view = pure (member j key) := by
  obtain ⟨v, found⟩ := (Json.contains_eq_true_iff j key).mp present
  rw [observe_access view hidden, member_of_get? found, found]

/-- What `copyIfPresent` assigns. -/
def copied (place : F) (source : Json) (key : String) : List (F × Json) :=
  if source.contains key then [(place, member source key)] else []

theorem observe_copyIfPresent (hidden : ∀ j key, view (.access j key) = none) (draft : Draft S)
    (place : F) (source : Json) (key : String) :
    (copyIfPresent draft place source key).observe view =
      pure (draft.setAll (copied place source key)) := by
  rw [copyIfPresent, copied]
  split
  next present => simp [observe_access_of_contains view hidden present]
  next => simp

end Observed

end LorawanFeeds.Bridge
