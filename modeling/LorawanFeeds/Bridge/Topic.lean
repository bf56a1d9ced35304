import LorawanFeeds.Lib.JsonText
import LorawanFeeds.Lib.Proc
import LorawanFeeds.Bridge.Protocol

/-!
# The topics of the bridge

`lora_bridge_set_mqtt_topic` of `lora-gateway-bridge.cpp`. The topics stand in a file together with
the EUI of the gateway they were made for; a file that cannot be read or that was made for another
gateway is replaced by the default topics.
-/
namespace LorawanFeeds.Bridge

open Lib

/-- The topics of the bridge, in the order in which the programs read them. -/
structure Topics where
  topicPubRxpk : String := ""
  topicPubDownlink : String := ""
  topicPubDownlinkAck : String := ""
  topicPubGatewayStat : String := ""
  topicSubTxpk : String := ""
  deriving DecidableEq, Repr

/-- The globals of the bridge that the start-up sets, and the topic file. -/
structure Startup where
  file : Option Bytes
  gatewayEui : Bytes := []
  topics : Topics := {}

/-- The document of the topic file, one assignment after the other. -/
def settingJson (eui : String) (topics : Topics) : Json :=
  ((((((Json.null.put ["gateway_eui"] (.str eui)).put
    ["topic_pub_rxpk"] (.str topics.topicPubRxpk)).put
    ["topic_pub_downlink"] (.str topics.topicPubDownlink)).put
    ["topic_pub_downlink_ack"] (.str topics.topicPubDownlinkAck)).put
    ["topic_pub_gateway_stat"] (.str topics.topicPubGatewayStat)).put
    ["topic_sub_txpk"] (.str topics.topicSubTxpk))

/-- The `try` block at the begin of both programs: the document and its EUI. Where it throws, the
EUI stays empty. -/
def localTopic (lib : JsonText) (file : Option Bytes) : Json × String :=
  match file.bind lib.read with
  | none => (.null, "")
  | some localJson =>
    match localJson.index "gateway_eui" >>= Json.asString with
    | .ok eui => (localJson, eui)
    | .error _ => (localJson, "")

/-- `topic = local_json[key]`. -/
def adoptTopic (localJson : Json) (key : String) (set : Topics → String → Topics) :
    Proc Startup JsonError Unit := do
  let topic ← Proc.ofExcept (localJson.index key >>= Json.asString)
  Proc.modify fun s => { s with topics := set s.topics topic }

/-- `lora_bridge_set_mqtt_topic`. The hardware address is missing where it cannot be read. -/
def loraBridgeSetMqttTopic (lib : JsonText) (mac : Option (Fin 6 → UInt8)) :
    Proc Startup JsonError Int := do
  let s ← Proc.get
  match mac with
  | none => return -1
  | some mac =>
    Proc.modify fun s => { s with gatewayEui := generateGatewayIdByMac mac }
    let gatewayEui := ascii (generateGatewayIdByMac mac)
    if (localTopic lib s.file).2 ≠ gatewayEui then
      let topics : Topics :=
        { topicPubRxpk := "gateway/" ++ gatewayEui ++ "/event/" ++ "up"
          topicPubDownlink := "gateway/" ++ gatewayEui ++ "/event/" ++ "down"
          topicPubDownlinkAck := "gateway/" ++ gatewayEui ++ "/event/" ++ "ack"
          topicPubGatewayStat := "gateway/" ++ gatewayEui ++ "/event/" ++ "stat"
          topicSubTxpk := "gateway/" ++ gatewayEui ++ "/event/" ++ "tx" }
      Proc.modify fun s => { s with
        topics
        file := some (lib.dump (settingJson gatewayEui topics) ++ [10]) }
      return 0
    else
      let localJson := (localTopic lib s.file).1
      adoptTopic localJson "topic_pub_rxpk" fun t topic => { t with topicPubRxpk := topic }
      adoptTopic localJson "topic_pub_downlink" fun t topic => { t with topicPubDownlink := topic }
      adoptTopic localJson "topic_pub_downlink_ack" fun t topic =>
        { t with topicPubDownlinkAck := topic }
      adoptTopic localJson "topic_pub_gateway_stat" fun t topic =>
        { t with topicPubGatewayStat := topic }
      adoptTopic localJson "topic_sub_txpk" fun t topic => { t with topicSubTxpk := topic }
      return 0

end LorawanFeeds.Bridge
