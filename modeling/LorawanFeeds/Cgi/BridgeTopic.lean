import LorawanFeeds.Bridge.Topic

/-!
# The topics of the bridge in the CGI program

`cgicpp-bridge-topic.cpp`, and the gateway's EUI of `cgicpp-lorawan-mode.cpp`. The CGI program
reads and writes the topic file of the bridge on its own.
-/
namespace LorawanFeeds.Cgi

open Lib Bridge

def hexDigitUpper (n : Nat) : UInt8 :=
  if n < 10 then '0'.toUInt8 + n.toUInt8 else 'A'.toUInt8 + (n - 10).toUInt8

/-- `%02X`. -/
def hexByteUpper (b : UInt8) : Bytes := [hexDigitUpper (b.toNat / 16), hexDigitUpper (b.toNat % 16)]

/-- `generate_gateway_id_by_mac` of the CGI program. -/
def generateGatewayIdByMac (mac : Fin 6 → UInt8) : Bytes :=
  let byte (i : Nat) (inside : i < 6) : Bytes := hexByteUpper (mac ⟨i, inside⟩)
  byte 0 (by decide) ++ byte 1 (by decide) ++ byte 2 (by decide) ++
    ['F', 'F', 'F', 'E'].map Char.toUInt8 ++
    byte 3 (by decide) ++ byte 4 (by decide) ++ byte 5 (by decide)

/-- `std::tolower`. -/
def tolower (c : UInt8) : UInt8 := if 'A'.toUInt8 ≤ c ∧ c ≤ 'Z'.toUInt8 then c + 32 else c

/-- `get_tolower_gateway_eui`. -/
def getTolowerGatewayEui (mac : Option (Fin 6 → UInt8)) : Option String :=
  mac.map fun mac => ascii ((generateGatewayIdByMac mac).map tolower)

/-- `generate_bridge_mqtt_topic`: the code, the answer and the topic file. -/
def generateBridgeMqttTopic (lib : JsonText) (mac : Option (Fin 6 → UInt8))
    (file : Option Bytes) : Int × Bytes × Option Bytes :=
  let (localJson, eui) := localTopic lib file
  match getTolowerGatewayEui mac with
  | none => (-1, [], file)
  | some strEui =>
    if eui ≠ strEui then
      let settingJson := settingJson strEui
        { topicPubRxpk := "gateway/" ++ strEui ++ "/event/" ++ "up"
          topicPubDownlink := "gateway/" ++ strEui ++ "/event/" ++ "down"
          topicPubDownlinkAck := "gateway/" ++ strEui ++ "/event/" ++ "ack"
          topicPubGatewayStat := "gateway/" ++ strEui ++ "/event/" ++ "stat"
          topicSubTxpk := "gateway/" ++ strEui ++ "/event/" ++ "tx" }
      (0, lib.dump settingJson, some (lib.dump settingJson ++ [10]))
    else (0, lib.dump localJson, file)

/-- `str.find(format) != string::npos`. -/
def containsText (str format : String) : Prop := format.toList <:+: str.toList

instance (str format : String) : Decidable (containsText str format) :=
  inferInstanceAs (Decidable (format.toList <:+: str.toList))

/-- `remote_json["body"][key].get_to(topic)`. -/
def bodyTopic (remoteJson : Json) (key : String) : Except JsonError String := do
  let body ← remoteJson.index "body"
  let topic ← body.index key
  topic.asString

/-- The topics of a request, read one after the other. -/
def bodyTopics (remoteJson : Json) : Except JsonError Topics := do
  let topicPubRxpk ← bodyTopic remoteJson "topic_pub_rxpk"
  let topicPubDownlink ← bodyTopic remoteJson "topic_pub_downlink"
  let topicPubDownlinkAck ← bodyTopic remoteJson "topic_pub_downlink_ack"
  let topicPubGatewayStat ← bodyTopic remoteJson "topic_pub_gateway_stat"
  let topicSubTxpk ← bodyTopic remoteJson "topic_sub_txpk"
  return { topicPubRxpk, topicPubDownlink, topicPubDownlinkAck, topicPubGatewayStat, topicSubTxpk }

/-- The assignments to the document of the topic file. -/
def assignTopics (localJson : Json) (topics : Topics) : Except JsonError Json := do
  let localJson ← localJson.assign ["topic_pub_rxpk"] (.str topics.topicPubRxpk)
  let localJson ← localJson.assign ["topic_pub_downlink"] (.str topics.topicPubDownlink)
  let localJson ← localJson.assign ["topic_pub_downlink_ack"] (.str topics.topicPubDownlinkAck)
  let localJson ← localJson.assign ["topic_pub_gateway_stat"] (.str topics.topicPubGatewayStat)
  localJson.assign ["topic_sub_txpk"] (.str topics.topicSubTxpk)

/-- Every topic of the request has the EUI and `event` in it. -/
def Formatted (topics : Topics) (format : String) : Prop :=
  containsText topics.topicPubRxpk format ∧ containsText topics.topicPubDownlink format ∧
    containsText topics.topicPubDownlinkAck format ∧
    containsText topics.topicPubGatewayStat format ∧ containsText topics.topicSubTxpk format

/-- The topic for downlinks is none of the others. -/
def Distinct (topics : Topics) : Prop :=
  topics.topicSubTxpk ≠ topics.topicPubRxpk ∧ topics.topicSubTxpk ≠ topics.topicPubDownlink ∧
    topics.topicSubTxpk ≠ topics.topicPubDownlinkAck ∧
    topics.topicSubTxpk ≠ topics.topicPubGatewayStat

instance (topics : Topics) (format : String) : Decidable (Formatted topics format) :=
  inferInstanceAs (Decidable (_ ∧ _))

instance (topics : Topics) : Decidable (Distinct topics) :=
  inferInstanceAs (Decidable (_ ∧ _))

def failedToSet : Int × String := (-1, "Failed to set Bridge Topic.")

/-- `set_bridge_mqtt_topic`: the code, the answer and the topic file. -/
def setBridgeMqttTopic (lib : JsonText) (mac : Option (Fin 6 → UInt8)) (inputJson : Bytes)
    (file : Option Bytes) : (Int × String) × Option Bytes :=
  match getTolowerGatewayEui mac with
  | none => ((-1, ""), file)
  | some strEui =>
    let format := strEui ++ "/event"
    match file.bind lib.read, lib.parse inputJson with
    | some localJson, some remoteJson =>
      match bodyTopics remoteJson with
      | .error _ => (failedToSet, file)
      | .ok topics =>
        if ¬ Formatted topics format then
          ((-1, "The Topic format must include the \x7bgateway_eui\x7d/event field."), file)
        else if ¬ Distinct topics then
          ((-1, "The Topic used for tx must be diffrent from other topics."), file)
        else
          match assignTopics localJson topics with
          | .error _ => (failedToSet, file)
          | .ok localJson => ((0, ""), some (lib.dump localJson ++ [10]))
    | _, _ => (failedToSet, file)

end LorawanFeeds.Cgi
