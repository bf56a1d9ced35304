import LorawanFeeds.Lib.JsonCodec
import LorawanFeeds.Lib.Run
import LorawanFeeds.Cgi.BridgeTopic

/-!
# One topic file, two programs

The CGI program and the bridge make the same EUI from the hardware address and the same file from
it. So the file always is what one of them has written: the default topics, or those of the last
request that has been accepted.
-/
namespace LorawanFeeds.Cgi

open Lib Bridge

/-! ### The EUI -/

theorem tolower_hexDigitUpper : ∀ n < 16, tolower (hexDigitUpper n) = hexDigit n := by decide

theorem tolower_hexByteUpper (b : UInt8) : (hexByteUpper b).map tolower = hexByte b := by
  have bound := b.toNat_lt
  simp only [hexByteUpper, hexByte, List.map_cons, List.map_nil]
  rw [tolower_hexDigitUpper _ (by omega), tolower_hexDigitUpper _ (by omega)]

/-- Upper case and then lower case is lower case. -/
theorem tolower_generateGatewayIdByMac (mac : Fin 6 → UInt8) :
    (generateGatewayIdByMac mac).map tolower = Bridge.generateGatewayIdByMac mac := by
  simp only [generateGatewayIdByMac, Bridge.generateGatewayIdByMac, List.map_append,
    tolower_hexByteUpper]
  rfl

/-- The gateway's EUI, as both programs make it. -/
def ownEui (mac : Fin 6 → UInt8) : String := ascii (Bridge.generateGatewayIdByMac mac)

@[simp] theorem getTolowerGatewayEui_some (mac : Fin 6 → UInt8) :
    getTolowerGatewayEui (some mac) = some (ownEui mac) := by
  rw [getTolowerGatewayEui, Option.map_some, tolower_generateGatewayIdByMac, ownEui]

theorem ownEui_ne_empty (mac : Fin 6 → UInt8) : ownEui mac ≠ "" := by
  intro empty
  have length := congrArg String.length empty
  simp [ownEui, ascii, generateGatewayIdByMac_length] at length

/-! ### The file -/

def defaultTopics (eui : String) : Topics where
  topicPubRxpk := "gateway/" ++ eui ++ "/event/" ++ "up"
  topicPubDownlink := "gateway/" ++ eui ++ "/event/" ++ "down"
  topicPubDownlinkAck := "gateway/" ++ eui ++ "/event/" ++ "ack"
  topicPubGatewayStat := "gateway/" ++ eui ++ "/event/" ++ "stat"
  topicSubTxpk := "gateway/" ++ eui ++ "/event/" ++ "tx"

/-- The members of the topic file in their order. -/
theorem settingJson_eq (eui : String) (topics : Topics) :
    settingJson eui topics = .obj
      [("gateway_eui", .str eui), ("topic_pub_downlink", .str topics.topicPubDownlink),
        ("topic_pub_downlink_ack", .str topics.topicPubDownlinkAck),
        ("topic_pub_gateway_stat", .str topics.topicPubGatewayStat),
        ("topic_pub_rxpk", .str topics.topicPubRxpk),
        ("topic_sub_txpk", .str topics.topicSubTxpk)] := by
  rfl

theorem settingJson_proper (lib : JsonText) (eui : String) (topics : Topics) :
    (settingJson eui topics).Proper lib.finite :=
  (((((Json.Proper.null.put (.str _) _).put (.str _) _).put (.str _) _).put (.str _) _).put
    (.str _) _).put (.str _) _

/-- The topic file with these topics. -/
def topicFile (lib : JsonText) (eui : String) (topics : Topics) : Bytes :=
  lib.dump (settingJson eui topics) ++ [10]

theorem read_topicFile (lib : JsonText) (eui : String) (topics : Topics) :
    lib.read (topicFile lib eui topics) = some (settingJson eui topics) :=
  lib.read_dump_endl _ (settingJson_proper lib eui topics)

/-- The document has these topics. -/
def HasTopics (j : Json) (topics : Topics) : Prop :=
  j.get? "topic_pub_rxpk" = some (.str topics.topicPubRxpk) ∧
    j.get? "topic_pub_downlink" = some (.str topics.topicPubDownlink) ∧
    j.get? "topic_pub_downlink_ack" = some (.str topics.topicPubDownlinkAck) ∧
    j.get? "topic_pub_gateway_stat" = some (.str topics.topicPubGatewayStat) ∧
    j.get? "topic_sub_txpk" = some (.str topics.topicSubTxpk)

theorem settingJson_hasTopics (eui : String) (topics : Topics) :
    HasTopics (settingJson eui topics) topics := by
  rw [settingJson_eq]
  exact ⟨rfl, rfl, rfl, rfl, rfl⟩

theorem settingJson_eui (eui : String) (topics : Topics) :
    (settingJson eui topics).get? "gateway_eui" = some (.str eui) := by
  rw [settingJson_eq]
  rfl

/-- The file was made for this gateway, and reads as this document. -/
def Own (lib : JsonText) (eui : String) (file : Option Bytes) (j : Json) : Prop :=
  ∃ text, file = some text ∧ lib.read text = some j ∧ j.get? "gateway_eui" = some (.str eui)

theorem own_topicFile (lib : JsonText) (eui : String) (topics : Topics) :
    Own lib eui (some (topicFile lib eui topics)) (settingJson eui topics) :=
  ⟨_, rfl, read_topicFile lib eui topics, settingJson_eui eui topics⟩

theorem localTopic_of_own {lib : JsonText} {eui : String} {file : Option Bytes} {j : Json}
    (own : Own lib eui file j) : localTopic lib file = (j, eui) := by
  obtain ⟨text, rfl, read, found⟩ := own
  simp only [localTopic, Option.bind_some, read, (j.index_asString_ok_iff _ _).mpr found]

/-- Both programs ask whether the EUI is their own: nothing else is asked about the file. -/
theorem localTopic_own_or_other (lib : JsonText) {eui : String} (real : eui ≠ "")
    (file : Option Bytes) : (∃ j, Own lib eui file j) ∨ (localTopic lib file).2 ≠ eui := by
  by_cases same : (localTopic lib file).2 = eui
  · left
    rw [localTopic] at same
    split at same
    next => exact absurd same.symm real
    next j readable =>
      obtain ⟨text, here, read⟩ := Option.bind_eq_some_iff.mp readable
      split at same
      next stored found =>
        have stored : stored = eui := same
        exact ⟨j, text, here, read, (j.index_asString_ok_iff _ _).mp (stored ▸ found)⟩
      next => exact absurd same.symm real
  · exact .inr same

/-! ### The two programs -/

section

variable {lib : JsonText} {mac : Fin 6 → UInt8} {file : Option Bytes}

theorem generate_of_own {j : Json} (own : Own lib (ownEui mac) file j) :
    generateBridgeMqttTopic lib (some mac) file = (0, lib.dump j, file) := by
  simp [generateBridgeMqttTopic, localTopic_of_own own]

theorem generate_of_other (other : (localTopic lib file).2 ≠ ownEui mac) :
    generateBridgeMqttTopic lib (some mac) file =
      (0, lib.dump (settingJson (ownEui mac) (defaultTopics (ownEui mac))),
        some (topicFile lib (ownEui mac) (defaultTopics (ownEui mac)))) := by
  simp only [generateBridgeMqttTopic, getTolowerGatewayEui_some, if_pos other]
  rfl

theorem bridge_of_other {s : Startup} (other : (localTopic lib s.file).2 ≠ ownEui mac) :
    loraBridgeSetMqttTopic lib (some mac) s =
      (.ok 0, ⟨some (topicFile lib (ownEui mac) (defaultTopics (ownEui mac))),
        Bridge.generateGatewayIdByMac mac, defaultTopics (ownEui mac)⟩) := by
  have different : (localTopic lib s.file).2 ≠ ascii (Bridge.generateGatewayIdByMac mac) := other
  simp only [loraBridgeSetMqttTopic, Proc.bind_apply, Proc.get_apply, Proc.modify_apply]
  rw [if_pos different]
  rfl

open Proc in
theorem adoptTopic_ends (j : Json) (key : String) (set : Topics → String → Topics) (s : Startup) :
    Ends (adoptTopic j key set) s
      (fun _ s' => ∃ topic, j.get? key = some (.str topic) ∧
        s' = { s with topics := set s.topics topic })
      fun _ s' => s'.file = s.file ∧ ∀ topic, j.get? key ≠ some (.str topic) := by
  apply ends_bind
  apply ends_ofExcept
  · intro topic found
    apply ends_modify
    exact ⟨topic, (j.index_asString_ok_iff key topic).mp found, rfl⟩
  · intro e thrown
    refine ⟨rfl, fun topic there => ?_⟩
    rw [(j.index_asString_ok_iff key topic).mpr there] at thrown
    cases thrown

open Proc in
/-- A start-up with a file of this gateway: it takes the topics that are there, or throws. -/
theorem bridge_of_own {s : Startup} {j : Json} (own : Own lib (ownEui mac) s.file j) :
    Ends (loraBridgeSetMqttTopic lib (some mac)) s
      (fun rc s' => rc = 0 ∧ s'.file = s.file ∧ HasTopics j s'.topics)
      fun _ s' => s'.file = s.file ∧ ∀ topics, ¬ HasTopics j topics := by
  have same : ¬ (localTopic lib s.file).2 ≠ ascii (Bridge.generateGatewayIdByMac mac) := by
    rw [localTopic_of_own own]
    exact fun different => different rfl
  apply ends_bind
  apply ends_get
  apply ends_bind
  apply ends_modify
  rw [if_neg same, localTopic_of_own own]
  have stops {key : String} {s' : Startup} (kept : s'.file = s.file)
      (absent : ∀ topic, j.get? key ≠ some (.str topic))
      (needed : ∀ topics, HasTopics j topics → ∃ topic, j.get? key = some (.str topic)) :
      s'.file = s.file ∧ ∀ topics, ¬ HasTopics j topics := by
    refine ⟨kept, fun topics has => ?_⟩
    obtain ⟨topic, there⟩ := needed topics has
    exact absent topic there
  apply ends_bind
  refine (adoptTopic_ends j "topic_pub_rxpk" _ _).imp ?_ fun _ _ stop =>
    stops stop.1 stop.2 fun _ has => ⟨_, has.1⟩
  rintro _ _ ⟨rxpk, hasRxpk, rfl⟩
  apply ends_bind
  refine (adoptTopic_ends j "topic_pub_downlink" _ _).imp ?_ fun _ _ stop =>
    stops stop.1 stop.2 fun _ has => ⟨_, has.2.1⟩
  rintro _ _ ⟨downlink, hasDownlink, rfl⟩
  apply ends_bind
  refine (adoptTopic_ends j "topic_pub_downlink_ack" _ _).imp ?_ fun _ _ stop =>
    stops stop.1 stop.2 fun _ has => ⟨_, has.2.2.1⟩
  rintro _ _ ⟨ack, hasAck, rfl⟩
  apply ends_bind
  refine (adoptTopic_ends j "topic_pub_gateway_stat" _ _).imp ?_ fun _ _ stop =>
    stops stop.1 stop.2 fun _ has => ⟨_, has.2.2.2.1⟩
  rintro _ _ ⟨stat, hasStat, rfl⟩
  apply ends_bind
  refine (adoptTopic_ends j "topic_sub_txpk" _ _).imp ?_ fun _ _ stop =>
    stops stop.1 stop.2 fun _ has => ⟨_, has.2.2.2.2⟩
  rintro _ _ ⟨txpk, hasTxpk, rfl⟩
  apply ends_pure
  exact ⟨rfl, rfl, hasRxpk, hasDownlink, hasAck, hasStat, hasTxpk⟩

/-- A document has at most one set of topics. -/
theorem HasTopics.unique {j : Json} {a b : Topics} (first : HasTopics j a)
    (second : HasTopics j b) : a = b := by
  obtain ⟨rxpk, downlink, ack, stat, txpk⟩ := first
  obtain ⟨rxpk', downlink', ack', stat', txpk'⟩ := second
  cases a
  cases b
  simp_all

end

/-! ### The main results -/

/-- The answer is a document with these topics. -/
def Reports (lib : JsonText) (rsp : Bytes) (topics : Topics) : Prop :=
  ∃ j, lib.read rsp = some j ∧ HasTopics j topics

theorem reports_of_own {lib : JsonText} {mac : Fin 6 → UInt8} {file : Option Bytes} {j : Json}
    (own : Own lib (ownEui mac) file j) {topics : Topics} (has : HasTopics j topics) :
    Reports lib (generateBridgeMqttTopic lib (some mac) file).2.1 topics := by
  rw [generate_of_own own]
  obtain ⟨text, _, read, _⟩ := own
  exact ⟨j, lib.read_dump j (lib.read_proper text j read), has⟩

/-- From any content of the file, the two programs leave the same file; and in either order, the
topics of a bridge that starts are those of the CGI program's answer. -/
theorem topics_agree (lib : JsonText) (mac : Option (Fin 6 → UInt8)) (s : Startup) :
    (generateBridgeMqttTopic lib mac s.file).2.2 = (loraBridgeSetMqttTopic lib mac s).2.file ∧
      (∀ s', loraBridgeSetMqttTopic lib mac
          { s with file := (generateBridgeMqttTopic lib mac s.file).2.2 } = (.ok 0, s') →
        Reports lib (generateBridgeMqttTopic lib mac s.file).2.1 s'.topics) ∧
      ∀ s', loraBridgeSetMqttTopic lib mac s = (.ok 0, s') →
        Reports lib (generateBridgeMqttTopic lib mac s'.file).2.1 s'.topics := by
  cases mac with
  | none =>
    have stopped (s : Startup) : loraBridgeSetMqttTopic lib none s = (.ok (-1), s) := rfl
    refine ⟨by rw [stopped]; rfl, ?_, ?_⟩
    · intro s' returned
      rw [stopped] at returned
      simp at returned
    · intro s' returned
      rw [stopped] at returned
      simp at returned
  | some mac =>
    rcases localTopic_own_or_other lib (ownEui_ne_empty mac) s.file with ⟨j, own⟩ | other
    · -- The file is kept by both.
      have ends := bridge_of_own own
      have bridgeFile := (ends.imp (fun _ _ ok => ok.2.1) fun _ _ stop => stop.1).snd
      have report {topics : Topics} (has : HasTopics j topics) := reports_of_own own has
      rw [generate_of_own own] at report ⊢
      refine ⟨bridgeFile.symm, ?_, ?_⟩
      · intro s' returned
        exact report (ends.of_eq_ok returned).2.2
      · intro s' returned
        obtain ⟨_, kept, has⟩ := ends.of_eq_ok returned
        rw [kept, generate_of_own own]
        exact report has
    · -- Whoever comes first writes the default topics, and the other takes them.
      have fresh := own_topicFile lib (ownEui mac) (defaultTopics (ownEui mac))
      have report {topics : Topics} (has : HasTopics _ topics) := reports_of_own fresh has
      rw [generate_of_own fresh] at report
      rw [generate_of_other other, bridge_of_other other]
      refine ⟨rfl, ?_, ?_⟩
      · intro s' returned
        have ends := @bridge_of_own lib mac
          { s with file := some (topicFile lib (ownEui mac) (defaultTopics (ownEui mac))) } _ fresh
        exact report (ends.of_eq_ok returned).2.2
      · intro s' returned
        cases returned
        rw [generate_of_own fresh]
        exact report (settingJson_hasTopics _ _)

/-- A gateway without a topic file: the bridge starts with topics that the CGI program reports. -/
theorem topics_agree_without_file :
    ∃ s', loraBridgeSetMqttTopic JsonCodec.text (some fun i => i.val.toUInt8) { file := none } = (.ok 0, s') ∧
      Reports JsonCodec.text
        (generateBridgeMqttTopic JsonCodec.text (some fun i => i.val.toUInt8) s'.file).2.1 s'.topics := by
  have other : (localTopic JsonCodec.text none).2 ≠ ownEui fun i => i.val.toUInt8 :=
    (ownEui_ne_empty _).symm
  have started := @bridge_of_other JsonCodec.text _ { file := none } other
  exact ⟨_, started, (topics_agree JsonCodec.text _ _).2.2 _ started⟩

/-! ### Runs -/

/-- What touches the topic file. -/
inductive TopicEvent where
  /-- `main_bridge_topic_get`. -/
  | get
  /-- `main_bridge_topic_set`. -/
  | set (inputJson : Bytes)
  /-- The bridge starts. -/
  | start

/-- A start-up of the bridge, and the last topics accepted before it. -/
structure TopicStart where
  result : Except JsonError Int
  topics : Topics
  accepted : Option Topics

/-- The topic file, the topics of the last accepted request, and the start-ups. -/
structure TopicWorld where
  file : Option Bytes := none
  accepted : Option Topics := none
  starts : List TopicStart := []

/-- The topics in the body of a request. -/
def requestTopics (lib : JsonText) (inputJson : Bytes) : Option Topics := do
  let j ← lib.parse inputJson
  let text (key : String) : Option String := do
    let topic ← j.lookup ["body", key]
    topic.asString.toOption
  return { topicPubRxpk := ← text "topic_pub_rxpk"
           topicPubDownlink := ← text "topic_pub_downlink"
           topicPubDownlinkAck := ← text "topic_pub_downlink_ack"
           topicPubGatewayStat := ← text "topic_pub_gateway_stat"
           topicSubTxpk := ← text "topic_sub_txpk" }

namespace TopicWorld

def step (lib : JsonText) (mac : Fin 6 → UInt8) (w : TopicWorld) : TopicEvent → TopicWorld
  | .get => { w with file := (generateBridgeMqttTopic lib (some mac) w.file).2.2 }
  | .set inputJson =>
    let answer := setBridgeMqttTopic lib (some mac) inputJson w.file
    { w with
      file := answer.2
      accepted := if answer.1.1 = 0 then requestTopics lib inputJson else w.accepted }
  | .start =>
    let answer := loraBridgeSetMqttTopic lib (some mac) { file := w.file }
    { w with
      file := answer.2.file
      starts := w.starts ++ [⟨answer.1, answer.2.topics, w.accepted⟩] }

end TopicWorld

/-- Each topic is assigned to the member that it has already. -/
theorem assignTopics_settingJson (eui : String) (old new : Topics) :
    assignTopics (settingJson eui old) new = .ok (settingJson eui new) := by
  have assigned (k key : String) (j u v : Json) :
      (j.put [k] u).assign [key] v = .ok ((j.put [k] u).put [key] v) :=
    Json.assign_eq_put (j.put [k] u) [key] v ⟨.inr rfl, trivial⟩
  have down {a b : String} (j v w : Json) (different : a ≠ b) :
      (j.put [b] w).put [a] v = (j.put [a] v).put [b] w :=
    Json.put_comm j v w (.inl different)
  simp only [assignTopics, settingJson, assigned, bind, Except.bind]
  rw [down _ _ _ (by decide : "topic_pub_rxpk" ≠ "topic_sub_txpk"),
    down _ _ _ (by decide : "topic_pub_rxpk" ≠ "topic_pub_gateway_stat"),
    down _ _ _ (by decide : "topic_pub_rxpk" ≠ "topic_pub_downlink_ack"),
    down _ _ _ (by decide : "topic_pub_rxpk" ≠ "topic_pub_downlink"), Json.put_put_self,
    down _ _ _ (by decide : "topic_pub_downlink" ≠ "topic_sub_txpk"),
    down _ _ _ (by decide : "topic_pub_downlink" ≠ "topic_pub_gateway_stat"),
    down _ _ _ (by decide : "topic_pub_downlink" ≠ "topic_pub_downlink_ack"), Json.put_put_self,
    down _ _ _ (by decide : "topic_pub_downlink_ack" ≠ "topic_sub_txpk"),
    down _ _ _ (by decide : "topic_pub_downlink_ack" ≠ "topic_pub_gateway_stat"),
    Json.put_put_self,
    down _ _ _ (by decide : "topic_pub_gateway_stat" ≠ "topic_sub_txpk"), Json.put_put_self,
    Json.put_put_self]

theorem bodyTopic_ok {j : Json} {key s : String} (read : bodyTopic j key = .ok s) :
    j.lookup ["body", key] = some (.str s) := by
  obtain ⟨body, entered, rest⟩ := except_bind_eq_ok.mp read
  have inBody : body.get? key = some (.str s) := (body.index_asString_ok_iff key s).mp rest
  have same := Json.eq_of_index_eq_ok entered
  cases there : j.get? "body" with
  | none =>
    rw [same, there] at inBody
    cases inBody
  | some member =>
    rw [same, there, Option.getD_some] at inBody
    simp [Json.lookup, there, inBody]

theorem requestTopics_of_bodyTopics {lib : JsonText} {inputJson : Bytes} {j : Json}
    {topics : Topics} (parsed : lib.parse inputJson = some j) (read : bodyTopics j = .ok topics) :
    requestTopics lib inputJson = some topics := by
  obtain ⟨rxpk, readRxpk, rest⟩ := except_bind_eq_ok.mp read
  obtain ⟨downlink, readDownlink, rest⟩ := except_bind_eq_ok.mp rest
  obtain ⟨ack, readAck, rest⟩ := except_bind_eq_ok.mp rest
  obtain ⟨stat, readStat, rest⟩ := except_bind_eq_ok.mp rest
  obtain ⟨txpk, readTxpk, rest⟩ := except_bind_eq_ok.mp rest
  cases rest
  simp [requestTopics, parsed, bodyTopic_ok readRxpk, bodyTopic_ok readDownlink,
    bodyTopic_ok readAck, bodyTopic_ok readStat, bodyTopic_ok readTxpk, Json.asString,
    Except.toOption]

/-- A request on a file of this gateway: it is rejected, or the file has its topics. -/
theorem set_topicFile {lib : JsonText} {mac : Fin 6 → UInt8} {old : Topics} (inputJson : Bytes) :
    let answer := setBridgeMqttTopic lib (some mac) inputJson
      (some (topicFile lib (ownEui mac) old))
    (answer.1.1 ≠ 0 ∧ answer.2 = some (topicFile lib (ownEui mac) old)) ∨
      ∃ topics, answer.1.1 = 0 ∧ requestTopics lib inputJson = some topics ∧
        Formatted topics (ownEui mac ++ "/event") ∧ Distinct topics ∧
        answer.2 = some (topicFile lib (ownEui mac) topics) := by
  have rejected : failedToSet.1 ≠ 0 := by decide
  simp only [setBridgeMqttTopic, getTolowerGatewayEui_some, Option.bind_some, read_topicFile]
  cases parsed : lib.parse inputJson with
  | none => exact .inl ⟨rejected, rfl⟩
  | some remoteJson =>
    cases read : bodyTopics remoteJson with
    | error e => exact .inl ⟨by simpa only [read] using rejected, by simp only [read]⟩
    | ok topics =>
      by_cases formatted : Formatted topics (ownEui mac ++ "/event")
      · by_cases distinct : Distinct topics
        · right
          refine ⟨topics, ?_, requestTopics_of_bodyTopics parsed read, formatted, distinct, ?_⟩
          · simp [read, formatted, distinct, assignTopics_settingJson]
          · simp [read, formatted, distinct, assignTopics_settingJson, topicFile]
        · left
          simp [read, formatted, distinct]
      · left
        simp [read, formatted]

/-! ### The default topics -/

theorem containsText_default (eui tail : String) :
    containsText ("gateway/" ++ eui ++ "/event/" ++ tail) (eui ++ "/event") := by
  refine ⟨"gateway/".toList, '/' :: tail.toList, ?_⟩
  simp

theorem defaultTopics_formatted (eui : String) :
    Formatted (defaultTopics eui) (eui ++ "/event") :=
  ⟨containsText_default eui _, containsText_default eui _, containsText_default eui _,
    containsText_default eui _, containsText_default eui _⟩

theorem defaultTopics_distinct (eui : String) : Distinct (defaultTopics eui) := by
  have apart {tail : String} (different : "tx" ≠ tail) :
      "gateway/" ++ eui ++ "/event/" ++ "tx" ≠ "gateway/" ++ eui ++ "/event/" ++ tail := by
    intro same
    exact different ((String.append_right_inj _).mp same)
  exact ⟨apart (by decide), apart (by decide), apart (by decide), apart (by decide)⟩

/-! ### The invariant -/

/-- A start-up on a file of this gateway takes its topics. -/
theorem start_topicFile (lib : JsonText) (mac : Fin 6 → UInt8) (topics : Topics) :
    ∃ eui, loraBridgeSetMqttTopic lib (some mac)
        { file := some (topicFile lib (ownEui mac) topics) } =
      (.ok 0, ⟨some (topicFile lib (ownEui mac) topics), eui, topics⟩) := by
  have ends := @bridge_of_own lib mac { file := some (topicFile lib (ownEui mac) topics) } _
    (own_topicFile lib (ownEui mac) topics)
  have has := settingJson_hasTopics (ownEui mac) topics
  rw [Proc.Ends] at ends
  split at ends
  next rc s' returned =>
    obtain ⟨zero, kept, adopted⟩ := ends
    have taken := has.unique adopted
    cases s'
    subst zero kept taken
    exact ⟨_, returned⟩
  next => exact absurd has (ends.2 topics)

/-- The file is absent, or holds the topics last accepted, or the default ones. -/
structure TopicWorld.Kept (lib : JsonText) (mac : Fin 6 → UInt8) (w : TopicWorld) : Prop where
  file : (w.file = none ∧ w.accepted = none) ∨
    ∃ topics, topics = w.accepted.getD (defaultTopics (ownEui mac)) ∧
      w.file = some (topicFile lib (ownEui mac) topics) ∧
      Formatted topics (ownEui mac ++ "/event") ∧ Distinct topics
  starts : ∀ start ∈ w.starts, start.result = .ok 0 ∧
    start.topics = start.accepted.getD (defaultTopics (ownEui mac))

/-- Each of the programs finds its own file, or writes the default topics. -/
theorem TopicWorld.step_kept (lib : JsonText) (mac : Fin 6 → UInt8) (w : TopicWorld)
    (e : TopicEvent) (kept : w.Kept lib mac) : (w.step lib mac e).Kept lib mac := by
  obtain ⟨file, starts⟩ := kept
  have absent : (localTopic lib none).2 ≠ ownEui mac := (ownEui_ne_empty mac).symm
  cases e with
  | get =>
    rcases file with ⟨gone, never⟩ | ⟨topics, held, here, valid⟩
    · simp only [step, gone, generate_of_other absent]
      refine ⟨.inr ⟨_, rfl, ?_⟩, starts⟩
      simp only [never, Option.getD_none]
      exact ⟨trivial, defaultTopics_formatted _, defaultTopics_distinct _⟩
    · simp only [step, here, generate_of_own (own_topicFile lib (ownEui mac) topics)]
      exact ⟨.inr ⟨topics, held, rfl, valid⟩, starts⟩
  | set inputJson =>
    rcases file with ⟨gone, never⟩ | ⟨topics, held, here, valid⟩
    · -- Without a file no request is accepted.
      have rejected : setBridgeMqttTopic lib (some mac) inputJson none = (failedToSet, none) := by
        simp [setBridgeMqttTopic]
      simp only [step, gone, rejected]
      exact ⟨.inl ⟨rfl, never⟩, starts⟩
    · have answer := @set_topicFile lib mac topics inputJson
      simp only [step, here]
      generalize setBridgeMqttTopic lib (some mac) inputJson
        (some (topicFile lib (ownEui mac) topics)) = outcome at answer
      rcases answer with ⟨rejected, same⟩ | ⟨new, zero, requested, formatted, distinct, written⟩
      · rw [if_neg rejected, same]
        exact ⟨.inr ⟨topics, held, rfl, valid⟩, starts⟩
      · rw [if_pos zero, requested, written]
        exact ⟨.inr ⟨new, rfl, rfl, formatted, distinct⟩, starts⟩
  | start =>
    rcases file with ⟨gone, never⟩ | ⟨topics, held, here, valid⟩
    · have answer := @bridge_of_other lib mac { file := none } absent
      simp only [step, gone, never, answer]
      refine ⟨.inr ⟨_, rfl, rfl, defaultTopics_formatted _, defaultTopics_distinct _⟩, ?_⟩
      intro start member
      rcases List.mem_append.mp member with old | new
      · exact starts start old
      · rw [List.mem_singleton.mp new]
        exact ⟨rfl, rfl⟩
    · obtain ⟨eui, answer⟩ := start_topicFile lib mac topics
      simp only [step, here, answer]
      refine ⟨.inr ⟨topics, held, rfl, valid⟩, ?_⟩
      intro start member
      rcases List.mem_append.mp member with old | new
      · exact starts start old
      · rw [List.mem_singleton.mp new]
        exact ⟨rfl, held⟩

/-- In every run from an absent file, the file is absent or belongs to this gateway, with five
topics that name it and a topic for downlinks of its own; and every start-up takes the topics of
the last accepted request, or the default ones. -/
theorem topic_file_invariant (lib : JsonText) (mac : Fin 6 → UInt8) (events : List TopicEvent) :
    let w := run (TopicWorld.step lib mac) {} events
    (w.file = none ∨ ∃ text fields topics, w.file = some text ∧
      lib.read text = some (.obj fields) ∧
      (Json.obj fields).get? "gateway_eui" = some (.str (ownEui mac)) ∧
      HasTopics (.obj fields) topics ∧ Formatted topics (ownEui mac ++ "/event") ∧
      Distinct topics) ∧
    ∀ start ∈ w.starts, start.result = .ok 0 ∧
      start.topics = start.accepted.getD (defaultTopics (ownEui mac)) := by
  intro w
  have kept : w.Kept lib mac := by
    apply run_invariant _ _ (TopicWorld.step_kept lib mac)
    exact ⟨.inl ⟨rfl, rfl⟩, by simp⟩
  refine ⟨?_, kept.starts⟩
  rcases kept.file with ⟨gone, _⟩ | ⟨topics, _, here, valid⟩
  · exact .inl gone
  · right
    have has := settingJson_hasTopics (ownEui mac) topics
    have eui := settingJson_eui (ownEui mac) topics
    have read := read_topicFile lib (ownEui mac) topics
    rw [settingJson_eq] at has eui read
    exact ⟨_, _, topics, here, read, eui, has, valid⟩

/-- A run in which the CGI program makes the file and the bridge starts with it. -/
theorem topic_file_invariant_get_start :
    let w := run (TopicWorld.step JsonCodec.text fun i => i.val.toUInt8) {} [.get, .start]
    w.starts.length = 1 ∧ ∀ start ∈ w.starts, start.result = .ok 0 ∧
      start.topics = start.accepted.getD (defaultTopics (ownEui fun i => i.val.toUInt8)) :=
  ⟨rfl, (topic_file_invariant JsonCodec.text (fun i => i.val.toUInt8) [.get, .start]).2⟩

end LorawanFeeds.Cgi
