import LorawanFeeds.Lib.CText
import LorawanFeeds.Lib.TopicFilter
import LorawanFeeds.Cgi.TopicFile

/-!
# What becomes of an accepted topic request

`set_bridge_mqtt_topic` looks at the topics of the request and at nothing else of the file that it
changes. The next start-up of the bridge looks at the EUI of that file first, and `on_connect` takes
the topic for downlinks as a subscription filter.
-/
namespace LorawanFeeds.Cgi

open Lib Bridge

/-! ### The file after an accepted request -/

/-- The members that a request sets. -/
def topicMembers (topics : Topics) : List (List String × Json) :=
  [(["topic_pub_rxpk"], .str topics.topicPubRxpk),
    (["topic_pub_downlink"], .str topics.topicPubDownlink),
    (["topic_pub_downlink_ack"], .str topics.topicPubDownlinkAck),
    (["topic_pub_gateway_stat"], .str topics.topicPubGatewayStat),
    (["topic_sub_txpk"], .str topics.topicSubTxpk)]

theorem assignTopics_ok {j j' : Json} {topics : Topics} (assigned : assignTopics j topics = .ok j') :
    j' = j.putAll (topicMembers topics) := by
  obtain ⟨j₁, first, rest⟩ := except_bind_eq_ok.mp assigned
  obtain ⟨j₂, second, rest⟩ := except_bind_eq_ok.mp rest
  obtain ⟨j₃, third, rest⟩ := except_bind_eq_ok.mp rest
  obtain ⟨j₄, fourth, fifth⟩ := except_bind_eq_ok.mp rest
  obtain rfl := Json.eq_put_of_assign _ _ _ _ first
  obtain rfl := Json.eq_put_of_assign _ _ _ _ second
  obtain rfl := Json.eq_put_of_assign _ _ _ _ third
  obtain rfl := Json.eq_put_of_assign _ _ _ _ fourth
  exact Json.eq_put_of_assign _ _ _ _ fifth

theorem lookup_singleton (j : Json) (key : String) : j.lookup [key] = j.get? key := by
  cases found : j.get? key <;> simp [Json.lookup, found]

theorem putAll_hasTopics (j : Json) (topics : Topics) :
    HasTopics (j.putAll (topicMembers topics)) topics := by
  have apart : ((topicMembers topics).map Prod.fst).Pairwise Json.Apart := by
    simp [topicMembers, Json.Apart]
  have there := Json.lookup_putAll j apart
  simp only [topicMembers, List.forall_mem_cons, lookup_singleton] at there
  exact ⟨there.1, there.2.1, there.2.2.1, there.2.2.2.1, there.2.2.2.2.1⟩

theorem putAll_eui (j : Json) (topics : Topics) :
    (j.putAll (topicMembers topics)).get? "gateway_eui" = j.get? "gateway_eui" := by
  rw [← lookup_singleton, ← lookup_singleton j]
  apply Json.lookup_putAll_of_apart
  simp [topicMembers, Json.Apart]

theorem putAll_proper {lib : JsonText} {j : Json} (proper : j.Proper lib.finite) (topics : Topics) :
    (j.putAll (topicMembers topics)).Proper lib.finite := by
  apply proper.putAll
  intro field member
  simp only [topicMembers, List.mem_cons, List.not_mem_nil, or_false] at member
  rcases member with rfl | rfl | rfl | rfl | rfl <;> exact .str _

/-- An accepted request: its topics are in the file, and the rest of the file is as it was. -/
theorem set_accepted {lib : JsonText} {mac : Option (Fin 6 → UInt8)} {inputJson : Bytes}
    {file : Option Bytes} (accepted : (setBridgeMqttTopic lib mac inputJson file).1.1 = 0) :
    ∃ address text j topics, mac = some address ∧ file = some text ∧ lib.read text = some j ∧
      requestTopics lib inputJson = some topics ∧ Formatted topics (ownEui address ++ "/event") ∧
      Distinct topics ∧
      (setBridgeMqttTopic lib mac inputJson file).2 =
        some (lib.dump (j.putAll (topicMembers topics)) ++ [10]) := by
  have rejected : failedToSet.1 ≠ 0 := by decide
  cases mac with
  | none => simp [setBridgeMqttTopic, getTolowerGatewayEui] at accepted
  | some address =>
    simp only [setBridgeMqttTopic, getTolowerGatewayEui_some] at accepted ⊢
    split at accepted
    next j remoteJson readable parsed =>
      obtain ⟨text, here, read⟩ := Option.bind_eq_some_iff.mp readable
      cases body : bodyTopics remoteJson with
      | error e =>
        simp only [body] at accepted
        exact absurd accepted rejected
      | ok topics =>
        simp only [body] at accepted
        split at accepted
        next => simp at accepted
        next formatted =>
          split at accepted
          next => simp at accepted
          next distinct =>
            cases assigned : assignTopics j topics with
            | error e =>
              simp only [assigned] at accepted
              exact absurd accepted rejected
            | ok j' =>
              have same := assignTopics_ok assigned
              refine ⟨address, text, j, topics, rfl, here, read,
                requestTopics_of_bodyTopics parsed body, not_not.mp formatted,
                not_not.mp distinct, ?_⟩
              simp [formatted, distinct, assigned, same]
    next => exact absurd accepted rejected

/-! ### The next start-up -/

/-- The start-up takes these topics. -/
def Adopts (lib : JsonText) (mac : Option (Fin 6 → UInt8)) (file : Option Bytes)
    (topics : Topics) : Prop :=
  ∃ s', loraBridgeSetMqttTopic lib mac { file } = (.ok 0, s') ∧ s'.topics = topics

theorem adopts_of_own {lib : JsonText} {mac : Fin 6 → UInt8} {file : Option Bytes} {j : Json}
    (own : Own lib (ownEui mac) file j) {topics : Topics} (has : HasTopics j topics) :
    Adopts lib (some mac) file topics := by
  have ends := @bridge_of_own lib mac { file } j own
  rw [Proc.Ends] at ends
  split at ends
  next rc s' returned =>
    obtain ⟨rfl, _, adopted⟩ := ends
    exact ⟨s', returned, adopted.unique has⟩
  next => exact absurd has (ends.2 topics)

theorem adopts_of_other {lib : JsonText} {mac : Fin 6 → UInt8} {file : Option Bytes}
    (other : (localTopic lib file).2 ≠ ownEui mac) (topics : Topics) :
    Adopts lib (some mac) file topics ↔ topics = defaultTopics (ownEui mac) := by
  rw [Adopts, @bridge_of_other lib mac { file } other]
  constructor
  · rintro ⟨s', returned, taken⟩
    cases returned
    exact taken.symm
  · rintro rfl
    exact ⟨_, rfl, rfl⟩

/-- The EUI that both programs find in a file. -/
theorem localTopic_eui {lib : JsonText} {text : Bytes} {j : Json} (read : lib.read text = some j)
    (eui : String) (real : eui ≠ "") :
    (localTopic lib (some text)).2 = eui ↔ j.get? "gateway_eui" = some (.str eui) := by
  rw [← j.index_asString_ok_iff]
  simp only [localTopic, Option.bind_some, read]
  split
  next stored found => simp [found]
  next e thrown => simp [thrown, real.symm]

/-- The accepted topics are taken by the next start-up exactly if the file was one of this gateway
before the request, or if they are the default ones. -/
theorem accepted_topics_adopted_iff (lib : JsonText) (mac : Option (Fin 6 → UInt8))
    (inputJson : Bytes) (file : Option Bytes)
    (accepted : (setBridgeMqttTopic lib mac inputJson file).1.1 = 0) :
    (∃ topics, requestTopics lib inputJson = some topics ∧
      Adopts lib mac (setBridgeMqttTopic lib mac inputJson file).2 topics) ↔
    ∃ address, mac = some address ∧ ((∃ j, Own lib (ownEui address) file j) ∨
      requestTopics lib inputJson = some (defaultTopics (ownEui address))) := by
  obtain ⟨address, text, j, topics, rfl, rfl, read, requested, _, _, written⟩ := set_accepted accepted
  have proper := putAll_proper (lib.read_proper text j read) topics
  have reread := lib.read_dump_endl _ proper
  simp only [requested, Option.some.injEq, exists_eq_left', written]
  rcases localTopic_own_or_other lib (ownEui_ne_empty address) (some text) with ⟨j', own⟩ | other
  · -- The file is of this gateway, and still is.
    have same : j' = j := by
      obtain ⟨_, ⟨⟩, read', _⟩ := own
      exact Option.some.inj (read'.symm.trans read)
    subst same
    have still : Own lib (ownEui address)
        (some (lib.dump (j'.putAll (topicMembers topics)) ++ [10]))
        (j'.putAll (topicMembers topics)) := by
      obtain ⟨_, _, _, eui⟩ := own
      exact ⟨_, rfl, reread, (putAll_eui j' topics).trans eui⟩
    have taken := adopts_of_own still (putAll_hasTopics j' topics)
    exact ⟨fun _ => .inl ⟨j', own⟩, fun _ => taken⟩
  · -- The request does not touch the EUI: the start-up writes the default topics.
    have foreign : ∀ j', ¬ Own lib (ownEui address) (some text) j' := by
      intro j' own
      rw [localTopic_of_own own] at other
      exact other rfl
    have still : (localTopic lib (some (lib.dump (j.putAll (topicMembers topics)) ++ [10]))).2 ≠
        ownEui address := by
      rwa [Ne, localTopic_eui reread _ (ownEui_ne_empty address), putAll_eui,
        ← localTopic_eui read _ (ownEui_ne_empty address)]
    rw [adopts_of_other still]
    simp [foreign]

/-- The topics of a gateway with another one for downlinks. -/
def withTxpk (eui tail : String) : Topics :=
  { defaultTopics eui with topicSubTxpk := "gateway/" ++ eui ++ "/event/" ++ tail }

theorem withTxpk_formatted (eui tail : String) : Formatted (withTxpk eui tail) (eui ++ "/event") :=
  ⟨containsText_default eui _, containsText_default eui _, containsText_default eui _,
    containsText_default eui _, containsText_default eui _⟩

theorem withTxpk_distinct (eui : String) {tail : String}
    (apart : ∀ other ∈ ["up", "down", "ack", "stat"], tail ≠ other) : Distinct (withTxpk eui tail) := by
  have different {other : String} (member : other ∈ ["up", "down", "ack", "stat"]) :
      "gateway/" ++ eui ++ "/event/" ++ tail ≠ "gateway/" ++ eui ++ "/event/" ++ other := by
    intro same
    exact apart other member ((String.append_right_inj _).mp same)
  exact ⟨different (by simp), different (by simp), different (by simp), different (by simp)⟩

/-- A request with these topics: the document of `main_bridge_topic_get` as the body. -/
def topicRequest (lib : JsonText) (eui : String) (topics : Topics) : Bytes :=
  lib.dump (.obj [("body", settingJson eui topics)])

theorem parse_topicRequest (lib : JsonText) (eui : String) (topics : Topics) :
    lib.parse (topicRequest lib eui topics) = some (.obj [("body", settingJson eui topics)]) := by
  apply lib.parse_dump
  refine .obj (by simp) ?_
  intro field member
  rw [List.mem_singleton.mp member]
  exact settingJson_proper lib eui topics

theorem bodyTopics_topicRequest (eui : String) (topics : Topics) :
    bodyTopics (.obj [("body", settingJson eui topics)]) = .ok topics := by
  rw [settingJson_eq]
  rfl

theorem requestTopics_topicRequest (lib : JsonText) (eui : String) (topics : Topics) :
    requestTopics lib (topicRequest lib eui topics) = some topics :=
  requestTopics_of_bodyTopics (parse_topicRequest lib eui topics) (bodyTopics_topicRequest eui topics)

/-- Such a request is accepted on the file of any gateway. -/
theorem set_topicRequest (lib : JsonText) (mac : Fin 6 → UInt8) (eui : String) (old : Topics)
    {topics : Topics} (formatted : Formatted topics (ownEui mac ++ "/event"))
    (distinct : Distinct topics) :
    setBridgeMqttTopic lib (some mac) (topicRequest lib (ownEui mac) topics)
      (some (topicFile lib eui old)) = ((0, ""), some (topicFile lib eui topics)) := by
  simp only [setBridgeMqttTopic, getTolowerGatewayEui_some, Option.bind_some, read_topicFile,
    parse_topicRequest, bodyTopics_topicRequest]
  rw [if_neg (not_not.mpr formatted), if_neg (not_not.mpr distinct)]
  simp only [assignTopics_settingJson, topicFile]

/-- The gateway with its own file: the accepted topics are taken. -/
theorem own_topic_file_keeps_request :
    let mac : Fin 6 → UInt8 := fun i => i.val.toUInt8
    let inputJson := topicRequest JsonCodec.text (ownEui mac) (withTxpk (ownEui mac) "rx")
    let file := some (topicFile JsonCodec.text (ownEui mac) (defaultTopics (ownEui mac)))
    ∃ topics, requestTopics JsonCodec.text inputJson = some topics ∧
      Adopts JsonCodec.text (some mac)
        (setBridgeMqttTopic JsonCodec.text (some mac) inputJson file).2 topics := by
  intro mac inputJson file
  have answer := set_topicRequest JsonCodec.text mac (ownEui mac) (defaultTopics (ownEui mac))
    (withTxpk_formatted _ "rx") (withTxpk_distinct _ (by decide))
  rw [accepted_topics_adopted_iff JsonCodec.text (some mac) inputJson file (by rw [answer])]
  exact ⟨mac, rfl, .inl ⟨_, own_topicFile JsonCodec.text _ _⟩⟩

/-- A file that was restored from another gateway: the request is accepted, and the bridge starts
with the default topics. -/
theorem foreign_topic_file_loses_request :
    let mac : Fin 6 → UInt8 := fun i => i.val.toUInt8
    let topics := withTxpk (ownEui mac) "rx"
    let inputJson := topicRequest JsonCodec.text (ownEui mac) topics
    let other := ownEui fun _ => 0
    let answer := setBridgeMqttTopic JsonCodec.text (some mac) inputJson
      (some (topicFile JsonCodec.text other (defaultTopics other)))
    answer.1.1 = 0 ∧ requestTopics JsonCodec.text inputJson = some topics ∧
      ¬ Adopts JsonCodec.text (some mac) answer.2 topics := by
  intro mac topics inputJson other answer
  have answered : answer = ((0, ""), some (topicFile JsonCodec.text other topics)) :=
    set_topicRequest JsonCodec.text mac other (defaultTopics other)
      (withTxpk_formatted (ownEui mac) "rx") (withTxpk_distinct _ (by decide))
  have different : other ≠ ownEui mac := by decide
  have foreign : (localTopic JsonCodec.text (some (topicFile JsonCodec.text other topics))).2 ≠
      ownEui mac := by
    rw [localTopic_of_own (own_topicFile JsonCodec.text other topics)]
    exact different
  rw [answered, adopts_of_other foreign]
  refine ⟨rfl, requestTopics_topicRequest _ _ _, ?_⟩
  intro same
  have txpk := congrArg Topics.topicSubTxpk same
  exact absurd ((String.append_right_inj _).mp txpk) (by decide)

/-! ### The subscription -/

section Subscription

open TopicFilter CText

/-- What `on_connect` does. -/
inductive ConnectAction where
  | disconnect
  | subscribe (filter : List Char)
  | nothing
  deriving DecidableEq

/-- `on_connect`. -/
def onConnect (rc : Int) (topicSubTxpk : String) : ConnectAction :=
  if rc ≠ 0 then .disconnect
  else if topicSubTxpk = "" then .nothing
  else .subscribe (cString topicSubTxpk)

/-- The topics of `mosquitto_publish`. -/
def publishTopics (topics : Topics) : List (List Char) :=
  [cString topics.topicPubRxpk, cString topics.topicPubDownlink, cString topics.topicPubDownlinkAck,
    cString topics.topicPubGatewayStat]

/-- A connected bridge does not get what it publishes. -/
def EchoFree (topics : Topics) : Prop :=
  ∀ rc filter, onConnect rc topics.topicSubTxpk = .subscribe filter →
    ∀ topic ∈ publishTopics topics, ¬ TopicFilter.Matches filter topic

/-- No level of the subscription is a wildcard, and no topic ends early. -/
def Literal (topics : Topics) : Prop :=
  single ∉ levels (cString topics.topicSubTxpk) ∧ multi ∉ levels (cString topics.topicSubTxpk) ∧
    ∀ text ∈ [topics.topicPubRxpk, topics.topicPubDownlink, topics.topicPubDownlinkAck,
      topics.topicPubGatewayStat, topics.topicSubTxpk], Char.ofNat 0 ∉ text.toList

/-- The subscription is no filter, or every topic of a publication differs from it in more than
the levels of its wildcards. -/
def Separated (topics : Topics) : Prop :=
  ¬ WellFormed (levels (cString topics.topicSubTxpk)) ∨
    ∀ topic ∈ publishTopics topics, Reserved (cString topics.topicSubTxpk) topic ∨
      Differs (levels (cString topics.topicSubTxpk)) (levels topic)

theorem event_ne_empty (address : Fin 6 → UInt8) : ownEui address ++ "/event" ≠ "" := by
  intro empty
  have length := congrArg String.length empty
  simp at length

theorem onConnect_zero {topics : Topics} {format : String} (formatted : Formatted topics format)
    (real : format ≠ "") : onConnect 0 topics.topicSubTxpk = .subscribe (cString topics.topicSubTxpk) := by
  have filled : topics.topicSubTxpk ≠ "" := by
    intro empty
    obtain ⟨_, _, _, _, inside⟩ := formatted
    rw [containsText, empty] at inside
    exact real (String.toList_inj.mp (List.infix_nil.mp inside))
  simp [onConnect, filled]

/-- Where nothing is a wildcard, the comparison of the request is the one of the broker. -/
theorem separated_of_literal {topics : Topics} (literal : Literal topics)
    (distinct : Distinct topics) : Separated topics := by
  obtain ⟨noSingle, noMulti, whole⟩ := literal
  simp only [List.forall_mem_cons] at whole
  obtain ⟨rxpk, downlink, ack, stat, txpk, _⟩ := whole
  right
  have differs {text : String} (ends : Char.ofNat 0 ∉ text.toList)
      (other : topics.topicSubTxpk ≠ text) :
      Differs (levels (cString topics.topicSubTxpk)) (levels (cString text)) := by
    by_contra same
    have equal := levels_injective (levelsMatch_literal noSingle noMulti ((levelsMatch_iff _ _).mpr same))
    rw [cString_eq txpk, cString_eq ends] at equal
    exact other (String.toList_inj.mp equal)
  intro topic member
  simp only [publishTopics, List.mem_cons, List.not_mem_nil, or_false] at member
  rcases member with rfl | rfl | rfl | rfl
  · exact .inr (differs rxpk distinct.1)
  · exact .inr (differs downlink distinct.2.1)
  · exact .inr (differs ack distinct.2.2.1)
  · exact .inr (differs stat distinct.2.2.2)

theorem echoFree_iff {topics : Topics} {format : String} (formatted : Formatted topics format)
    (real : format ≠ "") : EchoFree topics ↔ Separated topics := by
  have each : EchoFree topics ↔
      ∀ topic ∈ publishTopics topics, ¬ TopicFilter.Matches (cString topics.topicSubTxpk) topic := by
    constructor
    · intro free
      exact free 0 _ (onConnect_zero formatted real)
    · intro free rc filter subscribed
      rw [onConnect] at subscribed
      split_ifs at subscribed
      cases subscribed
      exact free
  rw [each, Separated]
  by_cases valid : WellFormed (levels (cString topics.topicSubTxpk))
  · simp only [TopicFilter.Matches, valid, levelsMatch_iff, true_and, not_true, false_or, not_and, not_not]
    constructor
    · intro free topic member
      by_cases reserved : Reserved (cString topics.topicSubTxpk) topic
      · exact .inl reserved
      · exact .inr (free topic member reserved)
    · intro separated topic member reachable
      exact (separated topic member).resolve_left reachable
  · simp [TopicFilter.Matches, valid]

/-- An accepted request without wildcards is enough: the bridge does not get what it publishes. -/
theorem literal_topics_echoFree {lib : JsonText} {mac : Option (Fin 6 → UInt8)} {inputJson : Bytes}
    {file : Option Bytes} (accepted : (setBridgeMqttTopic lib mac inputJson file).1.1 = 0)
    {topics : Topics} (requested : requestTopics lib inputJson = some topics)
    (literal : Literal topics) : EchoFree topics := by
  obtain ⟨address, _, _, _, _, _, _, sent, formatted, distinct, _⟩ := set_accepted accepted
  cases requested.symm.trans sent
  exact (echoFree_iff formatted (event_ne_empty address)).mpr (separated_of_literal literal distinct)

/-- The topics of an accepted request are in the file, and a bridge that connects with them does
not get its own publications exactly if the subscription is no filter, or differs from each of the
other topics in the levels that are compared. -/
theorem accepted_topics_echoFree_iff (lib : JsonText) (mac : Option (Fin 6 → UInt8))
    (inputJson : Bytes) (file : Option Bytes)
    (accepted : (setBridgeMqttTopic lib mac inputJson file).1.1 = 0) :
    ∃ topics j, requestTopics lib inputJson = some topics ∧
      (setBridgeMqttTopic lib mac inputJson file).2.bind lib.read = some j ∧
      HasTopics j topics ∧ (EchoFree topics ↔ Separated topics) := by
  obtain ⟨address, text, j, topics, rfl, rfl, read, requested, formatted, distinct, written⟩ :=
    set_accepted accepted
  have reread := lib.read_dump_endl _ (putAll_proper (lib.read_proper text j read) topics)
  refine ⟨topics, _, requested, ?_, putAll_hasTopics j topics, ?_⟩
  · rw [written, Option.bind_some, reread]
  · exact echoFree_iff formatted (event_ne_empty address)

theorem topic_whole {eui tail : String} (inEui : Char.ofNat 0 ∉ eui.toList)
    (inTail : Char.ofNat 0 ∉ tail.toList) :
    Char.ofNat 0 ∉ ("gateway/" ++ eui ++ "/event/" ++ tail).toList := by
  simp [inEui, inTail]

theorem cString_topic {eui tail : String} (inEui : Char.ofNat 0 ∉ eui.toList)
    (inTail : Char.ofNat 0 ∉ tail.toList) :
    cString ("gateway/" ++ eui ++ "/event/" ++ tail) =
      ['g', 'a', 't', 'e', 'w', 'a', 'y', '/'] ++ eui.toList ++
        ['/', 'e', 'v', 'e', 'n', 't', '/'] ++ tail.toList := by
  rw [cString_eq (topic_whole inEui inTail)]
  simp

/-- The characters of the EUI `000102fffe030405`. -/
theorem ownEui_toList :
    (ownEui fun i => i.val.toUInt8).toList =
      ['0', '0', '0', '1', '0', '2', 'f', 'f', 'f', 'e', '0', '3', '0', '4', '0', '5'] := by
  rw [ownEui, ascii, String.toList_ofList]
  decide

/-- The default topics are accepted, and the one for downlinks has no wildcard. -/
theorem default_topics_echoFree :
    let mac : Fin 6 → UInt8 := fun i => i.val.toUInt8
    ∃ topics, requestTopics JsonCodec.text
        (topicRequest JsonCodec.text (ownEui mac) (defaultTopics (ownEui mac))) = some topics ∧
      EchoFree topics := by
  intro mac
  have answer := set_topicRequest JsonCodec.text mac (ownEui mac) (defaultTopics (ownEui mac))
    (defaultTopics_formatted _) (defaultTopics_distinct _)
  obtain ⟨topics, _, requested, _, _, free⟩ :=
    accepted_topics_echoFree_iff JsonCodec.text (some mac) _ _ (by rw [answer])
  have same := requested.symm.trans (requestTopics_topicRequest _ _ _)
  refine ⟨topics, requested, free.mpr ?_⟩
  cases same
  have inEui : Char.ofNat 0 ∉ (ownEui mac).toList := by
    rw [ownEui_toList]
    decide
  have whole {tail : String} (inTail : Char.ofNat 0 ∉ tail.toList) := topic_whole inEui inTail
  have filter : cString (defaultTopics (ownEui mac)).topicSubTxpk = _ :=
    @cString_topic _ "tx" inEui (by simp)
  refine separated_of_literal ?_ (defaultTopics_distinct _)
  rw [Literal, filter, ownEui_toList]
  refine ⟨by decide, by decide, ?_⟩
  simp only [List.forall_mem_cons]
  exact ⟨whole (by simp), whole (by simp), whole (by simp), whole (by simp), whole (by simp), by simp⟩

/-- A request with a wildcard in the topic for downlinks: accepted, and the bridge gets what it
publishes. -/
theorem wildcard_request_echoes :
    let mac : Fin 6 → UInt8 := fun i => i.val.toUInt8
    let topics := withTxpk (ownEui mac) "+"
    let answer := setBridgeMqttTopic JsonCodec.text (some mac)
      (topicRequest JsonCodec.text (ownEui mac) topics)
      (some (topicFile JsonCodec.text (ownEui mac) (defaultTopics (ownEui mac))))
    answer.1.1 = 0 ∧ ∃ j, answer.2.bind JsonCodec.text.read = some j ∧ HasTopics j topics ∧
      ¬ EchoFree topics := by
  intro mac topics answer
  have formatted := withTxpk_formatted (ownEui mac) "+"
  have answered : answer = ((0, ""), some (topicFile JsonCodec.text (ownEui mac) topics)) :=
    set_topicRequest JsonCodec.text mac (ownEui mac) (defaultTopics (ownEui mac)) formatted
      (withTxpk_distinct _ (by decide))
  rw [answered]
  refine ⟨rfl, settingJson (ownEui mac) topics, ?_, settingJson_hasTopics _ _, ?_⟩
  · rw [Option.bind_some, read_topicFile]
  · intro free
    have inEui : Char.ofNat 0 ∉ (ownEui mac).toList := by
      rw [ownEui_toList]
      decide
    have filter := onConnect_zero formatted (by simp)
    refine free 0 _ filter (cString topics.topicPubRxpk) (by simp [publishTopics]) ?_
    have subscribed : cString topics.topicSubTxpk = _ := @cString_topic _ "+" inEui (by simp)
    have published : cString topics.topicPubRxpk = _ := @cString_topic _ "up" inEui (by simp)
    rw [subscribed, published, ownEui_toList]
    simp only [String.reduceToList]
    decide

end Subscription

end LorawanFeeds.Cgi
