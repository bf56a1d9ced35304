import LorawanFeeds.Bridge.ItemVerdict

/-!
# Downlink items

Each item of the network server should end up either in the queue or in one exception. The
source has two slips. The error branches of the timing publish an exception and fall through,
and everything that stops an item stops the items behind it. Before that, the check of the
gateway's identity asks for both of two identities where one is enough, so that no item gets
this far at all.
-/
namespace LorawanFeeds.Bridge

open Lib

/-! ### The loop by rounds -/

/-- One round with the handler of exceptions around it; the loop ends behind the handler. -/
def downlinkRound (env : Env) (item : Json) : Handler Bool :=
  Eff.tryCatch (downlinkItem env item) caughtJson fun e => do
    publishRemoteDownlinkItemsException env e.what
    pure false

def downlinkRounds (env : Env) : List Json → Handler Unit
  | [] => pure ()
  | item :: rest => do
    if ← downlinkRound env item then downlinkRounds env rest else pure ()

/-- The handler around the loop acts as if it stood around each round. -/
theorem downlinkItems_eq (env : Env) (items : List Json) :
    downlinkItems env items = downlinkRounds env items := by
  induction items with
  | nil => rfl
  | cons item rest ih =>
    rw [downlinkItems] at ih
    rw [downlinkItems, downlinkRounds, downlinkLoop, downlinkRound]
    cases ended : (downlinkItem env item).result with
    | ok goesOn =>
      -- The round returned, so that the handler is only for those behind it.
      rw [Eff.tryCatch_bind_of_ok ended, Eff.tryCatch_of_ok ended, Eff.bind_of_ok ended,
        Eff.bind_of_ok ended]
      cases goesOn
      · rfl
      · simp [ih]
    | error fault =>
      rw [Eff.bind_of_error ended, Eff.tryCatch_of_error rfl, Eff.tryCatch_of_error ended]
      -- An exception of the JSON library ends the loop, undefined behaviour passes.
      cases caughtJson fault with
      | some e =>
        simp only [publishRemoteDownlinkItemsException, encodeEui_eq, Eff.pure_bind, Eff.emit_bind]
        rw [Eff.bind_of_ok (a := false) rfl]
        simp [Eff.emit]
      | none => rw [Eff.bind_of_error ended]

/-- The actions of the round of each item; an item behind the end of the loop has none. -/
def segments (env : Env) : List Json → List (List Action)
  | [] => []
  | item :: rest =>
    (downlinkRound env item).events ::
      match (downlinkRound env item).result with
      | .ok true => segments env rest
      | _ => rest.map fun _ => []

theorem flatten_segments (env : Env) (items : List Json) :
    (segments env items).flatten = (downlinkItems env items).events := by
  rw [downlinkItems_eq]
  induction items with
  | nil => rfl
  | cons item rest ih =>
    have none_left : (rest.map fun _ => ([] : List Action)).flatten = [] := by simp
    rw [segments, downlinkRounds]
    cases ended : (downlinkRound env item).result with
    | ok goesOn =>
      rw [Eff.bind_of_ok ended]
      cases goesOn <;> simp [ih]
    | error fault => simp [Eff.bind_of_error ended]

/-! ### Each item once -/

/-- The document is sent at once, or at the time that the item gives. -/
def Timed (item doc : Json) : Prop :=
  doc.lookup ["txpk", "imme"] = some (.bool true) ∨
    doc.lookup ["txpk", "imme"] = some (.bool false) ∧
      ∃ timestamp, item.lookup ["txInfo", "timestamp"] = some timestamp ∧
        doc.lookup ["txpk", "tmst"] = some timestamp

/-- The actions queue one timed document and publish no exception, or queue nothing and
publish one exception. -/
def ItemOnce (env : Env) (item : Json) (actions : List Action) : Prop :=
  (∃ doc, outcomes actions = [.queued (env.dump doc)] ∧ Timed item doc) ∨
    ∃ doc, outcomes actions = [.rejected doc]

/-- The loop returns, and each item is queued once or rejected once. -/
def EachItemOnce (env : Env) (items : List Json) : Prop :=
  (downlinkItems env items).result = .ok () ∧ List.Forall₂ (ItemOnce env) items (segments env items)

/-- Nothing behind the timing touches the time again. -/
theorem time_untouched (item txInfo : Json) {place : TxpkField} (time : place = .imme ∨ place = .tmst) :
    place ∉ (radioWrites txInfo ++ modulationWrites item txInfo ++
      copied TxpkField.prea txInfo "preambleSize" ++ copied TxpkField.ncrc txInfo "noCRC" ++
      copied TxpkField.nhdr txInfo "noHeader").map Prod.fst := by
  -- The places of each later part, one part at a time.
  have radio : place ∉ (radioWrites txInfo).map Prod.fst := by
    rw [radioWrites]
    rcases time with rfl | rfl <;> split <;> simp
  have lora (info : Json) : place ∉ (loraWrites info).map Prod.fst := by
    rw [loraWrites]
    rcases time with rfl | rfl <;> split <;> simp
  have fsk (info : Json) : place ∉ (fskWrites info).map Prod.fst := by
    rw [fskWrites]
    rcases time with rfl | rfl <;> simp
  have modulation : place ∉ (modulationWrites item txInfo).map Prod.fst := by
    rw [modulationWrites]
    split
    · rw [List.map_append, List.mem_append, not_or]
      refine ⟨by rcases time with rfl | rfl <;> simp, ?_⟩
      split
      · exact lora _
      · exact fsk _
    · simp
  have copy (other : TxpkField) (key : String) (apart : place ≠ other) :
      place ∉ (copied other txInfo key).map Prod.fst := by
    rw [copied]
    split <;> simp [apart]
  have apart (other : TxpkField) (notNow : other ≠ .imme) (notLater : other ≠ .tmst) :
      place ≠ other := by
    rcases time with rfl | rfl
    · exact notNow.symm
    · exact notLater.symm
  simp only [List.map_append, List.mem_append, not_or]
  exact ⟨⟨⟨⟨radio, modulation⟩, copy _ _ (apart _ (by decide) (by decide))⟩,
    copy _ _ (apart _ (by decide) (by decide))⟩, copy _ _ (apart _ (by decide) (by decide))⟩

theorem timed_of_accepted {item : Json} (accepted : AcceptedItem item) :
    Timed item (txpkTranslation item) := by
  obtain ⟨_, _, _, _, txInfo, info, timing, read, usable, _⟩ := accepted
  have split_writes : txpkWrites item =
      [(.data, member item "phyPayload"), (.size, member item "phyPayloadSize")] ++
      (timingWrites txInfo ++ (radioWrites txInfo ++ modulationWrites item txInfo ++
        copied TxpkField.prea txInfo "preambleSize" ++ copied TxpkField.ncrc txInfo "noCRC" ++
        copied TxpkField.nhdr txInfo "noHeader")) := by
    simp only [txpkWrites, member_of_get? info, List.append_assoc]
  rw [txpkTranslation]
  rw [split_writes, timingWrites, member_of_get? read]
  rcases usable with rfl | ⟨rfl, _, inside⟩
  · left
    exact Draft.get?_setAll_of_last (S := txpkSchema) .empty .imme _ _ _
      (time_untouched item txInfo (.inl rfl))
  · right
    obtain ⟨timestamp, found⟩ := (Json.contains_eq_true_iff _ _).mp inside
    refine ⟨?_, timestamp, by simp [Json.lookup, info, found], ?_⟩
    · refine Draft.get?_setAll_of_last (S := txpkSchema) .empty .imme _
        [(.data, member item "phyPayload"), (.size, member item "phyPayloadSize")]
        ((.tmst, member txInfo "timestamp") :: _) ?_
      rw [List.map_cons, List.mem_cons, not_or]
      exact ⟨by simp, time_untouched item txInfo (.inl rfl)⟩
    · rw [← member_of_get? found]
      exact Draft.get?_setAll_of_last (S := txpkSchema) .empty .tmst _
        [(.data, member item "phyPayload"), (.size, member item "phyPayloadSize"),
          (.imme, .bool false)] _ (time_untouched item txInfo (.inr rfl))

/-! ### The rounds of accepted and rejected items -/

theorem observe_downlinkRound (env : Env) (item : Json) :
    (downlinkRound env item).observe outcome =
      Eff.tryCatch ((downlinkItem env item).observe outcome) caughtJson
        fun e => ⟨[.rejected (exceptionDoc env e.what)], .ok false⟩ := by
  simp only [downlinkRound, Eff.observe_tryCatch, Eff.observe_bind, observe_exception,
    Eff.emit_bind]
  rfl

theorem round_of_accepted (env : Env) {item : Json} (accepted : AcceptedItem item) :
    (downlinkRound env item).observe outcome =
      ⟨[.queued (env.dump (txpkTranslation item))], .ok true⟩ := by
  rw [observe_downlinkRound, observe_accepted env accepted]
  rfl

theorem round_of_rejected (env : Env) {item : Json} (rejected : RejectedItem item) :
    ∃ doc, (downlinkRound env item).observe outcome = ⟨[.rejected doc], .ok false⟩ := by
  rw [observe_downlinkRound]
  rcases (rejectsOnce_iff env item).mpr rejected with ⟨e, thrown⟩ | ⟨doc, returned⟩
  · exact ⟨exceptionDoc env e.what, by rw [thrown]; rfl⟩
  · exact ⟨doc, by rw [returned]; rfl⟩

/-- A round with exactly one outcome is that of an accepted or a rejected item. -/
theorem accepted_or_rejected (env : Env) {item : Json} {b : Bool} {o : Outcome}
    (once : (downlinkRound env item).observe outcome = ⟨[o], .ok b⟩) :
    AcceptedItem item ∨ RejectedItem item := by
  rw [← queuesOnce_iff env, ← rejectsOnce_iff env]
  rw [observe_downlinkRound] at once
  have concludes := concludes_downlinkItem env item
  -- Only the outcomes of the round and how they end matter from here on.
  generalize (downlinkItem env item).observe outcome = round at once concludes
  obtain ⟨events, result⟩ := round
  cases result with
  | ok goesOn =>
    obtain ⟨rfl, rfl⟩ : events = [o] ∧ goesOn = b := by simpa [Eff.tryCatch] using once
    cases goesOn with
    | true =>
      obtain ⟨before, payload, ends⟩ := concludes.1 rfl
      have last : o = .queued payload := by simpa using congrArg List.getLast? ends
      exact .inl ⟨payload, by rw [last]⟩
    | false =>
      obtain ⟨before, doc, ends⟩ := concludes.2 rfl
      have last : o = .rejected doc := by simpa using congrArg List.getLast? ends
      exact .inr (.inr ⟨doc, by rw [last]⟩)
  | error fault =>
    rw [Eff.tryCatch_of_error rfl] at once
    -- Of the faults only an exception of the JSON library is turned into an outcome.
    rcases fault with (e | _ | _) | _
    · have silent : events = [] := by simpa [caughtJson] using congrArg (fun x => x.events.length) once
      exact .inr (.inl ⟨e, by rw [silent]; rfl⟩)
    all_goals simp [caughtJson] at once

theorem not_itemOnce_nil (env : Env) (item : Json) : ¬ ItemOnce env item [] := by
  simp [ItemOnce, outcomes]

theorem itemOnce_of_accepted (env : Env) {item : Json} (accepted : AcceptedItem item) :
    ItemOnce env item (downlinkRound env item).events := by
  refine .inl ⟨txpkTranslation item, ?_, timed_of_accepted accepted⟩
  exact congrArg Eff.events (round_of_accepted env accepted)

/-- The first item decides how the loop goes on. -/
theorem eachItemOnce_cons (env : Env) (item : Json) (rest : List Json) :
    EachItemOnce env (item :: rest) ↔
      AcceptedItem item ∧ EachItemOnce env rest ∨ RejectedItem item ∧ rest = [] := by
  simp only [EachItemOnce, downlinkItems_eq, downlinkRounds, segments, List.forall₂_cons]
  constructor
  · rintro ⟨returned, first, others⟩
    cases ended : (downlinkRound env item).result with
    | error fault => simp [Eff.bind_of_error ended] at returned
    | ok goesOn =>
      rw [ended] at others
      rw [Eff.bind_of_ok ended] at returned
      -- The first item has exactly one outcome.
      obtain ⟨o, single⟩ : ∃ o, outcomes (downlinkRound env item).events = [o] := by
        rcases first with ⟨doc, queued, _⟩ | ⟨doc, rejected⟩
        · exact ⟨_, queued⟩
        · exact ⟨_, rejected⟩
      have round : (downlinkRound env item).observe outcome = ⟨[o], .ok goesOn⟩ := by
        rw [Eff.observe, ended, ← single]
        rfl
      rcases accepted_or_rejected env round with accepted | rejected
      · obtain rfl : true = goesOn := by
          simpa [round_of_accepted env accepted] using congrArg Eff.result round
        exact .inl ⟨accepted, returned, others⟩
      · obtain ⟨doc, stopped⟩ := round_of_rejected env rejected
        obtain rfl : false = goesOn := by simpa [stopped] using congrArg Eff.result round
        refine .inr ⟨rejected, ?_⟩
        -- The loop is over behind a rejected item, and a next one would have no outcome.
        cases rest with
        | nil => rfl
        | cons next more => exact absurd (List.forall₂_cons.mp others).1 (not_itemOnce_nil env next)
  · rintro (⟨accepted, returned, others⟩ | ⟨rejected, rfl⟩)
    · have ended : (downlinkRound env item).result = .ok true :=
        congrArg Eff.result (round_of_accepted env accepted)
      rw [Eff.bind_of_ok ended, ended]
      exact ⟨returned, itemOnce_of_accepted env accepted, others⟩
    · obtain ⟨doc, stopped⟩ := round_of_rejected env rejected
      have ended : (downlinkRound env item).result = .ok false := congrArg Eff.result stopped
      rw [Eff.bind_of_ok ended, ended]
      exact ⟨rfl, .inr ⟨doc, congrArg Eff.events stopped⟩, .nil⟩

/-- Each item is queued once or rejected once exactly when all items but the last are accepted,
and the last is accepted or rejected. -/
theorem each_item_once_iff (env : Env) (items : List Json) :
    (segments env items).flatten = (downlinkItems env items).events ∧
      (EachItemOnce env items ↔
        (∀ item ∈ items.dropLast, AcceptedItem item) ∧
          ∀ item ∈ items.getLast?, AcceptedItem item ∨ RejectedItem item) := by
  constructor
  · exact flatten_segments env items
  · induction items with
    | nil => simp [EachItemOnce, downlinkItems_eq, downlinkRounds, segments]
    | cons item rest ih =>
      rw [eachItemOnce_cons, ih]
      cases rest with
      | nil => simp
      | cons next more => simp [and_assoc]

/-- A LoRa downlink with a timestamp where the network server puts it. -/
def sampleItem (timing : String) : Json :=
  .obj [("modulation", .str "LORA"), ("phyPayload", .str "aGk="), ("phyPayloadSize", .uint 2),
    ("txInfo", .obj [("frequency", .uint 868100000),
      ("modulationInfo", .obj [("bandwidth", .uint 125), ("codeRate", .str "4/5"),
        ("polarizationInversion", .bool true), ("spreadingFactor", .uint 7)]),
      ("power", .uint 14), ("timestamp", .uint 3512348611), ("timing", .str timing)])]

/-- A delayed downlink with its timestamp is queued without it and rejected as well. -/
theorem delayed_item_twice : ¬ EachItemOnce (sampleEnv fun _ => none) [sampleItem "DELAY"] := by
  rintro ⟨_, once⟩
  have both : (outcomes (downlinkRound (sampleEnv fun _ => none) (sampleItem "DELAY")).events).length
      = 2 := by rfl
  rcases (List.forall₂_cons.mp once).1 with ⟨doc, queued, _⟩ | ⟨doc, rejected⟩
  · simp [queued] at both
  · simp [rejected] at both

/-! ### The check of the gateway's identity -/

/-- The message names this gateway, or the identity that the unit test uses. -/
def Addressed (env : Env) (jsonDl : Json) : Prop :=
  ∃ id, jsonDl.get? "gatewayID" = some (.str id) ∧ (id = gatewayId env ∨ id = unitTestId)

/-- The items of a message for this gateway are all queued, translated and in order; any other
message is rejected with one exception. -/
def ItemsDelivered (env : Env) (jsonDl : Json) : Prop :=
  let actions := (parseRemoteDownlinkItemsJson env jsonDl).events
  let items := (member jsonDl "downlinkItems").elements
  (Addressed env jsonDl → (∀ item ∈ items, AcceptedItem item) →
    pushes actions = items.map fun item => env.dump (txpkTranslation item)) ∧
  (¬ Addressed env jsonDl → ∃ doc, outcomes actions = [.rejected doc])

theorem pushes_eq (trace : List Action) :
    pushes trace = (outcomes trace).filterMap fun
      | .queued payload => some payload
      | .rejected _ => none := by
  rw [outcomes, List.filterMap_filterMap, pushes]
  congr 1
  funext a
  cases a with
  | publish topic doc =>
    cases topic <;> simp only [outcome, Option.bind_none]
    split <;> rfl
  | _ => rfl

theorem outcomes_of_accepted (env : Env) {items : List Json}
    (accepted : ∀ item ∈ items, AcceptedItem item) :
    outcomes (downlinkItems env items).events =
      items.map fun item => .queued (env.dump (txpkTranslation item)) := by
  rw [downlinkItems_eq, outcomes, ← Eff.events_observe]
  induction items with
  | nil => rfl
  | cons item rest ih =>
    rw [downlinkRounds, Eff.observe_bind, round_of_accepted env (accepted item (by simp)),
      Eff.bind_of_ok rfl]
    simpa using ih fun next inRest => accepted next (by simp [inRest])

/-- The guard asks for both identities. -/
theorem outcomes_of_mismatch (env : Env) {jsonDl : Json} {id : String}
    (named : jsonDl.get? "gatewayID" = some (.str id))
    (mismatch : gatewayId env ≠ id ∨ id ≠ unitTestId) :
    outcomes (parseRemoteDownlinkItemsJson env jsonDl).events =
      [.rejected (exceptionDoc env "Gateway ID  is not correct.")] := by
  rw [outcomes, ← Eff.events_observe]
  simp [parseRemoteDownlinkItemsJson, look_of_get? named, Json.asString, mismatch, Eff.emit]

theorem outcomes_of_match (env : Env) {jsonDl : Json} {id : String}
    (named : jsonDl.get? "gatewayID" = some (.str id)) (same : gatewayId env = id)
    (unitTest : id = unitTestId) :
    outcomes (parseRemoteDownlinkItemsJson env jsonDl).events =
      outcomes (downlinkItems env (member jsonDl "downlinkItems").elements).events := by
  have passed : ¬ (gatewayId env ≠ id ∨ id ≠ unitTestId) := by simp [same, unitTest]
  simp only [outcomes, ← Eff.events_observe]
  cases listed : jsonDl.get? "downlinkItems" with
  | some items =>
    simp [parseRemoteDownlinkItemsJson, look_of_get? named, Json.asString, passed,
      look_of_get? listed, member_of_get? listed]
  | none =>
    have absent : look jsonDl "downlinkItems" = Eff.raise (accessFault jsonDl) := by
      rw [look, listed]
    have empty : (member jsonDl "downlinkItems").elements = [] := by
      rw [member, listed]
      rfl
    simp [parseRemoteDownlinkItemsJson, look_of_get? named, Json.asString, passed, absent, empty,
      downlinkItems_eq, downlinkRounds]

/-- Without a readable identity nothing is queued and nothing is published. -/
theorem outcomes_of_unnamed (env : Env) {jsonDl : Json}
    (unnamed : ∀ id, jsonDl.get? "gatewayID" ≠ some (.str id)) :
    outcomes (parseRemoteDownlinkItemsJson env jsonDl).events = [] := by
  rw [outcomes, ← Eff.events_observe]
  simp only [parseRemoteDownlinkItemsJson, Eff.observe_bind, observe_look, observe_convert]
  cases named : jsonDl.get? "gatewayID" with
  | none => simp [look, named]
  | some v =>
    obtain ⟨e, wrong⟩ : ∃ e, v.asString = .error e := by
      cases v <;> simp_all [Json.asString]
    simp [look_of_get? named, wrong]

theorem named_of_delivered {env : Env} {jsonDl : Json} (delivered : ItemsDelivered env jsonDl) :
    ∃ id, jsonDl.get? "gatewayID" = some (.str id) := by
  by_contra unnamed
  have none_named := not_exists.mp unnamed
  have other : ¬ Addressed env jsonDl := fun ⟨id, named, _⟩ => none_named id named
  obtain ⟨doc, rejected⟩ := delivered.2 other
  simp [outcomes_of_unnamed env none_named] at rejected

/-- The items of a message get through exactly when it names a gateway and, if it names this
one and carries items that are all in order, this gateway's own identity is the one of the unit
test. -/
theorem items_delivered_iff (env : Env) (jsonDl : Json) :
    ItemsDelivered env jsonDl ↔
      ∃ id, jsonDl.get? "gatewayID" = some (.str id) ∧
        (id = gatewayId env ∨ id = unitTestId →
          (∀ item ∈ (member jsonDl "downlinkItems").elements, AcceptedItem item) →
          (member jsonDl "downlinkItems").elements ≠ [] →
            gatewayId env = unitTestId) := by
  constructor
  · intro delivered
    obtain ⟨id, named⟩ := named_of_delivered delivered
    refine ⟨id, named, fun addressed accepted some_items => ?_⟩
    by_contra apart
    -- With two identities apart, no identity passes the check.
    have mismatch : gatewayId env ≠ id ∨ id ≠ unitTestId := by
      by_contra both
      simp only [not_or, not_not] at both
      exact apart (both.1.trans both.2)
    have pushed := delivered.1 ⟨id, named, addressed⟩ accepted
    rw [pushes_eq, outcomes_of_mismatch env named mismatch] at pushed
    exact some_items (List.map_eq_nil_iff.mp pushed.symm)
  · rintro ⟨id, named, condition⟩
    refine ⟨fun ⟨other, sameName, addressed⟩ accepted => ?_, fun other => ?_⟩
    · obtain rfl : id = other := by simpa [named] using sameName
      -- Past the check the loop runs; before it there must have been nothing to queue.
      by_cases matched : gatewayId env = id ∧ id = unitTestId
      · rw [pushes_eq, outcomes_of_match env named matched.1 matched.2,
          outcomes_of_accepted env accepted, List.filterMap_map]
        exact congrFun List.filterMap_eq_map _
      · have mismatch : gatewayId env ≠ id ∨ id ≠ unitTestId := not_and_or.mp matched
        rw [pushes_eq, outcomes_of_mismatch env named mismatch]
        by_contra some_items
        have same := condition addressed accepted fun none_left => some_items (by simp [none_left])
        rcases addressed with rfl | rfl
        · exact matched ⟨rfl, same⟩
        · exact matched ⟨same, rfl⟩
    · refine ⟨_, outcomes_of_mismatch env named (.inl fun same => ?_)⟩
      exact other ⟨id, named, .inl same.symm⟩

/-- The identity of a gateway has 24 characters in Base64, the one of the unit test 16. -/
theorem gatewayId_ne_unitTestId {env : Env} {mac : Fin 6 → UInt8}
    (eui : env.gatewayEui = generateGatewayIdByMac mac) : gatewayId env ≠ unitTestId := by
  intro same
  -- The two differ in length already.
  have size := congrArg String.length same
  rw [gatewayId, ascii, String.length_ofList, List.length_map, Base64.encoding_length, eui,
    generateGatewayIdByMac_length] at size
  exact absurd size (by decide)

theorem sampleItem_accepted : AcceptedItem (sampleItem "IMMEDIATELY") :=
  ⟨_, rfl, _, rfl, _, rfl, _, rfl, .inl rfl, _, rfl, _, rfl, rfl, _, rfl,
    .inl ⟨rfl, _, rfl, _, rfl, rfl, _, rfl, rfl, rfl, rfl⟩⟩

/-- A message with one item that is in order, for a given gateway. -/
def sampleMessage (id : String) : Json :=
  .obj [("downlinkItems", .arr [sampleItem "IMMEDIATELY"]), ("gatewayID", .str id)]

theorem sampleMessage_named (id : String) :
    (sampleMessage id).get? "gatewayID" = some (.str id) := rfl

theorem sampleMessage_items (id : String) :
    (member (sampleMessage id) "downlinkItems").elements = [sampleItem "IMMEDIATELY"] := rfl

/-- A message for the gateway itself is turned down. -/
theorem sampleMessage_dropped (env : Env) (apart : gatewayId env ≠ unitTestId) :
    ¬ ItemsDelivered env (sampleMessage (gatewayId env)) := by
  intro delivered
  have pushed := delivered.1 ⟨gatewayId env, sampleMessage_named _, .inl rfl⟩ (by
    simpa only [sampleMessage_items, List.forall_mem_singleton] using sampleItem_accepted)
  rw [pushes_eq, outcomes_of_mismatch env (sampleMessage_named _) (.inr apart),
    sampleMessage_items] at pushed
  simp at pushed

theorem addressed_items_dropped :
    ¬ ItemsDelivered (sampleEnv fun _ => none)
      (sampleMessage (gatewayId (sampleEnv fun _ => none))) :=
  sampleMessage_dropped _ (gatewayId_ne_unitTestId sampleEnv_eui)

end LorawanFeeds.Bridge
