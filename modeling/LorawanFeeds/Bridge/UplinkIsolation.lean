import LorawanFeeds.Bridge.Handlers

/-!
# Received packets and the documents of their neighbours

The loop over the received packets of a PUSH_DATA fills in one document again and again. What
a packet does to it is a list of assignments (`uplinkWrites`), and the document published for a
packet is its own exactly when its assignments cover those of the packets before it.
-/
namespace LorawanFeeds.Bridge

open Lib

/-- The published documents with their topics. -/
def publication : Action → Option (Topic × Json)
  | .publish topic doc => some (topic, doc)
  | _ => none

def published (trace : List Action) : List (Topic × Json) := trace.filterMap publication

theorem publication_access (j : Json) (key : String) : publication (.access j key) = none := rfl

/-- A packet with all members that are read unconditionally, and a known CRC status if it
reports one. -/
structure CompleteRxpk (rxpk : Json) : Prop where
  required : ∀ key ∈ ["size", "data", "freq", "modu", "datr", "tmst", "rssi", "chan", "rfch"],
    rxpk.contains key
  stat : ∀ v, rxpk.get? "stat" = some v → ∃ n : Int32, v.asInt = .ok n ∧
    (n.toInt = -1 ∨ n.toInt = 0 ∨ n.toInt = 1)

/-! ### What one packet assigns -/

abbrev UplinkWrites := List (UplinkField × Json)

def datrWrites : Json → Option UplinkWrites
  | .str datr => (parseUplinkDatr datr).map fun (dr, bw) =>
    [(.bandwidth, .uint bw.toUInt64), (.spreadingFactor, .uint dr.toUInt64)]
  | .int rate => some [(.fskDataRate, .int rate)]
  | .uint rate => some [(.fskDataRate, .uint rate)]
  | _ => some []

def crcWrites (rxpk : Json) : UplinkWrites :=
  if rxpk.contains "stat" then
    match (member rxpk "stat").asInt with
    | .ok n => [(.crcStatus, .str ((statTb (n.toInt + 1)).getD ""))]
    | .error _ => []
  else []

def rxInfoWrites (rxpk : Json) : UplinkWrites :=
  copied UplinkField.codeRate rxpk "codr" ++ copied UplinkField.time rxpk "time" ++
  [(.timestamp, member rxpk "tmst")] ++ copied UplinkField.fineTimestampType rxpk "ftime" ++
  [(.rssi, member rxpk "rssi")] ++ copied UplinkField.rssis rxpk "rssis" ++
  copied UplinkField.loRaSNR rxpk "lsnr" ++
  [(.channel, member rxpk "chan"), (.rfChain, member rxpk "rfch")] ++
  copied UplinkField.loRaFreqOffset rxpk "foff" ++ copied UplinkField.modemID rxpk "mid" ++
  crcWrites rxpk

/-- The assignments of a packet that leaves the loop early. -/
def earlyWrites (env : Env) (rxpk : Json) : UplinkWrites :=
  [(.gatewayID, .str (gatewayId env)), (.phyPayloadSize, member rxpk "size"),
    (.phyPayload, member rxpk "data")] ++
  match member rxpk "freq" with
  | .float freq =>
    [(.frequency, .uint (freq * 1000000).toUInt64), (.modulation, member rxpk "modu")]
  | _ => []

/-- The assignments from the data rate on; nothing for a packet that is not published. -/
def lateWrites (rxpk : Json) : Option UplinkWrites :=
  match member rxpk "freq" with
  | .float _ => (datrWrites (member rxpk "datr")).map (· ++ rxInfoWrites rxpk)
  | _ => none

def uplinkWrites (env : Env) (rxpk : Json) : UplinkWrites :=
  earlyWrites env rxpk ++ (lateWrites rxpk).getD []

theorem uplinkDatr_eq (draft : UplinkDraft) (datr : Json) :
    uplinkDatr draft datr = (datrWrites datr).map draft.setAll := by
  cases datr with
  | str text => cases parsed : parseUplinkDatr text <;> simp [uplinkDatr, datrWrites, parsed]
  | _ => simp [uplinkDatr, datrWrites]

theorem statTb_of_range {n : Int} (range : n = -1 ∨ n = 0 ∨ n = 1) :
    ∃ text, statTb (n + 1) = some text := by
  rcases range with rfl | rfl | rfl <;> exact ⟨_, rfl⟩

theorem observe_uplinkCrcStatus (draft : UplinkDraft) {rxpk : Json} (complete : CompleteRxpk rxpk) :
    (uplinkCrcStatus draft rxpk).observe publication =
      pure (draft.setAll (crcWrites rxpk)) := by
  rw [uplinkCrcStatus, crcWrites]
  split
  next present =>
    obtain ⟨v, found⟩ := (Json.contains_eq_true_iff _ _).mp present
    -- A status that the packet reports is a number in the table.
    obtain ⟨n, converted, range⟩ := complete.stat v found
    have read := member_of_get? found
    have hidden : (Eff.emit (.statTb (n.toInt + 1)) : Handler Unit).observe publication =
        pure () := Eff.observe_emit_of_none rfl
    obtain ⟨text, looked⟩ := statTb_of_range range
    simp [observe_access_of_contains publication publication_access present, read, converted, convert, hidden, looked]
  next => simp

theorem observe_uplinkRxInfo (draft : UplinkDraft) {rxpk : Json} (complete : CompleteRxpk rxpk) :
    (uplinkRxInfo draft rxpk).observe publication =
      pure (draft.setAll (rxInfoWrites rxpk)) := by
  have read {key : String} (present : rxpk.contains key) :=
    observe_access_of_contains publication publication_access present
  simp only [uplinkRxInfo, Eff.observe_bind, observe_copyIfPresent publication publication_access, Eff.pure_bind,
    read (complete.required "tmst" (by simp)),
    read (complete.required "rssi" (by simp)),
    read (complete.required "chan" (by simp)),
    read (complete.required "rfch" (by simp)), observe_uplinkCrcStatus _ complete,
    rxInfoWrites, Draft.setAll_append, Draft.setAll_cons, Draft.setAll_nil]

/-- One round of the loop: its assignments are made, and the document is published unless the
round was left early. -/
theorem observe_uplinkPacket (env : Env) (draft : UplinkDraft) {rxpk : Json}
    (complete : CompleteRxpk rxpk) :
    (uplinkPacket env draft rxpk).observe publication =
      ⟨if (lateWrites rxpk).isSome then [(.rxpk, (draft.setAll (uplinkWrites env rxpk)).json)]
        else [], .ok (draft.setAll (uplinkWrites env rxpk))⟩ := by
  have read {key : String} (present : rxpk.contains key) :=
    observe_access_of_contains publication publication_access present
  simp only [uplinkPacket, encodeEui_eq, Eff.observe_bind, Eff.pure_bind,
    read (complete.required "size" (by simp)),
    read (complete.required "data" (by simp)),
    read (complete.required "freq" (by simp))]
  cases frequency : member rxpk "freq" with
  | float freq =>
    simp only [Eff.observe_bind, Eff.pure_bind, uplinkDatr_eq, uplinkWrites, earlyWrites,
      lateWrites, frequency, read (complete.required "modu" (by simp)),
      read (complete.required "datr" (by simp))]
    cases datrWrites (member rxpk "datr") with
    | none => rfl
    | some writes =>
      simp only [Option.map_some, Option.getD_some, Eff.observe_bind,
        observe_uplinkRxInfo _ complete, Eff.pure_bind, Draft.setAll_append]
      rfl
  | _ =>
    simp only [uplinkWrites, earlyWrites, lateWrites, frequency]
    rfl

/-! ### The loop -/

/-- The documents published from a given draft on. -/
def uplinkDocuments (env : Env) : UplinkDraft → List Json → List (Topic × Json)
  | _, [] => []
  | draft, rxpk :: rest =>
    let draft := draft.setAll (uplinkWrites env rxpk)
    (if (lateWrites rxpk).isSome then [(.rxpk, draft.json)] else []) ++
      uplinkDocuments env draft rest

theorem published_uplinkLoop (env : Env) (draft : UplinkDraft) (packets : List Json)
    (complete : ∀ rxpk ∈ packets, CompleteRxpk rxpk) :
    published (uplinkLoop env draft packets).events = uplinkDocuments env draft packets := by
  rw [published, ← Eff.events_observe]
  induction packets generalizing draft with
  | nil => rfl
  | cons rxpk rest ih =>
    rw [uplinkLoop, Eff.observe_bind, observe_uplinkPacket env draft (complete rxpk (by simp)),
      Eff.bind_of_ok rfl, ih _ fun r inRest => complete r (by simp [inRest])]
    rfl

theorem published_uplink (env : Env) {jsonUp : Json} {packets : List Json}
    (found : jsonUp.get? "rxpk" = some (.arr packets))
    (complete : ∀ rxpk ∈ packets, CompleteRxpk rxpk) :
    published (publishChirpstackFormatUplinkJson env jsonUp).events =
      uplinkDocuments env .empty packets := by
  rw [publishChirpstackFormatUplinkJson, access_of_get? found, Eff.bind_of_ok rfl,
    ← published_uplinkLoop env .empty packets complete]
  rfl

/-! ### Isolation -/

abbrev places (writes : UplinkWrites) : List UplinkField := writes.map Prod.fst

/-- A later document shows nothing of what was assigned before exactly when it is assigned
again. -/
theorem setAll_setAll_iff (old new : UplinkWrites) :
    ((Draft.empty.setAll old).setAll new : UplinkDraft).json =
        (Draft.empty.setAll new : UplinkDraft).json ↔
      places old ⊆ places new := by
  constructor
  · intro same place written
    by_contra uncovered
    -- A place that is not assigned again keeps a value that a fresh document lacks.
    have left := Draft.isSome_get?_setAll_of_mem (S := uplinkSchema) Draft.empty place old written
    have right : ((Draft.empty.setAll new : UplinkDraft).get? place) = none := by
      rw [Draft.get?_setAll_of_not_mem _ _ _ uncovered]
      cases place <;> rfl
    rw [← Draft.get?_setAll_of_not_mem _ _ _ uncovered, Draft.ext same, right] at left
    exact absurd left (by simp)
  · intro covered
    rw [Draft.setAll_setAll_of_subset _ _ _ covered]

/-- The documents are those of the packets alone exactly when every published packet assigns
again what was assigned before the loop and by all packets before it. -/
theorem uplinkDocuments_iff (env : Env) (old : UplinkWrites) (packets : List Json) :
    uplinkDocuments env (Draft.empty.setAll old) packets =
        packets.flatMap (fun rxpk => uplinkDocuments env .empty [rxpk]) ↔
      (∀ rxpk ∈ packets, (lateWrites rxpk).isSome → places old ⊆ places (uplinkWrites env rxpk)) ∧
      packets.Pairwise fun earlier later => (lateWrites later).isSome →
        places (uplinkWrites env earlier) ⊆ places (uplinkWrites env later) := by
  -- The assignments made so far grow from packet to packet.
  induction packets generalizing old with
  | nil => simp [uplinkDocuments]
  | cons rxpk rest ih =>
    have tail := ih (old ++ uplinkWrites env rxpk)
    rw [Draft.setAll_append] at tail
    simp only [uplinkDocuments, List.flatMap_cons, List.append_nil, List.pairwise_cons,
      List.forall_mem_cons]
    by_cases late : (lateWrites rxpk).isSome
    · -- Published: its document has to be its own, and its assignments stay behind.
      simp only [late, if_true, List.singleton_append, List.cons.injEq, Prod.mk.injEq, true_and,
        setAll_setAll_iff, forall_const]
      simp only [uplinkDocuments, List.append_nil] at tail
      rw [tail]
      simp only [places, List.map_append, List.append_subset]
      grind
    · -- Left early: nothing is published, but what was assigned stays behind.
      simp only [late, if_false, List.nil_append, Bool.false_eq_true, false_implies, true_and]
      simp only [uplinkDocuments, List.append_nil] at tail
      rw [tail]
      simp only [places, List.map_append, List.append_subset]
      grind

/-! ### The fields that matter -/

/-- The packet is not left early: its frequency is a floating-point number and its data rate
parses if it is text. -/
def reachesPublish (rxpk : Json) : Bool :=
  match member rxpk "freq" with
  | .float _ =>
    match member rxpk "datr" with
    | .str datr => (parseUplinkDatr datr).isSome
    | _ => true
  | _ => false

/-- The fields every document has. -/
def requiredFields : List UplinkField :=
  [.gatewayID, .phyPayloadSize, .phyPayload, .frequency, .modulation, .timestamp, .rssi, .channel,
    .rfChain]

def datrFields : Json → List UplinkField
  | .str _ => [.bandwidth, .spreadingFactor]
  | .int _ | .uint _ => [.fskDataRate]
  | _ => []

/-- The optional members of a packet and the fields they fill in. -/
def optionalMembers : List (UplinkField × String) :=
  [(.codeRate, "codr"), (.time, "time"), (.fineTimestampType, "ftime"), (.rssis, "rssis"),
    (.loRaSNR, "lsnr"), (.loRaFreqOffset, "foff"), (.modemID, "mid"), (.crcStatus, "stat")]

/-- The fields a packet fills in beyond the required ones. -/
def optionalFields (rxpk : Json) : List UplinkField :=
  datrFields (member rxpk "datr") ++
    optionalMembers.flatMap fun entry => if rxpk.contains entry.2 then [entry.1] else []

theorem isSome_lateWrites (rxpk : Json) : (lateWrites rxpk).isSome = reachesPublish rxpk := by
  rw [lateWrites, reachesPublish]
  cases member rxpk "freq" with
  | float => cases member rxpk "datr" <;> simp [datrWrites]
  | _ => rfl

theorem not_required_of_optional (rxpk : Json) {place : UplinkField}
    (optional : place ∈ optionalFields rxpk) : place ∉ requiredFields := by
  simp only [optionalFields, List.mem_append, List.mem_flatMap, List.mem_ite_nil_right,
    List.mem_singleton] at optional
  rcases optional with rate | ⟨entry, listed, _, rfl⟩
  · revert rate
    cases member rxpk "datr" <;> simp +contextual [datrFields, requiredFields]
    rintro (rfl | rfl) <;> simp
  · have apart : ∀ entry ∈ optionalMembers, entry.1 ∉ requiredFields := by decide
    exact apart entry listed

theorem places_copied (place : UplinkField) (rxpk : Json) (key : String) :
    places (copied place rxpk key) = if rxpk.contains key then [place] else [] := by
  rw [copied]
  split <;> rfl

theorem places_crcWrites {rxpk : Json} (complete : CompleteRxpk rxpk) :
    places (crcWrites rxpk) = if rxpk.contains "stat" then [.crcStatus] else [] := by
  rw [crcWrites]
  split
  next present =>
    obtain ⟨v, found⟩ := (Json.contains_eq_true_iff _ _).mp present
    obtain ⟨n, converted, _⟩ := complete.stat v found
    have read := member_of_get? found
    simp [read, converted]
  next => rfl

theorem places_datrWrites {datr : Json} {writes : UplinkWrites}
    (accepted : datrWrites datr = some writes) : places writes = datrFields datr := by
  cases datr with
  | str text =>
    simp only [datrWrites, Option.map_eq_some_iff] at accepted
    obtain ⟨_, _, rfl⟩ := accepted
    rfl
  | _ =>
    simp only [datrWrites, Option.some.injEq] at accepted
    subst accepted
    rfl

/-- A published packet fills in the required fields and its optional ones. -/
theorem mem_places_of_reaches (env : Env) {rxpk : Json} (complete : CompleteRxpk rxpk)
    (reaches : reachesPublish rxpk) (place : UplinkField) :
    place ∈ places (uplinkWrites env rxpk) ↔
      place ∈ requiredFields ∨ place ∈ optionalFields rxpk := by
  rw [← isSome_lateWrites, Option.isSome_iff_exists] at reaches
  obtain ⟨late, found⟩ := reaches
  unfold lateWrites at found
  cases read : member rxpk "freq" with
  | float freq =>
    rw [read, Option.map_eq_some_iff] at found
    obtain ⟨writes, accepted, rfl⟩ := found
    simp only [uplinkWrites, earlyWrites, lateWrites, rxInfoWrites, read, accepted,
      Option.map_some, Option.getD_some, List.map_append, List.map_cons, List.map_nil,
      places_copied, places_crcWrites complete, places_datrWrites accepted]
    simp only [requiredFields, optionalFields, optionalMembers, List.flatMap_cons,
      List.flatMap_nil, List.mem_append, List.mem_cons, List.not_mem_nil, List.mem_ite_nil_right,
      or_false]
    -- The same fields, in the order of the source and in that of the list.
    simp only [or_comm, or_left_comm, or_assoc]
  | _ => simp [read] at found

theorem places_of_not_reaches (env : Env) {rxpk : Json} (early : ¬ reachesPublish rxpk) :
    places (uplinkWrites env rxpk) ⊆ requiredFields := by
  rw [← isSome_lateWrites, Option.not_isSome_iff_eq_none] at early
  rw [uplinkWrites, early, Option.getD_none, List.append_nil, earlyWrites]
  cases member rxpk "freq" <;> simp [requiredFields]

/-- An earlier packet leaves something behind in the document of a later one exactly when both
are published and it has an optional field that the later one lacks. -/
theorem places_subset_iff (env : Env) {earlier later : Json} (completeEarlier : CompleteRxpk earlier)
    (completeLater : CompleteRxpk later) (reaches : reachesPublish later) :
    places (uplinkWrites env earlier) ⊆ places (uplinkWrites env later) ↔
      (reachesPublish earlier → optionalFields earlier ⊆ optionalFields later) := by
  have later_iff := mem_places_of_reaches env completeLater reaches
  by_cases early : reachesPublish earlier
  · have earlier_iff := mem_places_of_reaches env completeEarlier early
    simp only [early, forall_const]
    constructor
    · intro covered place optional
      have assigned := covered ((earlier_iff place).mpr (.inr optional))
      exact ((later_iff place).mp assigned).resolve_left (not_required_of_optional earlier optional)
    · intro covered place assigned
      rw [later_iff]
      exact ((earlier_iff place).mp assigned).imp_right fun optional => covered optional
  · -- A packet that is left early fills in required fields only.
    simp only [early, Bool.false_eq_true, false_implies, iff_true]
    intro place assigned
    exact (later_iff place).mpr (.inl (places_of_not_reaches env early assigned))

/-- The one-element array with a packet. -/
def singleton (rxpk : Json) : Json := .obj [("rxpk", .arr [rxpk])]

theorem published_uplink_iff (env : Env) {jsonUp : Json} {packets : List Json}
    (found : jsonUp.get? "rxpk" = some (.arr packets))
    (complete : ∀ rxpk ∈ packets, CompleteRxpk rxpk) :
    published (publishChirpstackFormatUplinkJson env jsonUp).events =
        packets.flatMap (fun rxpk =>
          published (publishChirpstackFormatUplinkJson env (singleton rxpk)).events) ↔
      packets.Pairwise fun earlier later => reachesPublish later →
        places (uplinkWrites env earlier) ⊆ places (uplinkWrites env later) := by
  have alone : packets.flatMap (fun rxpk =>
        published (publishChirpstackFormatUplinkJson env (singleton rxpk)).events) =
      packets.flatMap (fun rxpk => uplinkDocuments env .empty [rxpk]) :=
    List.flatMap_congr fun rxpk inPackets =>
      published_uplink env rfl (by simpa using complete rxpk inPackets)
  rw [published_uplink env found complete, alone]
  refine (uplinkDocuments_iff env [] packets).trans ?_
  simp only [List.map_nil, List.nil_subset, implies_true, true_and, isSome_lateWrites]

/-- The documents published for an array are those published for its packets one by one
exactly when no packet that is published has an optional field that a later published packet
lacks. -/
theorem uplink_isolated_iff (env : Env) (jsonUp : Json) (packets : List Json)
    (found : jsonUp.get? "rxpk" = some (.arr packets))
    (complete : ∀ rxpk ∈ packets, CompleteRxpk rxpk) :
    published (publishChirpstackFormatUplinkJson env jsonUp).events =
        packets.flatMap (fun rxpk =>
          published (publishChirpstackFormatUplinkJson env (singleton rxpk)).events) ↔
      packets.Pairwise fun earlier later => reachesPublish earlier → reachesPublish later →
        optionalFields earlier ⊆ optionalFields later := by
  rw [published_uplink_iff env found complete]
  apply List.Pairwise.iff_of_mem
  intro earlier later inEarlier inLater
  constructor
  · intro covered early late
    exact (places_subset_iff env (complete earlier inEarlier) (complete later inLater) late).mp
      (covered late) early
  · intro covered late
    exact (places_subset_iff env (complete earlier inEarlier) (complete later inLater) late).mpr
      fun early => covered early late

def loraPacket : Json :=
  .obj [("chan", .uint 2), ("codr", .str "4/5"), ("data", .str "aGk="), ("datr", .str "SF7BW125"),
    ("freq", .float 868.1), ("lsnr", .float 9.5), ("modu", .str "LORA"), ("rfch", .uint 0),
    ("rssi", .int (-35)), ("size", .uint 2), ("stat", .uint 1), ("tmst", .uint 3512348611)]

def fskPacket : Json :=
  .obj [("chan", .uint 8), ("data", .str "aGk="), ("datr", .uint 50000), ("freq", .float 868.8),
    ("modu", .str "FSK"), ("rfch", .uint 0), ("rssi", .int (-75)), ("size", .uint 2),
    ("stat", .uint 1), ("tmst", .uint 3512350000)]

theorem loraPacket_complete : CompleteRxpk loraPacket where
  required := by decide
  stat v found := by
    obtain rfl : .uint 1 = v := Option.some.inj found
    exact ⟨1, rfl, by decide⟩

theorem fskPacket_complete : CompleteRxpk fskPacket where
  required := by decide
  stat v found := by
    obtain rfl : .uint 1 = v := Option.some.inj found
    exact ⟨1, rfl, by decide⟩

theorem lora_packets_isolated :
    published (publishChirpstackFormatUplinkJson (sampleEnv fun _ => none)
        (.obj [("rxpk", .arr [loraPacket, loraPacket])])).events =
      [loraPacket, loraPacket].flatMap fun rxpk =>
        published (publishChirpstackFormatUplinkJson (sampleEnv fun _ => none)
          (singleton rxpk)).events :=
  (uplink_isolated_iff _ _ [loraPacket, loraPacket] rfl
    (by simp [loraPacket_complete])).mpr (by simp)

/-- The document of an FSK packet behind a LoRa packet shows the LoRa packet's data rate, code
rate and signal-to-noise ratio. -/
theorem fsk_packet_contaminated :
    published (publishChirpstackFormatUplinkJson (sampleEnv fun _ => none)
        (.obj [("rxpk", .arr [loraPacket, fskPacket])])).events ≠
      [loraPacket, fskPacket].flatMap fun rxpk =>
        published (publishChirpstackFormatUplinkJson (sampleEnv fun _ => none)
          (singleton rxpk)).events := by
  intro isolated
  have covered := (published_uplink_iff _ rfl
    (by simp [loraPacket_complete, fskPacket_complete])).mp isolated
  have left : UplinkField.codeRate ∈ places (uplinkWrites (sampleEnv fun _ => none) fskPacket) :=
    List.rel_of_pairwise_cons covered (by simp) (by decide) (by decide)
  exact absurd left (by decide)

end LorawanFeeds.Bridge
