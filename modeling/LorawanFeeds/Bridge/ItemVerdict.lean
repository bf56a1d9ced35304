import LorawanFeeds.Bridge.Handlers

/-!
# One downlink item

A round of the loop over the network server's items is seen through its outcomes, the entries
of the queue and the exceptions. A round with a single outcome is that of an item whose shape
says so: accepted items are queued as their translation, rejected ones are those with a value
of a wrong type. The error branches of the timing publish an exception and fall through.
-/
namespace LorawanFeeds.Bridge

open Lib

/-! ### Outcomes -/

/-- What the network server sees of an item: an entry of the queue or an exception. -/
inductive Outcome where
  | queued (payload : Bytes)
  | rejected (doc : Json)

def outcome : Action → Option Outcome
  | .push payload => some (.queued payload)
  | .publish .downlinkAck doc =>
    if doc.contains "downlinkException" then some (.rejected doc) else none
  | _ => none

def outcomes (trace : List Action) : List Outcome := trace.filterMap outcome

theorem outcome_access (j : Json) (key : String) : outcome (.access j key) = none := rfl

/-- The document of an exception. -/
def exceptionDoc (env : Env) (text : String) : Json :=
  (exceptionDraft (gatewayId env) env.now text).json

@[simp] theorem observe_exception (env : Env) (text : String) :
    (publishRemoteDownlinkItemsException env text).observe outcome =
      Eff.emit (.rejected (exceptionDoc env text)) := by
  rw [publishRemoteDownlinkItemsException, encodeEui_eq, Eff.pure_bind]
  exact Eff.observe_emit_of_some rfl

/-- Looking up a member, as far as outcomes are concerned. -/
def look (j : Json) (key : String) : Eff Outcome Fault Json :=
  match j.get? key with
  | some v => pure v
  | none => Eff.raise (accessFault j)

@[simp] theorem observe_look (j : Json) (key : String) :
    (access j key).observe outcome = look j key := observe_access outcome outcome_access j key

@[simp] theorem observe_convert {α : Type} (x : Except JsonError α) :
    (convert x).observe outcome = Eff.ofExcept x fun e => .throws (.json e) := by
  cases x <;> rfl

@[simp] theorem observe_copy (draft : TxpkDraft) (place : TxpkField) (source : Json)
    (key : String) : (copyIfPresent draft place source key).observe outcome =
      pure (draft.setAll (copied place source key)) :=
  observe_copyIfPresent outcome outcome_access draft place source key

theorem look_of_get? {j v : Json} {key : String} (found : j.get? key = some v) :
    look j key = pure v := by
  rw [look, found]

/-! ### The shapes of items -/

/-- Reading the member throws because the value is no object, or what follows goes wrong. -/
def Stops (j : Json) (key : String) (P : Json → Prop) : Prop := j.isObject = false ∨ Has j key P

theorem has_judged {j : Json} {key : String} {T : Prop} {P Q : Json → Prop} :
    T ∧ Has j key P ∨ ¬ T ∧ Has j key Q ↔ Has j key fun v => T ∧ P v ∨ ¬ T ∧ Q v := by
  by_cases truth : T <;> simp [truth]

/-- Send at once, or at a time that is given; the source asks for `timestamp` beside `txInfo`
and reads it inside. -/
def UsableTiming (item txInfo timing : Json) : Prop :=
  timing = .str "IMMEDIATELY" ∨
    timing = .str "DELAY" ∧ item.contains "timestamp" ∧ txInfo.contains "timestamp"

def UsableModulation (txInfo modu : Json) : Prop :=
  (modu = .str "LORA" ∧ Has txInfo "modulationInfo" fun info =>
    Has info "bandwidth" fun bw => bw.isArithmetic ∧ Has info "spreadingFactor" fun sf =>
      sf.isArithmetic ∧ info.contains "codeRate" ∧ info.contains "polarizationInversion") ∨
  (modu = .str "FSK" ∧ Has txInfo "modulationInfo" fun info =>
    info.contains "FSKDataRate" ∧ info.contains "FSKFreqDev")

/-- All members that the loop reads are there and of the types it expects. -/
def AcceptedItem (item : Json) : Prop :=
  Has item "phyPayload" fun _ => Has item "phyPayloadSize" fun _ => Has item "txInfo" fun txInfo =>
    Has txInfo "timing" fun timing => UsableTiming item txInfo timing ∧ Has txInfo "power" fun _ =>
      Has txInfo "frequency" fun freq => freq.isArithmetic ∧ Has item "modulation" fun modu =>
        UsableModulation txInfo modu

/-- The modulation is none of the two, or a member of a wrong type is met before a missing
one. -/
def UnusableModulation (txInfo modu : Json) : Prop :=
  (modu ≠ .str "LORA" ∧ modu ≠ .str "FSK") ∨
  (modu = .str "LORA" ∧ Has txInfo "modulationInfo" fun info =>
    Stops info "bandwidth" fun bw => bw.isArithmetic = false ∨
      Has info "spreadingFactor" fun sf => sf.isArithmetic = false) ∨
  (modu = .str "FSK" ∧ Has txInfo "modulationInfo" fun info => info.isObject = false)

/-- The first thing wrong with the item is a value of a wrong type, not a missing member and
not the timing. -/
def RejectedItem (item : Json) : Prop :=
  Stops item "phyPayload" fun _ => Has item "phyPayloadSize" fun _ => Has item "txInfo" fun txInfo =>
    Stops txInfo "timing" fun timing => timing.isString = false ∨
      UsableTiming item txInfo timing ∧ Has txInfo "power" fun _ =>
        Has txInfo "frequency" fun freq => freq.isArithmetic = false ∨
          Has item "modulation" fun modu => UnusableModulation txInfo modu

/-! ### The translation of an item -/

abbrev TxpkWrites := List (TxpkField × Json)

def timingWrites (txInfo : Json) : TxpkWrites :=
  match member txInfo "timing" with
  | .str timing =>
    if timing = "IMMEDIATELY" then [(.imme, .bool true)]
    else [(.imme, .bool false), (.tmst, member txInfo "timestamp")]
  | _ => []

def radioWrites (txInfo : Json) : TxpkWrites :=
  [(.powe, member txInfo "power")] ++
  match (member txInfo "frequency").asFloat with
  | .ok freq => [(.freq, .float (freq / 1000000).toFloat)]
  | .error _ => []

def loraWrites (info : Json) : TxpkWrites :=
  match (member info "bandwidth").asUInt32, (member info "spreadingFactor").asUInt32 with
  | .ok bw, .ok sf =>
    [(.datr, .str (formatDatr sf bw)), (.codr, member info "codeRate"),
      (.ipol, member info "polarizationInversion")]
  | _, _ => []

def fskWrites (info : Json) : TxpkWrites :=
  [(.datr, member info "FSKDataRate"), (.fdev, member info "FSKFreqDev")]

def modulationWrites (item txInfo : Json) : TxpkWrites :=
  match member item "modulation" with
  | .str modu =>
    [(.modu, .str modu), (.rfch, .int 0)] ++
    (if modu = "LORA" then loraWrites else fskWrites) (member txInfo "modulationInfo")
  | _ => []

def txpkWrites (item : Json) : TxpkWrites :=
  let txInfo := member item "txInfo"
  [(.data, member item "phyPayload"), (.size, member item "phyPayloadSize")] ++
  timingWrites txInfo ++ radioWrites txInfo ++ modulationWrites item txInfo ++
  copied TxpkField.prea txInfo "preambleSize" ++ copied TxpkField.ncrc txInfo "noCRC" ++
  copied TxpkField.nhdr txInfo "noHeader"

/-- The `txpk` document of an item. -/
def txpkTranslation (item : Json) : Json := (Draft.empty.setAll (txpkWrites item) : TxpkDraft).json

theorem observe_downlinkTiming (env : Env) (draft : TxpkDraft) {item txInfo timing : Json}
    (info : item.get? "txInfo" = some txInfo) (read : txInfo.get? "timing" = some timing)
    (usable : UsableTiming item txInfo timing) :
    (downlinkTiming env draft item).observe outcome =
      pure (draft.setAll (timingWrites txInfo)) := by
  rw [downlinkTiming, timingWrites, member_of_get? read]
  rcases usable with rfl | ⟨rfl, beside, inside⟩
  · simp [look_of_get? info, look_of_get? read, Json.asString]
  · obtain ⟨timestamp, found⟩ := (Json.contains_eq_true_iff _ _).mp inside
    simp [look_of_get? info, look_of_get? read, Json.asString, beside, look_of_get? found,
      member_of_get? found]

theorem asFloat_ok_iff (j : Json) : (∃ x, j.asFloat = .ok x) ↔ j.isArithmetic :=
  Json.asArithmetic_ok_iff _ _ _ _ j

theorem asUInt32_ok_iff (j : Json) : (∃ n, j.asUInt32 = .ok n) ↔ j.isArithmetic :=
  Json.asArithmetic_ok_iff _ _ _ _ j

theorem observe_downlinkModulation (env : Env) (draft : TxpkDraft) {item txInfo modu : Json}
    (info : item.get? "txInfo" = some txInfo) (read : item.get? "modulation" = some modu)
    (usable : UsableModulation txInfo modu) :
    (downlinkModulation env draft item).observe outcome =
      pure (some (draft.setAll (modulationWrites item txInfo))) := by
  rw [downlinkModulation, modulationWrites, member_of_get? read]
  rcases usable with
    ⟨rfl, inner, foundInner, bw, foundBw, arithmeticBw, sf, foundSf, arithmeticSf, hasCodr, hasIpol⟩ |
    ⟨rfl, inner, foundInner, hasRate, hasDev⟩
  · -- LoRa: both numbers convert, and the other members are there.
    obtain ⟨bandwidth, convertedBw⟩ := (asUInt32_ok_iff _).mpr arithmeticBw
    obtain ⟨factor, convertedSf⟩ := (asUInt32_ok_iff _).mpr arithmeticSf
    obtain ⟨codr, foundCodr⟩ := (Json.contains_eq_true_iff _ _).mp hasCodr
    obtain ⟨ipol, foundIpol⟩ := (Json.contains_eq_true_iff _ _).mp hasIpol
    simp [look_of_get? read, look_of_get? info, look_of_get? foundInner, look_of_get? foundBw,
      look_of_get? foundSf, look_of_get? foundCodr, look_of_get? foundIpol, Json.asString,
      convertedBw, convertedSf, loraWrites, member_of_get? foundInner, member_of_get? foundBw,
      member_of_get? foundSf, member_of_get? foundCodr, member_of_get? foundIpol]
  · -- FSK: the two members are copied as they are.
    obtain ⟨rate, foundRate⟩ := (Json.contains_eq_true_iff _ _).mp hasRate
    obtain ⟨dev, foundDev⟩ := (Json.contains_eq_true_iff _ _).mp hasDev
    simp [look_of_get? read, look_of_get? info, look_of_get? foundInner, look_of_get? foundRate,
      look_of_get? foundDev, Json.asString, fskWrites, member_of_get? foundInner,
      member_of_get? foundRate, member_of_get? foundDev]

/-- An accepted item is queued once, as its translation. -/
theorem observe_accepted (env : Env) {item : Json} (accepted : AcceptedItem item) :
    (downlinkItem env item).observe outcome =
      ⟨[.queued (env.dump (txpkTranslation item))], .ok true⟩ := by
  obtain ⟨data, foundData, size, foundSize, txInfo, foundInfo, timing, foundTiming, usableTiming,
    power, foundPower, freq, foundFreq, arithmetic, modu, foundModu, usableModu⟩ := accepted
  obtain ⟨frequency, converted⟩ := (asFloat_ok_iff _).mpr arithmetic
  simp only [downlinkItem, Eff.observe_bind, observe_look, look_of_get? foundData,
    look_of_get? foundSize, look_of_get? foundInfo, look_of_get? foundPower,
    look_of_get? foundFreq, Eff.pure_bind, observe_convert, converted, Eff.ofExcept_ok,
    observe_downlinkTiming env _ foundInfo foundTiming usableTiming,
    observe_downlinkModulation env _ foundInfo foundModu usableModu, observe_copy]
  simp only [txpkTranslation, txpkWrites, radioWrites, member_of_get? foundData,
    member_of_get? foundSize, member_of_get? foundInfo, member_of_get? foundPower,
    member_of_get? foundFreq, converted, Draft.setAll_append]
  rfl

/-! ### The verdict on an item -/

abbrev Round := Eff Outcome Fault Bool

/-- A round that returns ends with an entry of the queue if the loop goes on, and with an
exception if it does not. -/
def Concludes (round : Round) : Prop :=
  (round.result = .ok true → ∃ before payload, round.events = before ++ [.queued payload]) ∧
    (round.result = .ok false → ∃ before doc, round.events = before ++ [.rejected doc])

theorem concludes_bind {α : Type} (x : Eff Outcome Fault α) (f : α → Round)
    (after : ∀ a, Concludes (f a)) : Concludes (x >>= f) := by
  cases returned : x.result with
  | error fault =>
    -- A fault in the first part: the round does not return.
    have stopped : (x >>= f).result = .error fault := by
      change (Eff.bind x f).result = _
      simp [Eff.bind, returned]
    simp [Concludes, stopped]
  | ok a =>
    rw [Eff.bind_of_ok returned]
    constructor
    · intro goesOn
      obtain ⟨before, payload, ends⟩ := (after a).1 goesOn
      exact ⟨x.events ++ before, payload, by simp [ends]⟩
    · intro stops
      obtain ⟨before, doc, ends⟩ := (after a).2 stops
      exact ⟨x.events ++ before, doc, by simp [ends]⟩

/-- A verdict on a round: it is `T` on rounds that reject once, `¬ T` on rounds that queue
once, and negative on all others. -/
structure Judges (G : Round → Prop) (T : Prop) : Prop where
  throws : ∀ e, G (Eff.raise (.throws (.json e))) ↔ T
  rejected : ∀ doc, G ⟨[.rejected doc], .ok false⟩ ↔ T
  queued : ∀ payload, G ⟨[.queued payload], .ok true⟩ ↔ ¬ T
  undefined : ¬ G (Eff.raise .undefined)
  twice : ∀ doc f, Concludes (f ()) → ¬ G (Eff.emit (.rejected doc) >>= f)

def QueuesOnce (round : Round) : Prop := ∃ payload, round = ⟨[.queued payload], .ok true⟩

def RejectsOnce (round : Round) : Prop :=
  (∃ e, round = Eff.raise (.throws (.json e))) ∨ ∃ doc, round = ⟨[.rejected doc], .ok false⟩

theorem judges_queuesOnce : Judges QueuesOnce False where
  throws e := by simp [QueuesOnce, Eff.raise]
  rejected doc := by simp [QueuesOnce]
  queued payload := by simp [QueuesOnce]
  undefined := by simp [QueuesOnce, Eff.raise]
  twice doc f _ := by simp [QueuesOnce, Eff.emit_bind]

theorem judges_rejectsOnce : Judges RejectsOnce True where
  throws e := by simp [RejectsOnce, Eff.raise]
  rejected doc := by simp [RejectsOnce]
  queued payload := by simp [RejectsOnce, Eff.raise]
  undefined := by simp [RejectsOnce, Eff.raise]
  twice doc f concludes := by
    rw [Eff.emit_bind]
    rintro (⟨e, same⟩ | ⟨other, same⟩)
    · simp [Eff.raise] at same
    · simp only [Eff.mk.injEq, List.cons.injEq] at same
      -- The round ends with an exception of its own, so that there are two.
      obtain ⟨before, last, ends⟩ := concludes.2 same.2
      simp [same.1.2] at ends

section Judge

variable {G : Round → Prop} {T : Prop} (judges : Judges G T)

include judges

theorem judge_look (j : Json) (key : String) (f : Json → Round) :
    G (look j key >>= f) ↔ T ∧ j.isObject = false ∨ Has j key fun v => G (f v) := by
  cases found : j.get? key with
  | some v =>
    have object := Json.isObject_of_get? found
    simp [look_of_get? found, Has, found, object]
  | none =>
    -- Missing from an object is undefined, missing from anything else throws.
    rw [look, found]
    cases object : j.isObject with
    | true => simp [Has, found, accessFault, object, judges.undefined]
    | false => simp [Has, found, accessFault, object, judges.throws]

theorem judge_look_object {j : Json} (object : j.isObject) (key : String) (f : Json → Round) :
    G (look j key >>= f) ↔ Has j key fun v => G (f v) := by
  simp [judge_look judges, object]

/-- A conversion that accepts the values marked by `fits`, before a part whose verdict does not
depend on the result. -/
theorem judge_convert {α : Type} {x : Except JsonError α} {fits : Bool}
    (converts : (∃ a, x = .ok a) ↔ fits) {f : α → Round} {C : Prop} (after : ∀ a, G (f a) ↔ C) :
    G (Eff.ofExcept x (fun e => .throws (.json e)) >>= f) ↔
      T ∧ fits = false ∨ fits = true ∧ C := by
  rw [← Bool.not_eq_true, ← converts]
  cases x with
  | ok a => simp [after]
  | error e => simp [judges.throws]

/-- An unusable timing publishes and falls through, or reads a missing timestamp. -/
theorem judge_unusable (env : Env) (draft : TxpkDraft) {item txInfo timing : Json}
    (info : item.get? "txInfo" = some txInfo) (read : txInfo.get? "timing" = some timing)
    (text : timing.isString) (unusable : ¬ UsableTiming item txInfo timing)
    (f : TxpkDraft → Round) (concludes : ∀ draft, Concludes (f draft)) :
    ¬ G ((downlinkTiming env draft item).observe outcome >>= f) := by
  have object := Json.isObject_of_get? read
  cases timing with
  | str timing =>
    simp only [UsableTiming, Json.str.injEq, not_or, not_and] at unusable
    obtain ⟨notNow, notLater⟩ := unusable
    simp only [downlinkTiming, Eff.observe_bind, observe_look, look_of_get? info,
      look_of_get? read, Eff.pure_bind, observe_convert, Json.asString, Eff.ofExcept_ok,
      if_neg notNow]
    by_cases later : timing = "DELAY"
    · by_cases beside : item.contains "timestamp"
      · -- There is a timestamp beside `txInfo`, but the one inside is read.
        have missing : txInfo.get? "timestamp" = none := by
          simpa [Json.contains] using notLater later beside
        have absent : look txInfo "timestamp" = Eff.raise .undefined := by
          simp [look, missing, accessFault, object]
        simp [later, beside, look_of_get? info, absent, judges.undefined]
      · -- An exception is published and the round goes on to another outcome.
        simpa [later, beside, Eff.bind_assoc] using judges.twice _ _ (concludes _)
    · simpa [later, Eff.bind_assoc] using judges.twice _ _ (concludes _)
  | _ => simp [Json.isString] at text

theorem judge_downlinkTiming (env : Env) (draft : TxpkDraft) {item txInfo : Json}
    (info : item.get? "txInfo" = some txInfo) (f : TxpkDraft → Round)
    (concludes : ∀ draft, Concludes (f draft)) :
    G ((downlinkTiming env draft item).observe outcome >>= f) ↔
      T ∧ (Stops txInfo "timing" fun timing => timing.isString = false) ∨
        Has txInfo "timing" fun timing => UsableTiming item txInfo timing ∧
          G (f (draft.setAll (timingWrites txInfo))) := by
  cases read : txInfo.get? "timing" with
  | none =>
    simp only [downlinkTiming, Eff.observe_bind, observe_look, look_of_get? info, Eff.pure_bind,
      Eff.bind_assoc, judge_look judges, Stops, Has, read, reduceCtorEq, false_and, exists_false,
      or_false]
  | some timing =>
    have object := Json.isObject_of_get? read
    by_cases text : timing.isString
    · by_cases usable : UsableTiming item txInfo timing
      · simp [observe_downlinkTiming env draft info read usable, Stops, Has, read, object, text,
          usable]
      · simp [judge_unusable judges env draft info read text usable f concludes, Stops, Has, read,
          object, text, usable]
    · -- A timing that is no text throws.
      obtain ⟨e, wrong⟩ : ∃ e, timing.asString = .error e := by
        cases timing <;> simp_all [Json.isString, Json.asString]
      have unusable : ¬ UsableTiming item txInfo timing := by
        rintro (rfl | ⟨rfl, _⟩) <;> simp [Json.isString] at text
      simp [downlinkTiming, look_of_get? info, look_of_get? read, wrong, judges.throws, Stops, Has,
        read, text, unusable]

/-- What is left of a round once the modulation is known. -/
def downlinkFinish (env : Env) (txInfo : Json) : Option TxpkDraft → Handler Bool
  | none => pure false
  | some draft => do
    let draft ← copyIfPresent draft .prea txInfo "preambleSize"
    let draft ← copyIfPresent draft .ncrc txInfo "noCRC"
    let draft ← copyIfPresent draft .nhdr txInfo "noHeader"
    Eff.emit (.push (env.dump draft.json))
    pure true

omit judges in
theorem observe_downlinkFinish (env : Env) (txInfo : Json) (draft : TxpkDraft) :
    ∃ payload, (downlinkFinish env txInfo (some draft)).observe outcome =
      ⟨[.queued payload], .ok true⟩ := by
  simp only [downlinkFinish, Eff.observe_bind, observe_copy, Eff.pure_bind]
  exact ⟨_, rfl⟩

theorem judge_downlinkFinish (env : Env) (txInfo : Json) (draft : TxpkDraft) :
    G ((downlinkFinish env txInfo (some draft)).observe outcome) ↔ ¬ T := by
  obtain ⟨payload, queued⟩ := observe_downlinkFinish env txInfo draft
  rw [queued, judges.queued]

theorem judge_lora (env : Env) (draft : TxpkDraft) {item txInfo : Json}
    (info : item.get? "txInfo" = some txInfo) (object : txInfo.isObject)
    (read : item.get? "modulation" = some (.str "LORA")) :
    G ((downlinkModulation env draft item).observe outcome >>=
        fun found => (downlinkFinish env txInfo found).observe outcome) ↔
      T ∧ UnusableModulation txInfo (.str "LORA") ∨ ¬ T ∧ UsableModulation txInfo (.str "LORA") := by
  have unusable : UnusableModulation txInfo (.str "LORA") ↔
      Has txInfo "modulationInfo" fun info => Stops info "bandwidth" fun bw =>
        bw.isArithmetic = false ∨ Has info "spreadingFactor" fun sf =>
          sf.isArithmetic = false := by simp [UnusableModulation]
  have usable : UsableModulation txInfo (.str "LORA") ↔
      Has txInfo "modulationInfo" fun info => Has info "bandwidth" fun bw =>
        bw.isArithmetic ∧ Has info "spreadingFactor" fun sf => sf.isArithmetic ∧
          info.contains "codeRate" ∧ info.contains "polarizationInversion" := by
    simp [UsableModulation]
  simp only [downlinkModulation, look_of_get? read, Json.asString, observe_convert,
    Eff.observe_bind, Eff.ofExcept_ok, Eff.pure_bind, if_true, observe_look, look_of_get? info,
    Eff.bind_assoc, judge_look_object judges object, unusable, usable, has_judged]
  apply has_congr
  intro inner
  cases scalar : inner.isObject with
  | false => simp [judge_look judges, scalar, not_has scalar, Stops]
  | true =>
    simp only [judge_look_object judges scalar, Stops, scalar, Bool.true_eq_false, false_or,
      has_judged]
    apply has_congr
    intro bw
    -- The bandwidth is converted before the spreading factor is looked for.
    rw [judge_convert judges (asUInt32_ok_iff bw) (C := Has inner "spreadingFactor" fun sf =>
      T ∧ sf.isArithmetic = false ∨ sf.isArithmetic = true ∧ inner.contains "codeRate" ∧
        inner.contains "polarizationInversion" ∧ ¬ T)]
    · by_cases truth : T <;> cases bw.isArithmetic <;> simp [truth]
    · intro bandwidth
      rw [judge_look_object judges scalar]
      refine has_congr fun sf => judge_convert judges (asUInt32_ok_iff sf) fun factor => ?_
      simp only [judge_look_object judges scalar, Eff.observe_pure, Eff.pure_bind,
        judge_downlinkFinish judges, has_const]

theorem judge_fsk (env : Env) (draft : TxpkDraft) {item txInfo : Json}
    (info : item.get? "txInfo" = some txInfo) (object : txInfo.isObject)
    (read : item.get? "modulation" = some (.str "FSK")) :
    G ((downlinkModulation env draft item).observe outcome >>=
        fun found => (downlinkFinish env txInfo found).observe outcome) ↔
      T ∧ UnusableModulation txInfo (.str "FSK") ∨ ¬ T ∧ UsableModulation txInfo (.str "FSK") := by
  have unusable : UnusableModulation txInfo (.str "FSK") ↔
      Has txInfo "modulationInfo" fun info => info.isObject = false := by
    simp [UnusableModulation]
  have usable : UsableModulation txInfo (.str "FSK") ↔
      Has txInfo "modulationInfo" fun info =>
        info.contains "FSKDataRate" ∧ info.contains "FSKFreqDev" := by
    simp [UsableModulation]
  have noLora : ("FSK" : String) ≠ "LORA" := by decide
  simp only [downlinkModulation, look_of_get? read, Json.asString, observe_convert,
    Eff.observe_bind, Eff.ofExcept_ok, Eff.pure_bind, if_neg noLora, if_true, observe_look,
    look_of_get? info, Eff.bind_assoc, judge_look_object judges object, unusable, usable,
    has_judged]
  apply has_congr
  intro inner
  cases scalar : inner.isObject with
  | false => simp [judge_look judges, scalar, not_has scalar, not_contains scalar]
  | true =>
    simp only [judge_look_object judges scalar, Eff.observe_pure, Eff.pure_bind,
      judge_downlinkFinish judges, has_const, Bool.true_eq_false, and_false, false_or]
    tauto

theorem judge_downlinkModulation (env : Env) (draft : TxpkDraft) {item txInfo : Json}
    (info : item.get? "txInfo" = some txInfo) (object : txInfo.isObject) :
    G ((downlinkModulation env draft item).observe outcome >>=
        fun found => (downlinkFinish env txInfo found).observe outcome) ↔
      Has item "modulation" fun modu =>
        T ∧ UnusableModulation txInfo modu ∨ ¬ T ∧ UsableModulation txInfo modu := by
  cases read : item.get? "modulation" with
  | none =>
    simp only [downlinkModulation, Eff.observe_bind, observe_look, Eff.bind_assoc,
      judge_look_object judges (Json.isObject_of_get? info), Has, read, reduceCtorEq, false_and,
      exists_false]
  | some modu =>
    simp only [Has, read, Option.some.injEq, exists_eq_left']
    cases modu with
    | str modu =>
      by_cases lora : modu = "LORA"
      · subst lora
        exact judge_lora judges env draft info object read
      · by_cases fsk : modu = "FSK"
        · subst fsk
          exact judge_fsk judges env draft info object read
        · -- Any other text publishes an exception and ends the loop.
          have unusable : UnusableModulation txInfo (.str modu) := by
            simp [UnusableModulation, lora, fsk]
          have usable : ¬ UsableModulation txInfo (.str modu) := by
            simp [UsableModulation, lora, fsk]
          simp only [downlinkModulation, observe_look, look_of_get? read, Json.asString,
            observe_convert, Eff.observe_bind, Eff.ofExcept_ok, Eff.pure_bind, if_neg lora,
            if_neg fsk, observe_exception, unusable, usable, and_true, and_false, or_false]
          exact judges.rejected _
    | _ =>
      simp [downlinkModulation, look_of_get? read, Json.asString, judges.throws,
        UnusableModulation, UsableModulation]

/-- The part of a round behind the timing. -/
def downlinkRest (env : Env) (item : Json) (draft : TxpkDraft) : Handler Bool := do
  let txInfo ← access item "txInfo"
  let draft := draft.set .powe (← access txInfo "power")
  let freq ← convert (← access txInfo "frequency").asFloat
  let draft := draft.set .freq (.float (freq / 1000000).toFloat)
  downlinkFinish env txInfo (← downlinkModulation env draft item)

omit judges in
theorem downlinkItem_eq (env : Env) (item : Json) :
    downlinkItem env item = (do
      let draft : TxpkDraft := .empty
      let draft := draft.set .data (← access item "phyPayload")
      let draft := draft.set .size (← access item "phyPayloadSize")
      downlinkRest env item (← downlinkTiming env draft item)) := by
  rfl

theorem judge_downlinkRest (env : Env) {item txInfo : Json} (draft : TxpkDraft)
    (info : item.get? "txInfo" = some txInfo) (object : txInfo.isObject) :
    G ((downlinkRest env item draft).observe outcome) ↔
      Has txInfo "power" fun _ => Has txInfo "frequency" fun freq =>
        T ∧ freq.isArithmetic = false ∨ freq.isArithmetic = true ∧ Has item "modulation" fun modu =>
          T ∧ UnusableModulation txInfo modu ∨ ¬ T ∧ UsableModulation txInfo modu := by
  simp only [downlinkRest, Eff.observe_bind, observe_look, look_of_get? info, Eff.pure_bind,
    judge_look_object judges object, observe_convert]
  refine has_congr fun _ => has_congr fun freq => judge_convert judges (asFloat_ok_iff freq) ?_
  exact fun _ => judge_downlinkModulation judges env _ info object

omit judges in
theorem concludes_downlinkRest (env : Env) (item : Json) (draft : TxpkDraft) :
    Concludes ((downlinkRest env item draft).observe outcome) := by
  have finish (txInfo : Json) (draft : TxpkDraft) :
      Concludes ((downlinkFinish env txInfo (some draft)).observe outcome) := by
    obtain ⟨payload, queued⟩ := observe_downlinkFinish env txInfo draft
    rw [queued]
    exact ⟨fun _ => ⟨[], payload, rfl⟩, by simp⟩
  have stopped (doc : Json) : Concludes ⟨[.rejected doc], .ok false⟩ :=
    ⟨by simp, fun _ => ⟨[], doc, rfl⟩⟩
  simp only [downlinkRest, Eff.observe_bind]
  refine concludes_bind _ _ fun txInfo => concludes_bind _ _ fun _ => concludes_bind _ _ fun _ =>
    concludes_bind _ _ fun _ => ?_
  simp only [downlinkModulation, Eff.observe_bind, Eff.bind_assoc]
  -- LoRa and FSK end with the queue, anything else with an exception.
  refine concludes_bind _ _ fun _ => concludes_bind _ _ fun modu => ?_
  split
  · simp only [Eff.observe_bind, Eff.bind_assoc, Eff.observe_pure, Eff.pure_bind]
    refine concludes_bind _ _ fun _ => concludes_bind _ _ fun _ => concludes_bind _ _ fun _ =>
      concludes_bind _ _ fun _ => concludes_bind _ _ fun _ => concludes_bind _ _ fun _ =>
        concludes_bind _ _ fun _ => concludes_bind _ _ fun _ => finish _ _
  · split
    · simp only [Eff.observe_bind, Eff.bind_assoc, Eff.observe_pure, Eff.pure_bind]
      refine concludes_bind _ _ fun _ => concludes_bind _ _ fun _ => concludes_bind _ _ fun _ =>
        concludes_bind _ _ fun _ => finish _ _
    · simp only [Eff.observe_bind, observe_exception]
      exact stopped _

/-- The verdict on a whole round depends on the shape of the item alone. -/
theorem judge_downlinkItem (env : Env) (item : Json) :
    G ((downlinkItem env item).observe outcome) ↔
      T ∧ RejectedItem item ∨ ¬ T ∧ AcceptedItem item := by
  cases object : item.isObject with
  | false =>
    simp [downlinkItem_eq, judge_look judges, object, not_has object, RejectedItem, AcceptedItem,
      Stops]
  | true =>
    simp only [downlinkItem_eq, Eff.observe_bind, observe_look, judge_look_object judges object,
      RejectedItem, AcceptedItem, Stops, object, Bool.true_eq_false, false_or, has_judged]
    refine has_congr fun data => has_congr fun size => ?_
    cases info : item.get? "txInfo" with
    | none =>
      simp only [downlinkTiming, Eff.observe_bind, Eff.bind_assoc, observe_look,
        judge_look_object judges object, Has, info, reduceCtorEq, false_and, exists_false]
    | some txInfo =>
      rw [judge_downlinkTiming judges env _ info _ (concludes_downlinkRest env item)]
      -- Behind a timing that was read, `txInfo` is known to be an object.
      cases read : txInfo.get? "timing" with
      | none => simp [Has, Stops, info, read]
      | some timing =>
        have inner := Json.isObject_of_get? read
        rw [judge_downlinkRest judges env _ info inner]
        by_cases truth : T
        · have skip (b : Bool) (q : Prop) : b = false ∨ b = true ∧ q ↔ b = false ∨ q := by
            cases b <;> simp
          simp [truth, Has, Stops, info, read, inner, skip]
        · simp [truth, Has, Stops, info, read]

end Judge

theorem queuesOnce_iff (env : Env) (item : Json) :
    QueuesOnce ((downlinkItem env item).observe outcome) ↔ AcceptedItem item := by
  simp [judge_downlinkItem judges_queuesOnce]

theorem rejectsOnce_iff (env : Env) (item : Json) :
    RejectsOnce ((downlinkItem env item).observe outcome) ↔ RejectedItem item := by
  simp [judge_downlinkItem judges_rejectsOnce]

theorem concludes_downlinkItem (env : Env) (item : Json) :
    Concludes ((downlinkItem env item).observe outcome) := by
  simp only [downlinkItem_eq, Eff.observe_bind]
  exact concludes_bind _ _ fun _ => concludes_bind _ _ fun _ => concludes_bind _ _ fun _ =>
    concludes_downlinkRest env item _

end LorawanFeeds.Bridge
