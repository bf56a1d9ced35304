import LorawanFeeds.Bridge.DownlinkEntry
import LorawanFeeds.Bridge.Robustness
import LorawanFeeds.Bridge.UplinkIsolation

/-!
# The echo of a downlink

What the bridge publishes for an entry of its queue, against the item that the entry was made of. All
values are copied; only the data rate is taken apart again.
-/
namespace LorawanFeeds.Bridge

open Lib

/-! ### The published document -/

theorem mem_events_iff {α : Type} (run : Handler α) (topic : Topic) (doc : Json) :
    .publish topic doc ∈ run.events ↔ (topic, doc) ∈ (run.observe publication).events := by
  rw [Eff.events_observe, List.mem_filterMap]
  constructor
  · intro member
    exact ⟨_, member, rfl⟩
  · rintro ⟨a, member, seen⟩
    cases a with
    | publish t d =>
      cases seen
      exact member
    | _ => cases seen

/-- The document before the data rate. -/
def echoBase (id : String) (size data power modu : Json) (freq : Float) : EchoDraft :=
  (((((Draft.empty.set .gatewayID (.str id)).set .phyPayloadSize size).set .phyPayload data).set
    .frequency (.uint (freq * 1000000).toUInt64)).set .power power).set .modulation modu

/-- The document behind the data rate, up to the timing. -/
def echoOptions (draft : EchoDraft) (txpk : Json) : EchoDraft :=
  ((draft.setAll (copied .fskFreqDev txpk "fdev")).setAll (copied .codeRate txpk "codr")).setAll
    (copied .polarizationInversion txpk "ipol")

def echoTiming (draft : EchoDraft) : Json → EchoDraft
  | .bool imme => draft.set .timing (.str (if imme then "IMMEDIATELY" else "DELAY"))
  | _ => draft

/-- The echo of an entry, as far as it can be seen. -/
def echoRun (env : Env) (txpk size data freq power modu datr : Json) : Eff (Topic × Json) Fault Unit :=
  match freq.asDouble with
  | .error e => Eff.raise (.throws (.json e))
  | .ok x =>
    match echoDatr (echoBase (gatewayId env) size data power modu x) datr with
    | none => pure ()
    | some draft =>
      match txpk.get? "imme" with
      | none => Eff.raise (accessFault txpk)
      | some imme => Eff.emit (.downlink, (echoTiming (echoOptions draft txpk) imme).json)

theorem observe_echo (env : Env) {downlink txpk size data freq power modu datr : Json}
    (entry : downlink.get? "txpk" = some txpk) (hasSize : txpk.get? "size" = some size)
    (hasData : txpk.get? "data" = some data) (hasFreq : txpk.get? "freq" = some freq)
    (hasPower : txpk.get? "powe" = some power) (hasModu : txpk.get? "modu" = some modu)
    (hasDatr : txpk.get? "datr" = some datr) :
    (publishChirpstackFormatDownlinkJson env downlink).observe publication =
      echoRun env txpk size data freq power modu datr := by
  have hidden (j : Json) (key : String) : publication (.access j key) = none := rfl
  have read {j v : Json} {key : String} (found : j.get? key = some v) :
      (access j key).observe publication = pure v := by
    rw [observe_access publication hidden, found]
  simp only [publishChirpstackFormatDownlinkJson, encodeEui_eq, Eff.pure_bind, Eff.observe_bind,
    read entry, read hasSize, read hasData, read hasFreq, read hasPower, read hasModu, read hasDatr]
  rw [echoRun]
  cases freq.asDouble with
  | error e => rfl
  | ok x =>
    have converted : (convert (.ok x : Except JsonError Float)).observe publication = pure x := rfl
    simp only [converted, Eff.pure_bind, echoBase]
    generalize echoDatr _ datr = echo
    cases echo with
    | none => rfl
    | some draft =>
      simp only [Eff.observe_bind, observe_copyIfPresent publication hidden, Eff.pure_bind,
        observe_access publication hidden]
      cases txpk.get? "imme" with
      | none => rfl
      | some imme => cases imme <;> rfl

theorem get?_copied_self {F : Type} [DecidableEq F] {S : Schema F} {draft : Draft S} {place : F}
    (fresh : draft.get? place = none) (source : Json) (key : String) :
    (draft.setAll (copied place source key)).get? place = source.get? key := by
  rw [copied]
  cases found : source.get? key with
  | none => simp [Json.contains, found, fresh]
  | some v => simp [Json.contains, found, member_of_get? found]

theorem get?_copied_of_ne {F : Type} [DecidableEq F] {S : Schema F} (draft : Draft S) {place other : F}
    (different : other ≠ place) (source : Json) (key : String) :
    (draft.setAll (copied place source key)).get? other = draft.get? other := by
  rw [copied]
  split
  · simp [Draft.get?_set_of_ne _ different]
  · rfl

theorem get?_echoOptions (draft : EchoDraft) (txpk : Json) {place : EchoField}
    (other : place ∉ [EchoField.fskFreqDev, .codeRate, .polarizationInversion]) :
    (echoOptions draft txpk).get? place = draft.get? place := by
  simp only [List.mem_cons, List.not_mem_nil, or_false, not_or] at other
  rw [echoOptions, get?_copied_of_ne _ other.2.2, get?_copied_of_ne _ other.2.1,
    get?_copied_of_ne _ other.1]

theorem get?_echoTiming (draft : EchoDraft) (imme : Json) {place : EchoField}
    (other : place ≠ .timing) : (echoTiming draft imme).get? place = draft.get? place := by
  cases imme <;> first | rfl | exact Draft.get?_set_of_ne _ other _

/-- The document has the values of the item. -/
structure Reproduces (item doc : Json) : Prop where
  phyPayload : doc.lookup ["phyPayload"] = item.lookup ["phyPayload"]
  phyPayloadSize : doc.lookup ["phyPayloadSize"] = item.lookup ["phyPayloadSize"]
  power : doc.lookup ["txInfo", "power"] = item.lookup ["txInfo", "power"]
  modulation : doc.lookup ["modulation"] = item.lookup ["modulation"]
  timing : doc.lookup ["timing"] = item.lookup ["txInfo", "timing"]
  lora : item.lookup ["modulation"] = some (.str "LORA") →
    ∀ name ∈ ["bandwidth", "spreadingFactor", "codeRate", "polarizationInversion"],
      doc.lookup ["txInfo", "modulationInfo", name] = item.lookup ["txInfo", "modulationInfo", name]
  fsk : item.lookup ["modulation"] = some (.str "FSK") →
    ∀ name ∈ ["FSKDataRate", "FSKFreqDev"],
      doc.lookup ["txInfo", "modulationInfo", name] = item.lookup ["txInfo", "modulationInfo", name]

/-- The echo has a meaning, and what it publishes are the values of the item. -/
def Echoes (env : Env) (item downlink : Json) : Prop :=
  let run := publishChirpstackFormatDownlinkJson env downlink
  run.result ≠ .error .undefined ∧
    ∀ topic doc, .publish topic doc ∈ run.events → topic = .downlink ∧ Reproduces item doc

/-- The text of an entry, read again: the values of the item come back as they were, the number 0 of
`rfch` as an unsigned one, and the frequency in some way. -/
structure RereadAs (doc downlink : Json) : Prop where
  same : ∀ key, key ≠ "rfch" → key ≠ "freq" →
    downlink.lookup ["txpk", key] = doc.lookup ["txpk", key]
  freq : (downlink.lookup ["txpk", "freq"]).isSome = (doc.lookup ["txpk", "freq"]).isSome

/-- The item says when it is to be sent in one of the two words. -/
def KnownTiming (item : Json) : Prop :=
  item.lookup ["txInfo", "timing"] = some (.str "IMMEDIATELY") ∨
    item.lookup ["txInfo", "timing"] = some (.str "DELAY")

/-- The bandwidth of a LoRa item has up to three digits, or its spreading factor more than two; the
rate of an FSK item is a number, or a text that is no data rate. -/
def EchoExact (item : Json) : Prop :=
  (item.lookup ["modulation"] = some (.str "LORA") → ∃ bw sf : UInt32,
    item.lookup ["txInfo", "modulationInfo", "bandwidth"] = some (.uint bw.toUInt64) ∧
    item.lookup ["txInfo", "modulationInfo", "spreadingFactor"] = some (.uint sf.toUInt64) ∧
    (100 ≤ sf.toNat ∨ bw.toNat < 1000 ∧ KnownTiming item)) ∧
  (item.lookup ["modulation"] = some (.str "FSK") → ∃ rate,
    item.lookup ["txInfo", "modulationInfo", "FSKDataRate"] = some rate ∧
    (rate.isNumber = true ∧ KnownTiming item ∨
      ∃ text, rate = .str text ∧ parseUplinkDatr text = none))

/-- An echo is judged by what can be seen of it. -/
theorem echoes_iff (env : Env) (item downlink : Json) {run : Eff (Topic × Json) Fault Unit}
    (seen : (publishChirpstackFormatDownlinkJson env downlink).observe publication = run) :
    Echoes env item downlink ↔ run.result ≠ .error .undefined ∧
      ∀ topic doc, (topic, doc) ∈ run.events → topic = .downlink ∧ Reproduces item doc := by
  subst seen
  simp only [Echoes, mem_events_iff, Eff.result_observe]

theorem knownTiming_iff {item : Json} {timing : String}
    (isTiming : item.lookup ["txInfo", "timing"] = some (.str timing)) :
    KnownTiming item ↔ ∃ imme, immeOf timing = some (.bool imme) ∧
      timing = if imme then "IMMEDIATELY" else "DELAY" := by
  simp only [KnownTiming, isTiming, Option.some.injEq, Json.str.injEq]
  constructor
  · rintro (rfl | rfl)
    · exact ⟨true, rfl, rfl⟩
    · exact ⟨false, by simp [immeOf], rfl⟩
  · rintro ⟨imme, _, same⟩
    cases imme
    · exact .inr same
    · exact .inl same

theorem immeOf_eq_none {item : Json} {timing : String}
    (isTiming : item.lookup ["txInfo", "timing"] = some (.str timing))
    (unknown : ¬ KnownTiming item) : immeOf timing = none := by
  simp only [KnownTiming, isTiming, Option.some.injEq, Json.str.injEq, not_or] at unknown
  simp [immeOf, unknown]

/-- The entry as the echo reads it. -/
theorem RereadAs.txpk {draft : TxpkDraft} {downlink : Json} (reread : RereadAs draft.json downlink)
    (filled : (draft.get? .size).isSome = true) (timed : (draft.get? .freq).isSome = true) :
    ∃ txpk freq, downlink.get? "txpk" = some txpk ∧ txpk.get? "freq" = some freq ∧
      downlink.lookup ["txpk", "freq"] = some freq ∧
      ∀ key, key ≠ "rfch" → key ≠ "freq" → txpk.get? key = draft.json.lookup ["txpk", key] := by
  have size := reread.same "size" (by decide) (by decide)
  cases there : downlink.get? "txpk" with
  | none =>
    rw [show draft.json.lookup ["txpk", "size"] = draft.get? .size from rfl, Json.lookup, there] at size
    rw [← size] at filled
    cases filled
  | some txpk =>
    have inside (key : String) : downlink.lookup ["txpk", key] = txpk.get? key := by
      cases found : txpk.get? key <;> simp [Json.lookup, there, found]
    have freq := reread.freq
    rw [show draft.json.lookup ["txpk", "freq"] = draft.get? .freq from rfl, timed,
      Option.isSome_iff_exists] at freq
    obtain ⟨x, found⟩ := freq
    refine ⟨txpk, x, rfl, (inside "freq").symm.trans found, found, fun key notChain notFreq => ?_⟩
    rw [← inside, reread.same key notChain notFreq]

/-- What the draft of an echo has behind the data rate. -/
structure Rated (id : String) (size data power modu : Json) (freq : Float) (draft : EchoDraft) :
    Prop where
  base : ∀ place ∈ [EchoField.phyPayloadSize, .phyPayload, .power, .modulation, .timing, .fskFreqDev,
    .codeRate, .polarizationInversion],
      draft.get? place = (echoBase id size data power modu freq).get? place

/-- The data rate is text that parses, or a number, or neither of the two. -/
theorem echoDatr_eq_some {draft draft' : EchoDraft} {datr : Json}
    (parsed : echoDatr draft datr = some draft') :
    (∃ text dr bw, datr = .str text ∧ parseUplinkDatr text = some (dr, bw) ∧
      draft' = (draft.set .bandwidth (.uint bw.toUInt64)).set .spreadingFactor (.uint dr.toUInt64)) ∨
    (datr.isNumber = true ∧ draft' = draft.set .fskDataRate datr) ∨
    (datr.isNumber = false ∧ (∀ text, datr ≠ .str text) ∧ draft' = draft) := by
  cases datr with
  | str text =>
    obtain ⟨⟨dr, bw⟩, found, rfl⟩ := Option.map_eq_some_iff.mp parsed
    exact .inl ⟨text, dr, bw, rfl, found, rfl⟩
  | int | uint | float => exact .inr (.inl ⟨rfl, (Option.some.inj parsed).symm⟩)
  | _ => exact .inr (.inr ⟨rfl, by simp, (Option.some.inj parsed).symm⟩)

theorem rated_of_echoDatr {id : String} {size data power modu datr : Json} {freq : Float}
    {draft : EchoDraft} (parsed : echoDatr (echoBase id size data power modu freq) datr = some draft) :
    Rated id size data power modu freq draft := by
  constructor
  intro place member
  have other : place ≠ .bandwidth ∧ place ≠ .spreadingFactor ∧ place ≠ .fskDataRate := by
    simp only [List.mem_cons, List.not_mem_nil, or_false] at member
    rcases member with rfl | rfl | rfl | rfl | rfl | rfl | rfl | rfl <;> decide
  rcases echoDatr_eq_some parsed with ⟨_, _, _, _, _, rfl⟩ | ⟨_, rfl⟩ | ⟨_, _, rfl⟩
  · rw [Draft.get?_set_of_ne _ other.2.1, Draft.get?_set_of_ne _ other.1]
  · exact Draft.get?_set_of_ne _ other.2.2 _
  · rfl

/-- The options of a fresh draft are those of the entry. -/
theorem echoOptions_copied {draft : EchoDraft}
    (fresh : ∀ place ∈ [EchoField.fskFreqDev, .codeRate, .polarizationInversion],
      draft.get? place = none) (txpk : Json) :
    (echoOptions draft txpk).get? .fskFreqDev = txpk.get? "fdev" ∧
      (echoOptions draft txpk).get? .codeRate = txpk.get? "codr" ∧
      (echoOptions draft txpk).get? .polarizationInversion = txpk.get? "ipol" := by
  refine ⟨?_, ?_, ?_⟩
  · rw [echoOptions, get?_copied_of_ne _ (by decide), get?_copied_of_ne _ (by decide),
      get?_copied_self (fresh _ (by simp))]
  · rw [echoOptions, get?_copied_of_ne _ (by decide), get?_copied_self]
    rw [get?_copied_of_ne _ (by decide), fresh _ (by simp)]
  · rw [echoOptions, get?_copied_self]
    rw [get?_copied_of_ne _ (by decide), get?_copied_of_ne _ (by decide), fresh _ (by simp)]

/-- A member of the published document that is neither an option nor the timing. -/
theorem lookup_echo (draft : EchoDraft) (txpk imme : Json) {place : EchoField}
    (other : place ∉ [EchoField.fskFreqDev, .codeRate, .polarizationInversion, .timing]) :
    (echoTiming (echoOptions draft txpk) imme).json.lookup (EchoField.path place) =
      draft.get? place := by
  simp only [List.mem_cons, List.not_mem_nil, or_false, not_or] at other
  obtain ⟨notDev, notRate, notInversion, notTiming⟩ := other
  exact (get?_echoTiming _ _ notTiming).trans (get?_echoOptions draft txpk (by simp [*]))

/-- The options of a fresh draft are in the published document as the entry has them. -/
theorem lookup_options {draft : EchoDraft}
    (fresh : ∀ place ∈ [EchoField.fskFreqDev, .codeRate, .polarizationInversion],
      draft.get? place = none) (txpk imme : Json) :
    (echoTiming (echoOptions draft txpk) imme).json.lookup
        ["txInfo", "modulationInfo", "FSKFreqDev"] = txpk.get? "fdev" ∧
      (echoTiming (echoOptions draft txpk) imme).json.lookup
        ["txInfo", "modulationInfo", "codeRate"] = txpk.get? "codr" ∧
      (echoTiming (echoOptions draft txpk) imme).json.lookup
        ["txInfo", "modulationInfo", "polarizationInversion"] = txpk.get? "ipol" := by
  obtain ⟨dev, rate, inversion⟩ := echoOptions_copied fresh txpk
  exact ⟨(@get?_echoTiming _ imme .fskFreqDev (by decide)).trans dev,
    (@get?_echoTiming _ imme .codeRate (by decide)).trans rate,
    (@get?_echoTiming _ imme .polarizationInversion (by decide)).trans inversion⟩

/-- Nothing has been said of the options before the timing. -/
theorem Rated.fresh {id : String} {size data power modu : Json} {freq : Float} {draft : EchoDraft}
    (rated : Rated id size data power modu freq draft) :
    ∀ place ∈ [EchoField.fskFreqDev, .codeRate, .polarizationInversion],
      draft.get? place = none := by
  intro place member
  simp only [List.mem_cons, List.not_mem_nil, or_false] at member
  rcases member with rfl | rfl | rfl <;> rw [rated.base _ (by simp)] <;> rfl

/-- Apart from the data rate, everything is copied. -/
theorem reproduces_iff {item txpk size data power modu : Json} {id : String} {freq : Float}
    {draft : EchoDraft} {timing : String} {imme : Bool}
    (rated : Rated id size data power modu freq draft)
    (hasData : item.lookup ["phyPayload"] = some data)
    (hasSize : item.lookup ["phyPayloadSize"] = some size)
    (hasPower : item.lookup ["txInfo", "power"] = some power)
    (hasModu : item.lookup ["modulation"] = some modu)
    (isTiming : item.lookup ["txInfo", "timing"] = some (.str timing))
    (known : timing = if imme then "IMMEDIATELY" else "DELAY")
    (options : (modu = .str "LORA" →
        txpk.get? "codr" = item.lookup ["txInfo", "modulationInfo", "codeRate"] ∧
        txpk.get? "ipol" = item.lookup ["txInfo", "modulationInfo", "polarizationInversion"]) ∧
      (modu = .str "FSK" →
        txpk.get? "fdev" = item.lookup ["txInfo", "modulationInfo", "FSKFreqDev"])) :
    Reproduces item (echoTiming (echoOptions draft txpk) (.bool imme)).json ↔
      (modu = .str "LORA" →
        draft.get? .bandwidth = item.lookup ["txInfo", "modulationInfo", "bandwidth"] ∧
        draft.get? .spreadingFactor = item.lookup ["txInfo", "modulationInfo", "spreadingFactor"]) ∧
      (modu = .str "FSK" →
        draft.get? .fskDataRate = item.lookup ["txInfo", "modulationInfo", "FSKDataRate"]) := by
  have doc (place : EchoField) (other : place ∉ [EchoField.fskFreqDev, .codeRate,
      .polarizationInversion, .timing]) :
      (echoTiming (echoOptions draft txpk) (.bool imme)).json.lookup (EchoField.path place) =
        draft.get? place := lookup_echo draft txpk _ other
  obtain ⟨dev, codr, ipol⟩ := lookup_options rated.fresh txpk (.bool imme)
  constructor
  · intro copy
    refine ⟨fun lora => ?_, fun fsk => ?_⟩
    · have each := copy.lora (hasModu.trans (congrArg some lora))
      exact ⟨(doc .bandwidth (by decide)).symm.trans (each "bandwidth" (by simp)),
        (doc .spreadingFactor (by decide)).symm.trans (each "spreadingFactor" (by simp))⟩
    · have each := copy.fsk (hasModu.trans (congrArg some fsk))
      exact (doc .fskDataRate (by decide)).symm.trans (each "FSKDataRate" (by simp))
  · rintro ⟨lora, fsk⟩
    have isModu {text : String} (named : item.lookup ["modulation"] = some (.str text)) :
        modu = .str text := Option.some.inj (hasModu.symm.trans named)
    exact {
      phyPayload := (doc .phyPayload (by decide)).trans ((rated.base _ (by simp)).trans hasData.symm)
      phyPayloadSize :=
        (doc .phyPayloadSize (by decide)).trans ((rated.base _ (by simp)).trans hasSize.symm)
      power := (doc .power (by decide)).trans ((rated.base _ (by simp)).trans hasPower.symm)
      modulation := (doc .modulation (by decide)).trans ((rated.base _ (by simp)).trans hasModu.symm)
      timing := by
        rw [isTiming, known]
        exact Draft.get?_set_self (echoOptions draft txpk) .timing _
      lora := by
        intro named
        obtain ⟨width, spreading⟩ := lora (isModu named)
        obtain ⟨hasCodr, hasIpol⟩ := options.1 (isModu named)
        simp only [List.forall_mem_cons, List.not_mem_nil, false_implies, implies_true, and_true]
        exact ⟨(doc .bandwidth (by decide)).trans width,
          (doc .spreadingFactor (by decide)).trans spreading, codr.trans hasCodr, ipol.trans hasIpol⟩
      fsk := by
        intro named
        simp only [List.forall_mem_cons, List.not_mem_nil, false_implies, implies_true, and_true]
        exact ⟨(doc .fskDataRate (by decide)).trans (fsk (isModu named)),
          dev.trans (options.2 (isModu named))⟩ }

/-! ### The echo and the item -/

/-- An entry of the item, as the echo reads it. -/
structure Heard (env : Env) (item downlink txpk size data freq power modu datr : Json)
    (timing : String) : Prop where
  seen : (publishChirpstackFormatDownlinkJson env downlink).observe publication =
    echoRun env txpk size data freq power modu datr
  object : txpk.isObject = true
  data : item.lookup ["phyPayload"] = some data
  size : item.lookup ["phyPayloadSize"] = some size
  power : item.lookup ["txInfo", "power"] = some power
  modu : item.lookup ["modulation"] = some modu
  isTiming : item.lookup ["txInfo", "timing"] = some (.str timing)
  imme : txpk.get? "imme" = immeOf timing

section Heard

variable {env : Env} {item downlink txpk size data freq power modu datr : Json} {timing : String}
  {x : Float}

/-- An echo that stops early publishes nothing. -/
theorem echoes_of_silent (last : Except Fault Unit) (defined : last ≠ .error .undefined)
    (seen : (publishChirpstackFormatDownlinkJson env downlink).observe publication = ⟨[], last⟩) :
    Echoes env item downlink := by
  rw [echoes_iff env item downlink seen]
  exact ⟨defined, by simp⟩

theorem Heard.of_freq (heard : Heard env item downlink txpk size data freq power modu datr timing)
    {e : JsonError} (wrong : freq.asDouble = .error e) : Echoes env item downlink := by
  apply echoes_of_silent (.error (.throws (.json e)))
  · simp
  · rw [heard.seen, echoRun, wrong]
    rfl

theorem Heard.of_datr (heard : Heard env item downlink txpk size data freq power modu datr timing)
    (number : freq.asDouble = .ok x)
    (unparsed : echoDatr (echoBase (gatewayId env) size data power modu x) datr = none) :
    Echoes env item downlink := by
  apply echoes_of_silent (.ok ())
  · simp
  · rw [heard.seen, echoRun, number]
    dsimp only
    rw [unparsed]
    rfl

/-- An echo that gets as far as the timing needs a known one, and the values of the item. -/
theorem Heard.of_rate (heard : Heard env item downlink txpk size data freq power modu datr timing)
    (number : freq.asDouble = .ok x) {draft : EchoDraft}
    (parsed : echoDatr (echoBase (gatewayId env) size data power modu x) datr = some draft)
    (options : (modu = .str "LORA" →
        txpk.get? "codr" = item.lookup ["txInfo", "modulationInfo", "codeRate"] ∧
        txpk.get? "ipol" = item.lookup ["txInfo", "modulationInfo", "polarizationInversion"]) ∧
      (modu = .str "FSK" →
        txpk.get? "fdev" = item.lookup ["txInfo", "modulationInfo", "FSKFreqDev"])) :
    Echoes env item downlink ↔ KnownTiming item ∧
      (modu = .str "LORA" →
        draft.get? .bandwidth = item.lookup ["txInfo", "modulationInfo", "bandwidth"] ∧
        draft.get? .spreadingFactor = item.lookup ["txInfo", "modulationInfo", "spreadingFactor"]) ∧
      (modu = .str "FSK" →
        draft.get? .fskDataRate = item.lookup ["txInfo", "modulationInfo", "FSKDataRate"]) := by
  rw [echoes_iff env item downlink heard.seen, echoRun, number]
  dsimp only
  rw [parsed]
  by_cases known : KnownTiming item
  · obtain ⟨imme, isImme, same⟩ := (knownTiming_iff heard.isTiming).mp known
    rw [← reproduces_iff (rated_of_echoDatr parsed) heard.data heard.size heard.power heard.modu
      heard.isTiming same options]
    simp only [heard.imme, isImme]
    constructor
    · rintro ⟨_, each⟩
      exact ⟨known, (each _ _ (List.mem_singleton.mpr rfl)).2⟩
    · rintro ⟨_, copy⟩
      refine ⟨by simp [Eff.emit], fun topic doc member => ?_⟩
      cases List.mem_singleton.mp member
      exact ⟨rfl, copy⟩
  · -- The member is not there, and reading it has no meaning.
    have absent := immeOf_eq_none heard.isTiming known
    simp [heard.imme, absent, accessFault, heard.object, known]

/-- The echo of a LoRa item. -/
theorem Heard.lora_iff {bw sf : UInt32}
    (heard : Heard env item downlink txpk size data freq power (.str "LORA")
      (.str (formatDatr sf bw)) timing)
    (number : freq.asDouble = .ok x)
    (codr : txpk.get? "codr" = item.lookup ["txInfo", "modulationInfo", "codeRate"])
    (ipol : txpk.get? "ipol" = item.lookup ["txInfo", "modulationInfo", "polarizationInversion"])
    (width : item.lookup ["txInfo", "modulationInfo", "bandwidth"] = some (.uint bw.toUInt64))
    (spreading : item.lookup ["txInfo", "modulationInfo", "spreadingFactor"] =
      some (.uint sf.toUInt64)) :
    Echoes env item downlink ↔ 100 ≤ sf.toNat ∨ bw.toNat < 1000 ∧ KnownTiming item := by
  have parse := parseUplinkDatr_formatDatr sf bw
  by_cases small : sf.toNat < 100
  · rw [if_pos small] at parse
    rw [heard.of_rate number (by rw [echoDatr, parse]; rfl) ⟨fun _ => ⟨codr, ipol⟩, by simp⟩]
    simp only [Draft.get?_set_self, Draft.get?_set_of_ne _ (by decide : EchoField.bandwidth ≠
      .spreadingFactor), width, spreading, toUInt64_factor small, Option.some.injEq, Json.uint.injEq,
      toUInt64_width_iff, true_implies, Json.str.injEq]
    have notLarge : ¬ 100 ≤ sf.toNat := by omega
    simp [notLarge, and_comm]
  · rw [if_neg small] at parse
    have silent := heard.of_datr number (by rw [echoDatr, parse]; rfl)
    exact ⟨fun _ => .inl (by omega), fun _ => silent⟩

/-- The echo of an FSK item. -/
theorem Heard.fsk_iff {rate : Json}
    (heard : Heard env item downlink txpk size data freq power (.str "FSK") rate timing)
    (number : freq.asDouble = .ok x)
    (fdev : txpk.get? "fdev" = item.lookup ["txInfo", "modulationInfo", "FSKFreqDev"])
    (dataRate : item.lookup ["txInfo", "modulationInfo", "FSKDataRate"] = some rate) :
    Echoes env item downlink ↔ rate.isNumber = true ∧ KnownTiming item ∨
      ∃ text, rate = .str text ∧ parseUplinkDatr text = none := by
  cases parsed : echoDatr (echoBase (gatewayId env) size data power (.str "FSK") x) rate with
  | none =>
    have silent := heard.of_datr number parsed
    have stops := (echoDatr_eq_none_iff _ rate).mp parsed
    simp only [UsableDatr, not_forall, Option.not_isSome_iff_eq_none] at stops
    obtain ⟨text, isText, unread⟩ := stops
    exact ⟨fun _ => .inr ⟨text, isText, unread⟩, fun _ => silent⟩
  | some draft =>
    have base : (echoBase (gatewayId env) size data power (.str "FSK") x).get? .fskDataRate = none := rfl
    rw [heard.of_rate number parsed ⟨by simp, fun _ => fdev⟩, dataRate]
    rcases echoDatr_eq_some parsed with ⟨text, dr, bw, rfl, read, rfl⟩ | ⟨isNumber, rfl⟩ |
      ⟨other, noText, rfl⟩
    · -- A rate of text that parses comes back as a bandwidth and a spreading factor.
      have absent : (((echoBase (gatewayId env) size data power (.str "FSK") x).set .bandwidth
          (.uint bw.toUInt64)).set .spreadingFactor (.uint dr.toUInt64)).get? .fskDataRate = none := by
        rw [Draft.get?_set_of_ne _ (by decide), Draft.get?_set_of_ne _ (by decide), base]
      rw [absent]
      simp [Json.isNumber, read]
    · rw [Draft.get?_set_self]
      have noText (text : String) : rate ≠ .str text := by
        rintro rfl
        simp [Json.isNumber] at isNumber
      simp [isNumber, noText]
    · rw [base]
      simp [other, noText]

end Heard

/-- The echo of an entry, by the item that the entry was made of. -/
theorem Entry.echoes_iff {item downlink : Json} {draft : TxpkDraft} (entry : Entry item draft)
    (env : Env) (reread : RereadAs draft.json downlink)
    (widths : item.lookup ["modulation"] = some (.str "LORA") → ∃ bw sf : UInt32,
      item.lookup ["txInfo", "modulationInfo", "bandwidth"] = some (.uint bw.toUInt64) ∧
      item.lookup ["txInfo", "modulationInfo", "spreadingFactor"] = some (.uint sf.toUInt64)) :
    Echoes env item downlink ↔
      ((∃ freq, downlink.lookup ["txpk", "freq"] = some freq ∧ freq.isNumber = true) →
        EchoExact item) := by
  have present (place : TxpkField) (member : place ∈ [TxpkField.data, .size, .powe, .freq]) :=
    entry.present place member
  obtain ⟨txpk, freq, there, hasFreq, inEntry, copied⟩ :=
    reread.txpk (present _ (by simp)) (present _ (by simp))
  obtain ⟨data, hasData⟩ := Option.isSome_iff_exists.mp (present .data (by simp))
  obtain ⟨size, hasSize⟩ := Option.isSome_iff_exists.mp (present .size (by simp))
  obtain ⟨power, hasPower⟩ := Option.isSome_iff_exists.mp (present .powe (by simp))
  obtain ⟨timing, isTiming, imme⟩ := entry.imme
  have read {key : String} {v : Option Json} (there : draft.json.lookup ["txpk", key] = v)
      (notChain : key ≠ "rfch") (notFreq : key ≠ "freq") : txpk.get? key = v :=
    (copied key notChain notFreq).trans there
  have heard {modu datr : Json} (named : item.lookup ["modulation"] = some modu)
      (hasDatr : draft.get? .datr = some datr) :
      Heard env item downlink txpk size data freq power modu datr timing :=
    { seen := observe_echo env there (read hasSize (by decide) (by decide))
        (read hasData (by decide) (by decide)) hasFreq (read hasPower (by decide) (by decide))
        (read (entry.modu.trans named) (by decide) (by decide)) (read hasDatr (by decide) (by decide))
      object := Json.isObject_of_get? hasFreq
      data := entry.data.symm.trans hasData
      size := entry.size.symm.trans hasSize
      power := entry.powe.symm.trans hasPower
      modu := named
      isTiming := isTiming
      imme := read imme (by decide) (by decide) }
  simp only [inEntry, Option.some.injEq, exists_eq_left', ← Json.asDouble_ok_iff]
  cases entry.modulated with
  | lora named width converted spreading reduced datr codr ipol =>
    have heard := heard named datr
    cases number : freq.asDouble with
    | error e => simp [heard.of_freq number]
    | ok x =>
      obtain ⟨bw, sf, isWidth, isFactor⟩ := widths named
      cases width.symm.trans isWidth
      cases spreading.symm.trans isFactor
      simp only [Json.asUInt32, Json.asArithmetic, UInt32.toUInt32_toUInt64, Except.ok.injEq] at converted reduced
      subst converted reduced
      rw [heard.lora_iff number (read codr (by decide) (by decide)) (read ipol (by decide) (by decide))
        isWidth isFactor]
      constructor
      · intro copies _
        exact ⟨fun _ => ⟨bw, sf, isWidth, isFactor, copies⟩, by simp [named]⟩
      · intro copies
        obtain ⟨bw', sf', isWidth', isFactor', condition⟩ := (copies ⟨x, rfl⟩).1 named
        have sameWidth : bw = bw' := by
          simpa [UInt32.toUInt64_inj] using isWidth.symm.trans isWidth'
        have sameFactor : sf = sf' := by
          simpa [UInt32.toUInt64_inj] using isFactor.symm.trans isFactor'
        rw [sameWidth, sameFactor]
        exact condition
  | fsk named dataRate datr fdev =>
    have heard := heard named datr
    cases number : freq.asDouble with
    | error e => simp [heard.of_freq number]
    | ok x =>
      rw [heard.fsk_iff number (read fdev (by decide) (by decide)) dataRate]
      simp [EchoExact, named, dataRate]

/-- The echo of a queued item shows the values of the item exactly if the timing is known, a LoRa
bandwidth has up to three digits and an FSK rate is a number; or if the echo stops before it is
published: at a frequency that is no number, a spreading factor of three digits or more, or an FSK
rate of text that is no data rate. -/
theorem downlink_echo_exact_iff (env : Env) (item : Json)
    (queued : (downlinkItem env item).result = .ok true)
    (widths : item.lookup ["modulation"] = some (.str "LORA") → ∃ bw sf : UInt32,
      item.lookup ["txInfo", "modulationInfo", "bandwidth"] = some (.uint bw.toUInt64) ∧
      item.lookup ["txInfo", "modulationInfo", "spreadingFactor"] = some (.uint sf.toUInt64)) :
    ∃ doc, pushes (downlinkItem env item).events = [env.dump doc] ∧
      ∀ downlink, RereadAs doc downlink →
        (Echoes env item downlink ↔
          ((∃ freq, downlink.lookup ["txpk", "freq"] = some freq ∧ freq.isNumber = true) →
            EchoExact item)) := by
  obtain ⟨draft, pushed, entry⟩ := downlinkItem_queued queued
  exact ⟨draft.json, pushed, fun downlink reread => entry.echoes_iff env reread widths⟩

/-- A LoRa item that is sent at once. -/
def loraItem (bandwidth : UInt32) : Json :=
  .obj [("modulation", .str "LORA"), ("phyPayload", .str "aGk="), ("phyPayloadSize", .uint 2),
    ("txInfo", .obj [("frequency", .uint 2403000000),
      ("modulationInfo", .obj [("bandwidth", .uint bandwidth.toUInt64), ("codeRate", .str "4/8"),
        ("polarizationInversion", .bool true), ("spreadingFactor", .uint 7)]),
      ("power", .uint 12), ("timing", .str "IMMEDIATELY")])]

theorem loraItem_queued (env : Env) (bandwidth : UInt32) :
    (downlinkItem env (loraItem bandwidth)).result = .ok true := by
  have accepted : AcceptedItem (loraItem bandwidth) :=
    ⟨_, rfl, _, rfl, _, rfl, _, rfl, .inl rfl, _, rfl, _, rfl, rfl, _, rfl,
      .inl ⟨rfl, _, rfl, _, rfl, rfl, _, rfl, rfl, rfl, rfl⟩⟩
  exact congrArg Eff.result (observe_accepted env accepted)

theorem loraItem_widths (bandwidth : UInt32) :
    (loraItem bandwidth).lookup ["modulation"] = some (.str "LORA") → ∃ bw sf : UInt32,
      (loraItem bandwidth).lookup ["txInfo", "modulationInfo", "bandwidth"] =
        some (.uint bw.toUInt64) ∧
      (loraItem bandwidth).lookup ["txInfo", "modulationInfo", "spreadingFactor"] =
        some (.uint sf.toUInt64) :=
  fun _ => ⟨bandwidth, 7, rfl, rfl⟩

/-- Whatever writes and reads the text of the entry, the echo shows the values of the item. -/
def EchoedFaithfully (item : Json) : Prop :=
  ∀ env : Env, ∃ doc, pushes (downlinkItem env item).events = [env.dump doc] ∧
    ∀ downlink, RereadAs doc downlink → Echoes env item downlink

/-- A bandwidth of 812 kHz is echoed as it was. -/
theorem narrow_item_echoed : EchoedFaithfully (loraItem 812) := by
  intro env
  obtain ⟨doc, pushed, echoes⟩ := downlink_echo_exact_iff env (loraItem 812)
    (loraItem_queued env _) (loraItem_widths _)
  refine ⟨doc, pushed, fun downlink reread => (echoes downlink reread).mpr fun _ => ?_⟩
  refine ⟨fun _ => ⟨812, 7, rfl, rfl, .inr ⟨by decide, .inl rfl⟩⟩, fun fsk => ?_⟩
  have same : "LORA" = "FSK" := Json.str.inj (Option.some.inj fsk)
  exact absurd same (by decide)

/-- Whatever writes and reads the text of the entry, its echo may show other values. -/
def EchoedOtherwise (item : Json) : Prop :=
  ∀ env : Env, ∃ doc, pushes (downlinkItem env item).events = [env.dump doc] ∧
    ∃ downlink, RereadAs doc downlink ∧ ¬ Echoes env item downlink

/-- A bandwidth of 1625 kHz is echoed as 162. -/
theorem wide_item_not_echoed : EchoedOtherwise (loraItem 1625) := by
  intro env
  obtain ⟨draft, pushed, entry⟩ := downlinkItem_queued (loraItem_queued env 1625)
  have kept (key : String) (other : key ≠ "freq") :
      (draft.set .freq (.float 2403)).json.lookup ["txpk", key] = draft.json.lookup ["txpk", key] :=
    Json.lookup_put_of_apart _ _ (.inr (.inl other.symm))
  have freq : (draft.set .freq (.float 2403)).json.lookup ["txpk", "freq"] = some (.float 2403) :=
    Draft.get?_set_self draft .freq _
  have reread : RereadAs draft.json (draft.set .freq (.float 2403)).json :=
    { same := fun key _ other => kept key other
      freq := by
        rw [freq]
        exact (entry.present .freq (by simp)).symm }
  refine ⟨draft.json, pushed, _, reread, ?_⟩
  rw [entry.echoes_iff _ reread (loraItem_widths _)]
  intro copies
  obtain ⟨bw, sf, width, factor, condition⟩ := (copies ⟨_, freq, rfl⟩).1 rfl
  have isWidth : 1625 = bw := UInt32.toUInt64_inj.mp (Json.uint.inj (Option.some.inj width))
  have isFactor : 7 = sf := UInt32.toUInt64_inj.mp (Json.uint.inj (Option.some.inj factor))
  subst isWidth isFactor
  rcases condition with large | ⟨small, _⟩
  · exact absurd large (by decide)
  · exact absurd small (by decide)

end LorawanFeeds.Bridge
