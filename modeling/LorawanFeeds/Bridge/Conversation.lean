import Mathlib.Data.List.Forall2
import LorawanFeeds.Bridge.DownlinkEcho

/-!
# What the concentrator is told

The bridge never speaks first. Each PUSH_DATA and each PULL_DATA is answered once, in the order in
which they come, whatever the thread of the MQTT client does in between and however a handler ends;
and what the bridge reports of its downlinks is what it has handed over.
-/
namespace LorawanFeeds.Bridge

open Lib

/-- The datagram asks for an answer. What is missing of a short one is zero in the buffer. -/
def Asks (datagram : Bytes) : Prop :=
  datagram ≠ [] ∧ bufferUp datagram 0 = protocolVersion ∧
    (bufferUp datagram 3 = pktPushData ∨ bufferUp datagram 3 = pktPullData)

instance (datagram : Bytes) : Decidable (Asks datagram) := inferInstanceAs (Decidable (_ ∧ _ ∧ _))

/-- The reply has the version and the token of the datagram, and the kind that goes with it. -/
structure Answers (datagram reply : Bytes) : Prop where
  token : reply.take 3 = [bufferUp datagram 0, bufferUp datagram 1, bufferUp datagram 2]
  push : bufferUp datagram 3 = pktPushData → reply.length = 32 ∧ reply.getD 3 0 = pktPushAck
  pull : bufferUp datagram 3 = pktPullData →
    reply.length = 32 ∧ reply.getD 3 0 = pktPullAck ∨
      reply.length = bufferDownSize ∧ reply.getD 3 0 = pktPullResp

/-- A run, with the datagrams that `read_cb` has been called with. -/
structure Conversation where
  state : State := {}
  heard : List Bytes := []

/-- The datagram that an event brings to a bridge that runs. -/
def State.hears (s : State) : Event → Option Bytes
  | .datagram bytes => if s.down.isSome then none else some bytes
  | _ => none

def Conversation.step (env : Env) (c : Conversation) (e : Event) : Conversation where
  state := Bridge.step env c.state e
  heard := c.heard ++ (c.state.hears e).toList

/-- The documents that tell of a downlink, in order. -/
def reports (trace : List Action) : List Json :=
  trace.filterMap fun
    | .publish .downlink doc => some doc
    | _ => none

/-- The data rate of a downlink can be taken apart, if it is text. -/
def readableRate : Json → Bool
  | .str text => (parseUplinkDatr text).isSome
  | _ => true

/-- What a report is made of: the `txpk` of a message, if somebody is to be told of it, its
frequency is a number and its data rate can be read. -/
def reportable (env : Env) (message : Bytes) : Option Json := do
  let downlink ← env.parse message
  let txpk ← downlink.get? "txpk"
  if env.topicPubDownlink ≠ "" ∧ (member txpk "freq").isNumber ∧
    readableRate (member txpk "datr") then some txpk else none

/-- The document reports the downlink: its members stand where the network server looks for them,
text of a data rate is taken apart, and a member that is not there leaves its place empty. -/
structure ReportOf (env : Env) (txpk doc : Json) : Prop where
  gatewayID : doc.lookup ["gatewayID"] = some (.str (gatewayId env))
  phyPayload : doc.lookup ["phyPayload"] = txpk.get? "data"
  phyPayloadSize : doc.lookup ["phyPayloadSize"] = txpk.get? "size"
  power : doc.lookup ["txInfo", "power"] = txpk.get? "powe"
  modulation : doc.lookup ["modulation"] = txpk.get? "modu"
  /-- The conversion of a number of Hz out of the range of `uint64_t` has no meaning. -/
  frequency : ∀ freq megahertz, txpk.get? "freq" = some freq → freq.asDouble = .ok megahertz →
    0 ≤ megahertz * 1000000 ∧ megahertz * 1000000 < 18446744073709551616 →
      doc.lookup ["txInfo", "frequency"] = some (.uint (megahertz * 1000000).toUInt64)
  lora : ∀ text, txpk.get? "datr" = some (.str text) → ∃ sf bw,
    parseUplinkDatr text = some (sf, bw) ∧
      doc.lookup ["txInfo", "modulationInfo", "bandwidth"] = some (.uint bw.toUInt64) ∧
      doc.lookup ["txInfo", "modulationInfo", "spreadingFactor"] = some (.uint sf.toUInt64)
  fsk : ∀ rate, txpk.get? "datr" = some rate → rate.isNumber →
    doc.lookup ["txInfo", "modulationInfo", "FSKDataRate"] = some rate
  fskFreqDev : doc.lookup ["txInfo", "modulationInfo", "FSKFreqDev"] = txpk.get? "fdev"
  codeRate : doc.lookup ["txInfo", "modulationInfo", "codeRate"] = txpk.get? "codr"
  inversion : doc.lookup ["txInfo", "modulationInfo", "polarizationInversion"] = txpk.get? "ipol"
  timing : doc.lookup ["timing"] =
    match txpk.get? "imme" with
    | some (.bool true) => some (.str "IMMEDIATELY")
    | some (.bool false) => some (.str "DELAY")
    | _ => none

/-! ### Actions -/

/-- The action sends nothing to the concentrator. -/
def Action.Silent : Action → Prop
  | .ack _ | .pullResp _ _ => False
  | _ => True

instance : Translates Action.Silent := ⟨fun _ _ => trivial, fun _ => trivial, fun _ _ => trivial⟩

theorem sent_of_silent {actions : List Action} (silent : ∀ a ∈ actions, a.Silent) :
    sent actions = [] := by
  rw [sent, List.filterMap_eq_nil_iff]
  intro a member
  have none := silent a member
  cases a <;> simp_all [Action.Silent]

theorem sent_append (first second : List Action) :
    sent (first ++ second) = sent first ++ sent second :=
  List.filterMap_append

theorem trace_perform (s : State) (a : Action) : (s.perform a).trace = s.trace ++ [a] := by
  cases a <;> rfl

theorem trace_performs (s : State) (actions : List Action) :
    (actions.foldl State.perform s).trace = s.trace ++ actions := by
  induction actions generalizing s with
  | nil => simp
  | cons a rest ih => simp [ih, trace_perform]

theorem mqtt_performs (s : State) (actions : List Action) :
    (actions.foldl State.perform s).mqtt = s.mqtt := by
  induction actions generalizing s with
  | nil => rfl
  | cons a rest ih => rw [List.foldl_cons, ih, perform_mqtt]

theorem trace_finish (s : State) (result : Except Fault Unit) :
    (s.finish result).trace = s.trace := by
  cases result <;> rfl

theorem mqtt_finish (s : State) (result : Except Fault Unit) : (s.finish result).mqtt = s.mqtt := by
  cases result <;> rfl

/-- The thread of the MQTT client sends nothing to the concentrator. -/
theorem silent_onMessage (env : Env) (payload : Bytes) :
    Eff.Emits Action.Silent (onMessage env payload) :=
  emits_onMessage (fun _ => trivial) env payload

/-! ### One datagram -/

theorem answers_ack {datagram : Bytes} {kind : UInt8}
    (push : bufferUp datagram 3 = pktPushData → kind = pktPushAck)
    (pull : bufferUp datagram 3 = pktPullData → kind = pktPullAck) :
    Answers datagram (ackDatagram datagram kind) where
  token := rfl
  push same := ⟨rfl, push same⟩
  pull same := .inl ⟨rfl, pull same⟩

theorem answers_pullResp {datagram : Bytes} (message : Bytes)
    (other : bufferUp datagram 3 ≠ pktPushData) :
    Answers datagram (pullRespDatagram datagram message) where
  token := rfl
  push same := absurd same other
  pull _ := by
    right
    refine ⟨?_, rfl⟩
    rw [pullRespDatagram, List.length_take, List.length_append, List.length_replicate]
    omega

/-- A call of `read_cb` sends one answer if it is asked, and nothing else. -/
theorem sent_readCb (env : Env) {queue : List Bytes} {datagram : Bytes}
    (fits : IsPullData datagram → HeadFits queue) :
    List.Forall₂ Answers ([datagram].filter (Asks ·))
      (sent (readCb env queue datagram).events) := by
  by_cases rejected : datagram = [] ∨ bufferUp datagram 0 ≠ protocolVersion
  · have quiet : ¬Asks datagram := fun asks => rejected.elim asks.1 (· asks.2.1)
    simp [readCb, rejected, quiet, sent]
  · have accepted := not_or.mp rejected
    rw [readCb, if_neg rejected, Eff.events_bind_pure, udpPktCb]
    by_cases push : bufferUp datagram 3 = pktPushData
    · have asks : Asks datagram := ⟨accepted.1, not_not.mp accepted.2, .inl push⟩
      have other : bufferUp datagram 3 ≠ pktPullData := by
        rw [push]
        decide
      rw [if_pos push, List.filter_cons_of_pos (by simpa using asks), List.filter_nil,
        responsePktPushData, Eff.emit_bind]
      -- The acknowledgement comes first; what the translators do behind it is for the broker.
      refine .cons (answers_ack (fun _ => rfl) fun same => absurd same other) ?_
      refine List.forall₂_nil_left_iff.mpr (sent_of_silent ?_)
      apply Eff.emits_tryCatch <;> simp
    · rw [if_neg push]
      by_cases pull : bufferUp datagram 3 = pktPullData
      · have asks : Asks datagram := ⟨accepted.1, not_not.mp accepted.2, .inr pull⟩
        rw [if_pos pull, List.filter_cons_of_pos (by simpa using asks), List.filter_nil]
        cases queue with
        | nil =>
          rw [responsePktPullData_nil]
          exact .cons (answers_ack (fun same => absurd same push) fun _ => rfl) .nil
        | cons message rest =>
          have short := fits ⟨accepted.1, not_not.mp accepted.2, pull⟩ message rfl
          rw [responsePktPullData_fits env short]
          refine .cons (answers_pullResp message push) ?_
          refine List.forall₂_nil_left_iff.mpr (sent_of_silent ?_)
          exact emits_echoDownlink env message
      · have quiet : ¬Asks datagram := fun asks => asks.2.2.elim push pull
        rw [if_neg pull, List.filter_cons_of_neg (by simpa using quiet), List.filter_nil]
        refine List.forall₂_nil_left_iff.mpr (sent_of_silent ?_)
        split
        · exact emits_recievePktTxAck env datagram
        · exact Eff.emits_pure _

/-! ### A run -/

/-- What a step adds to the record: actions of the MQTT thread, which all satisfy `P`, or the
actions of a call of `read_cb`. -/
theorem step_traced {P : Action → Prop} (env : Env) (s : State) (e : Event)
    (message : ∀ payload, Eff.Emits P (onMessage env payload)) (pending : ∀ a ∈ s.mqtt, P a) :
    (∀ a ∈ (step env s e).mqtt, P a) ∧
      ∃ new, (step env s e).trace = s.trace ++ new ∧
        ((s.hears e = none ∧ ∀ a ∈ new, P a) ∨
          ∃ bytes, s.hears e = some bytes ∧ new = (readCb env s.queueDownlink bytes).events) := by
  have idle (unheard : s.hears e = none) : ∃ new, s.trace = s.trace ++ new ∧
      ((s.hears e = none ∧ ∀ a ∈ new, P a) ∨
        ∃ bytes, s.hears e = some bytes ∧ new = (readCb env s.queueDownlink bytes).events) :=
    ⟨[], (List.append_nil _).symm, .inl ⟨unheard, List.forall_mem_nil _⟩⟩
  rw [step.eq_def]
  split
  next down =>
    refine ⟨pending, idle ?_⟩
    cases e <;> simp [State.hears, down]
  next up =>
    cases e with
    | message payload =>
      dsimp only
      split
      · split
        · rw [mqtt_finish, trace_finish]
          exact ⟨pending, idle rfl⟩
        · exact ⟨message payload, idle rfl⟩
      · exact ⟨pending, idle rfl⟩
    | mqttStep =>
      dsimp only
      split
      · exact ⟨pending, idle rfl⟩
      next last only =>
        rw [mqtt_finish, trace_finish, perform_mqtt, trace_perform]
        exact ⟨List.forall_mem_nil _, [last], rfl, .inl ⟨rfl,
          List.forall_mem_singleton.mpr (pending last (by simp [only]))⟩⟩
      next next rest _ waiting =>
        rw [perform_mqtt, trace_perform]
        refine ⟨fun a member => pending a ?_, [next], rfl, .inl ⟨rfl,
          List.forall_mem_singleton.mpr (pending next (by simp [waiting]))⟩⟩
        rw [waiting]
        exact List.mem_cons_of_mem _ member
    | datagram bytes =>
      dsimp only
      rw [mqtt_finish, mqtt_performs, trace_finish, trace_performs]
      exact ⟨pending, _, rfl, .inr ⟨bytes, by simp [State.hears, up], rfl⟩⟩

/-- What the MQTT thread has still to do sends nothing, and what has been sent answers what has been
heard. -/
structure Conversation.Kept (c : Conversation) : Prop where
  silent : ∀ a ∈ c.state.mqtt, a.Silent
  answered : List.Forall₂ Answers (c.heard.filter (Asks ·)) (sent c.state.trace)

/-- Only a bridge that runs hears a datagram. -/
theorem hears_eq_some {s : State} {e : Event} {bytes : Bytes} (heard : s.hears e = some bytes) :
    s.down = none ∧ e = .datagram bytes := by
  cases e with
  | datagram given =>
    rw [State.hears] at heard
    split at heard
    · cases heard
    next up =>
      cases heard
      exact ⟨by simpa using up, rfl⟩
  | message | mqttStep => cases heard

theorem Conversation.step_kept (env : Env) (c : Conversation) (e : Event) (kept : c.Kept)
    (fitting : Fitting c.state e) : (c.step env e).Kept := by
  obtain ⟨silent, answered⟩ := kept
  obtain ⟨pending, new, trace, cases⟩ := step_traced env c.state e (silent_onMessage env) silent
  refine ⟨pending, ?_⟩
  rw [Conversation.step]
  dsimp only
  rw [trace, sent_append, List.filter_append]
  apply List.rel_append answered
  rcases cases with ⟨unheard, quiet⟩ | ⟨bytes, heard, rfl⟩
  · rw [unheard, sent_of_silent quiet]
    exact .nil
  · rw [heard]
    obtain ⟨up, rfl⟩ := hears_eq_some heard
    exact sent_readCb env (fitting up)

/-- A schedule of the bridge is one of the conversation. -/
theorem guarded_conversation (env : Env) {allowed : State → Event → Prop} (c : Conversation)
    (events : List Event) (guarded : Guarded (step env) allowed c.state events) :
    Guarded (Conversation.step env) (fun c => allowed c.state) c events := by
  induction events generalizing c with
  | nil => trivial
  | cons e events ih => exact ⟨guarded.1, ih (c.step env e) guarded.2⟩

/-- In every run in which no PULL_DATA finds a payload of more than 996 bytes, what has been sent to
the concentrator are the answers to its PUSH_DATA and PULL_DATA, one for each and in the same
order. -/
theorem requests_answered (env : Env) (events : List Event)
    (fitting : Guarded (step env) Fitting State.init events) :
    List.Forall₂ Answers ((run (Conversation.step env) {} events).heard.filter (Asks ·))
      (sent (run (Conversation.step env) {} events).state.trace) := by
  have kept := guarded_invariant (Conversation.step env) (fun c => Fitting c.state)
    Conversation.Kept (Conversation.step_kept env) {} ⟨List.forall_mem_nil _, .nil⟩ events
    (guarded_conversation env {} events fitting)
  exact kept.answered

theorem requests_answered_short :
    let c := run (Conversation.step (textEnv (paddedMessage 0) nullDownlink)) {}
      [.message (paddedMessage 0), .mqttStep, .datagram [2, 7, 8, 2]]
    List.Forall₂ Answers (c.heard.filter (Asks ·)) (sent c.state.trace) :=
  requests_answered _ _ short_fitting

/-! ### Reports -/

/-- The document of a report. -/
def reported : Topic × Json → Option Json
  | (.downlink, doc) => some doc
  | _ => none

theorem reports_eq_published {α : Type} (x : Handler α) :
    reports x.events = (x.observe publication).events.filterMap reported := by
  rw [Eff.events_observe, List.filterMap_filterMap, reports]
  apply List.filterMap_congr
  intro a _
  cases a with
  | publish topic doc => cases topic <;> rfl
  | _ => rfl

/-- What a report is told of has the members that it reads, as far as it gets. -/
def Complete (env : Env) (message : Bytes) : Prop :=
  env.topicPubDownlink ≠ "" → ∀ downlink txpk, env.parse message = some downlink →
    downlink.get? "txpk" = some txpk → txpk.isObject → SafeTxpk txpk

/-- A PULL_DATA that reaches the bridge finds nothing, or a downlink that fits `buffer_down` and can
be told of. -/
def Telling (env : Env) (s : State) : Event → Prop
  | .datagram bytes => s.down = none → IsPullData bytes →
    ∀ message ∈ s.queueDownlink.head?, message.length ≤ 996 ∧ Complete env message
  | _ => True

theorem readableRate_iff (rate : Json) : readableRate rate = true ↔ UsableDatr rate := by
  cases rate <;> simp [readableRate, UsableDatr]

/-- What the echo publishes behind the data rate is a report. -/
theorem reportOf_echo (env : Env) {txpk size data freq power modu datr imme : Json}
    {megahertz : Float} {draft : EchoDraft}
    (hasSize : txpk.get? "size" = some size) (hasData : txpk.get? "data" = some data)
    (hasFreq : txpk.get? "freq" = some freq) (hasPower : txpk.get? "powe" = some power)
    (hasModu : txpk.get? "modu" = some modu) (hasDatr : txpk.get? "datr" = some datr)
    (hasImme : txpk.get? "imme" = some imme) (number : freq.asDouble = .ok megahertz)
    (parsed : echoDatr (echoBase (gatewayId env) size data power modu megahertz) datr =
      some draft) :
    ReportOf env txpk (echoTiming (echoOptions draft txpk) imme).json := by
  have rated := rated_of_echoDatr parsed
  obtain ⟨dev, rate, inversion⟩ := lookup_options rated.fresh txpk imme
  have doc (place : EchoField) (other : place ∉ [EchoField.fskFreqDev, .codeRate,
      .polarizationInversion, .timing]) :
      (echoTiming (echoOptions draft txpk) imme).json.lookup (EchoField.path place) =
        draft.get? place := lookup_echo draft txpk imme other
  -- The data rate goes to places of its own.
  have kept (place : EchoField) (other : place ≠ .bandwidth ∧ place ≠ .spreadingFactor ∧
      place ≠ .fskDataRate) : draft.get? place =
        (echoBase (gatewayId env) size data power modu megahertz).get? place := by
    rcases echoDatr_eq_some parsed with ⟨_, _, _, _, _, rfl⟩ | ⟨_, rfl⟩ | ⟨_, _, rfl⟩
    · rw [Draft.get?_set_of_ne _ other.2.1, Draft.get?_set_of_ne _ other.1]
    · exact Draft.get?_set_of_ne _ other.2.2 _
    · rfl
  exact {
    gatewayID := (doc .gatewayID (by decide)).trans (kept .gatewayID (by decide))
    phyPayload := ((doc .phyPayload (by decide)).trans (kept .phyPayload (by decide))).trans
      hasData.symm
    phyPayloadSize := ((doc .phyPayloadSize (by decide)).trans
      (kept .phyPayloadSize (by decide))).trans hasSize.symm
    power := ((doc .power (by decide)).trans (kept .power (by decide))).trans hasPower.symm
    modulation := ((doc .modulation (by decide)).trans (kept .modulation (by decide))).trans
      hasModu.symm
    frequency := by
      intro there x found converted _
      obtain rfl := Option.some.inj (hasFreq.symm.trans found)
      obtain rfl := Except.ok.inj (number.symm.trans converted)
      exact (doc .frequency (by decide)).trans (kept .frequency (by decide))
    lora := by
      intro text found
      obtain rfl := Option.some.inj (hasDatr.symm.trans found)
      rcases echoDatr_eq_some parsed with ⟨_, sf, bw, same, read, rfl⟩ | ⟨isNumber, _⟩ |
        ⟨_, noText, _⟩
      · obtain rfl := Json.str.inj same
        exact ⟨sf, bw, read, (doc .bandwidth (by decide)).trans rfl,
          (doc .spreadingFactor (by decide)).trans (Draft.get?_set_self _ _ _)⟩
      · cases isNumber
      · exact absurd rfl (noText text)
    fsk := by
      intro rate found isNumber
      obtain rfl := Option.some.inj (hasDatr.symm.trans found)
      rcases echoDatr_eq_some parsed with ⟨_, _, _, rfl, _⟩ | ⟨_, rfl⟩ | ⟨other, _⟩
      · cases isNumber
      · exact (doc .fskDataRate (by decide)).trans (Draft.get?_set_self _ _ _)
      · rw [other] at isNumber
        cases isNumber
    fskFreqDev := dev
    codeRate := rate
    inversion
    timing := by
      have before : (echoOptions draft txpk).get? .timing = none :=
        (get?_echoOptions draft txpk (by decide)).trans (rated.base _ (by simp))
      rw [hasImme]
      cases imme with
      | bool imme =>
        refine (Draft.get?_set_self (echoOptions draft txpk) .timing _).trans ?_
        cases imme <;> rfl
      | _ => exact before }

/-- What the translator of a sent downlink publishes. -/
theorem reports_publishDownlink (env : Env) {downlink txpk : Json}
    (entry : downlink.get? "txpk" = some txpk) (complete : txpk.isObject → SafeTxpk txpk) :
    List.Forall₂ (ReportOf env)
      (if (member txpk "freq").isNumber ∧ readableRate (member txpk "datr") then [txpk] else [])
      (reports (publishChirpstackFormatDownlinkJson env downlink).events) := by
  have hidden (j : Json) (key : String) : publication (.access j key) = none := rfl
  have read {j v : Json} {key : String} (found : j.get? key = some v) :
      (access j key).observe publication = pure v := by
    rw [observe_access publication hidden, found]
  rw [reports_eq_published]
  by_cases object : txpk.isObject
  · obtain ⟨size, data, freq, hasFreq, further⟩ := complete object
    obtain ⟨size, hasSize⟩ := (Json.contains_eq_true_iff _ _).mp size
    obtain ⟨data, hasData⟩ := (Json.contains_eq_true_iff _ _).mp data
    cases number : freq.asDouble with
    | error e =>
      -- A frequency that is no number throws.
      have wrong : ¬ freq.isNumber = true := by
        rw [← Json.asDouble_ok_iff, number]
        simp
      have thrown : (convert (.error e : Except JsonError Float)).observe publication =
        Eff.raise (.throws (.json e)) := rfl
      rw [member_of_get? hasFreq, if_neg (fun both => wrong both.1)]
      simp only [publishChirpstackFormatDownlinkJson, encodeEui_eq, Eff.pure_bind,
        Eff.observe_bind, read entry, read hasSize, read hasData, read hasFreq, number, thrown,
        Eff.raise_bind, Eff.events_raise]
      exact .nil
    | ok megahertz =>
      have isNumber := (Json.asDouble_ok_iff freq).mp ⟨_, number⟩
      obtain ⟨power, modu, datr, hasDatr, last⟩ := further isNumber
      obtain ⟨power, hasPower⟩ := (Json.contains_eq_true_iff _ _).mp power
      obtain ⟨modu, hasModu⟩ := (Json.contains_eq_true_iff _ _).mp modu
      rw [observe_echo env entry hasSize hasData hasFreq hasPower hasModu hasDatr, echoRun, number,
        member_of_get? hasFreq, member_of_get? hasDatr]
      dsimp only
      cases parsed : echoDatr (echoBase (gatewayId env) size data power modu megahertz) datr with
      | none =>
        have stops := (echoDatr_eq_none_iff _ datr).mp parsed
        rw [if_neg (fun both => stops ((readableRate_iff datr).mp both.2))]
        exact .nil
      | some draft =>
        have goesOn : UsableDatr datr := by
          by_contra stops
          rw [(echoDatr_eq_none_iff _ datr).mpr stops] at parsed
          cases parsed
        obtain ⟨imme, hasImme⟩ := (Json.contains_eq_true_iff _ _).mp (last goesOn)
        rw [if_pos ⟨isNumber, (readableRate_iff datr).mpr goesOn⟩, hasImme]
        exact .cons (reportOf_echo env hasSize hasData hasFreq hasPower hasModu hasDatr hasImme
          number parsed) .nil
  · -- Reading a member of anything else throws.
    have nothing (key : String) : txpk.get? key = none := by
      cases found : txpk.get? key with
      | none => rfl
      | some v => exact absurd (Json.isObject_of_get? found) object
    have absent : member txpk "freq" = .null := by
      rw [member, nothing]
      rfl
    rw [absent, if_neg (fun both => Bool.noConfusion both.1)]
    simp only [publishChirpstackFormatDownlinkJson, encodeEui_eq, Eff.pure_bind, Eff.observe_bind,
      read entry, observe_access publication hidden, nothing, Eff.raise_bind, Eff.events_raise]
    exact .nil

/-- The echo of a message reports it, if there is something to report. -/
theorem reports_echoDownlink (env : Env) {message : Bytes} (complete : Complete env message) :
    List.Forall₂ (ReportOf env) (reportable env message).toList
      (reports (echoDownlink env message).events) := by
  have body (x : Handler Int) :
      reports (Eff.tryCatch x caught fun _ => pure (-1)).events = reports x.events := by
    rw [Eff.tryCatch]
    split
    · rfl
    · split
      · simp
      · rfl
  rw [echoDownlink, body, reportable]
  cases parsed : env.parse message with
  | none =>
    rw [parse, parsed]
    exact .nil
  | some downlink =>
    rw [parse, parsed, Eff.pure_bind, Eff.events_bind_pure, Eff.when]
    dsimp only [Option.bind_eq_bind, Option.bind_some]
    cases entry : downlink.get? "txpk" with
    | none =>
      rw [if_neg (by simp [Json.contains, entry])]
      exact .nil
    | some txpk =>
      have there : downlink.contains "txpk" := (Json.contains_eq_true_iff _ _).mpr ⟨_, entry⟩
      by_cases named : env.topicPubDownlink = ""
      · rw [if_neg (fun both => both.1 named)]
        simp [named, reports]
      · have told := reports_publishDownlink env entry (complete named downlink txpk parsed entry)
        rw [if_pos ⟨named, there⟩]
        simp only [Option.bind_some, named, ne_eq, not_false_eq_true, true_and]
        split at told
        next both =>
          rw [if_pos both]
          exact told
        next neither =>
          rw [if_neg neither]
          exact told

/-- The action tells nothing of a downlink and takes none from the queue. -/
def Action.Reticent : Action → Prop
  | .publish .downlink _ | .pullResp _ _ => False
  | _ => True

instance : Reads Action.Reticent := ⟨fun _ _ => trivial, fun _ => trivial⟩
instance : Publishes Action.Reticent .rxpk := ⟨fun _ => trivial⟩
instance : Publishes Action.Reticent .gatewayStat := ⟨fun _ => trivial⟩
instance : Publishes Action.Reticent .downlinkAck := ⟨fun _ => trivial⟩

/-- What is reported are the downlinks that have been handed over, in order, as far as there is
something to report. -/
def Tells (env : Env) (actions : List Action) : Prop :=
  List.Forall₂ (ReportOf env) ((handovers actions).filterMap (reportable env)) (reports actions)

theorem tells_append {env : Env} {first second : List Action} (tells : Tells env first)
    (more : Tells env second) : Tells env (first ++ second) := by
  rw [Tells, reports, handovers]
  iterate 3 rw [List.filterMap_append]
  exact List.rel_append tells more

theorem tells_of_reticent (env : Env) {actions : List Action}
    (reticent : ∀ a ∈ actions, a.Reticent) : Tells env actions := by
  have told : reports actions = [] := by
    rw [reports, List.filterMap_eq_nil_iff]
    intro a member
    have nothing := reticent a member
    cases a with
    | publish topic doc => cases topic <;> simp_all [Action.Reticent]
    | _ => rfl
  have handed : handovers actions = [] := by
    rw [handovers, List.filterMap_eq_nil_iff]
    intro a member
    have nothing := reticent a member
    cases a <;> simp_all [Action.Reticent]
  rw [Tells, told, handed]
  exact .nil

theorem handovers_echoDownlink (env : Env) (message : Bytes) :
    handovers (echoDownlink env message).events = [] := by
  rw [handovers, List.filterMap_eq_nil_iff]
  intro a member
  have nothing : a.Silent := emits_echoDownlink env message a member
  cases a <;> simp_all [Action.Silent]

/-- A call of `read_cb` reports what it hands over. -/
theorem tells_readCb (env : Env) {queue : List Bytes} {datagram : Bytes}
    (telling : IsPullData datagram →
      ∀ message ∈ queue.head?, message.length ≤ 996 ∧ Complete env message) :
    Tells env (readCb env queue datagram).events := by
  rcases readCb_cases Action.Reticent env queue datagram trivial with ⟨_, reticent⟩ |
    ⟨isPull, pull⟩
  · exact tells_of_reticent env reticent
  · rw [pull]
    cases queue with
    | nil => exact tells_of_reticent env (List.forall_mem_singleton.mpr trivial)
    | cons message rest =>
      obtain ⟨fits, complete⟩ := telling isPull message rfl
      rw [responsePktPullData_fits env fits]
      -- The report of the message comes right behind its handover.
      change List.Forall₂ (ReportOf env)
        ((message :: handovers (echoDownlink env message).events).filterMap (reportable env))
        (reports (echoDownlink env message).events)
      rw [handovers_echoDownlink]
      have told := reports_echoDownlink env complete
      cases report : reportable env message <;> simpa [report] using told

/-- What the MQTT thread has still to do tells nothing of a downlink. -/
structure Faithful (env : Env) (s : State) : Prop where
  reticent : ∀ a ∈ s.mqtt, a.Reticent
  tells : Tells env s.trace

theorem step_faithful (env : Env) (s : State) (e : Event) (faithful : Faithful env s)
    (telling : Telling env s e) : Faithful env (step env s e) := by
  obtain ⟨reticent, tells⟩ := faithful
  obtain ⟨pending, new, trace, cases⟩ :=
    step_traced env s e (emits_onMessage (fun _ => trivial) env) reticent
  refine ⟨pending, ?_⟩
  rw [trace]
  apply tells_append tells
  rcases cases with ⟨_, quiet⟩ | ⟨bytes, heard, rfl⟩
  · exact tells_of_reticent env quiet
  · obtain ⟨up, rfl⟩ := hears_eq_some heard
    exact tells_readCb env (telling up)

/-- In every run in which no PULL_DATA finds a downlink that is too long or lacks a member that a
report reads, the documents about downlinks are the reports of those that have been handed over and
can be reported, one for each and in the same order. -/
theorem downlinks_reported (env : Env) (events : List Event)
    (telling : Guarded (step env) (Telling env) State.init events) :
    List.Forall₂ (ReportOf env)
      ((handovers (run (step env) State.init events).trace).filterMap (reportable env))
      (reports (run (step env) State.init events).trace) := by
  have faithful := guarded_invariant (step env) (Telling env) (Faithful env) (step_faithful env)
    State.init ⟨List.forall_mem_nil _, .nil⟩ events telling
  exact faithful.tells

/-- The downlink is handed over, and one document reports it. -/
theorem fsk_downlink_reported :
    let s := run (step (textEnv fskDownlinkText fskDownlink)) State.init
      [.message fskDownlinkText, .mqttStep, .datagram [2, 0, 0, 2]]
    ∃ doc, reports s.trace = [doc] ∧
      ReportOf (textEnv fskDownlinkText fskDownlink) (member fskDownlink "txpk") doc := by
  have parsed := textEnv_parse fskDownlinkText fskDownlink
  have queued := run_message parsed rfl
  have short : fskDownlinkText.length ≤ 996 := by decide +kernel
  have pull : IsPullData [2, 0, 0, 2] := by decide
  simp only [run_cons, run_nil] at queued
  have told := downlinks_reported (textEnv fskDownlinkText fskDownlink)
    [.message fskDownlinkText, .mqttStep, .datagram [2, 0, 0, 2]] ⟨trivial, trivial, by
      rw [queued]
      intro _ _ message waiting
      cases waiting
      exact ⟨short, fun _ j txpk same found object => by
        obtain rfl : fskDownlink = j := by simpa [parsed] using same
        obtain rfl := Option.some.inj found
        exact ⟨rfl, rfl, _, rfl, fun _ => ⟨rfl, rfl, _, rfl, fun _ => rfl⟩⟩⟩, trivial⟩
  have handed : handovers (run (step (textEnv fskDownlinkText fskDownlink)) State.init
      [.message fskDownlinkText, .mqttStep, .datagram [2, 0, 0, 2]]).trace =
        [fskDownlinkText] := by
    simp only [run_cons, run_nil]
    rw [queued]
    change handovers ((List.foldl State.perform _ (readCb _ [fskDownlinkText] _).events).finish
      _).trace = _
    rw [trace_finish, trace_performs, readCb_pull _ _ pull, responsePktPullData_fits _ short]
    exact congrArg (fskDownlinkText :: ·) (handovers_echoDownlink _ _)
  have worth : reportable (textEnv fskDownlinkText fskDownlink) fskDownlinkText =
      some (member fskDownlink "txpk") := by
    rw [reportable, parsed]
    rfl
  rw [handed, List.filterMap_cons_some worth, List.filterMap_nil] at told
  obtain ⟨doc, rest, report, last, shape⟩ := List.forall₂_cons_left_iff.mp told
  rw [List.forall₂_nil_left_iff.mp last] at shape
  exact ⟨doc, shape, report⟩

end LorawanFeeds.Bridge
