import LorawanFeeds.Bridge.Handlers

/-!
# The downlink queue

Nothing is lost, duplicated or reordered between the network server and the concentrator,
whatever the schedule of the two threads and however a handler ends, as long as no payload is
longer than `buffer_down`: the copy into it is bounded only by the length of the payload.
-/
namespace LorawanFeeds.Bridge

open Lib

/-- The action leaves the queue alone. -/
def Action.Quiet : Action → Prop
  | .push _ | .pop | .pullResp _ _ => False
  | _ => True

/-- The action takes nothing from the queue. -/
def Action.Offers : Action → Prop
  | .pop | .pullResp _ _ => False
  | _ => True

/-- A predicate that the translators' own actions satisfy. -/
class Translates (P : Action → Prop) : Prop where
  access : ∀ j key, P (.access j key)
  statTb : ∀ index, P (.statTb index)
  publish : ∀ topic doc, P (.publish topic doc)

/-- A predicate that the reads of the translators satisfy. -/
class Reads (P : Action → Prop) : Prop where
  access : ∀ j key, P (.access j key)
  statTb : ∀ index, P (.statTb index)

/-- A predicate that the documents for a topic satisfy. -/
class Publishes (P : Action → Prop) (topic : Topic) : Prop where
  publish : ∀ doc, P (.publish topic doc)

instance {P : Action → Prop} [Translates P] : Reads P := ⟨Translates.access, Translates.statTb⟩

instance {P : Action → Prop} [Translates P] (topic : Topic) : Publishes P topic :=
  ⟨Translates.publish topic⟩

instance : Translates Action.Quiet := ⟨fun _ _ => trivial, fun _ => trivial, fun _ _ => trivial⟩

instance : Translates Action.Offers := ⟨fun _ _ => trivial, fun _ => trivial, fun _ _ => trivial⟩

@[simp] theorem emits_convert {P : Action → Prop} {α : Type} (x : Except JsonError α) :
    Eff.Emits P (convert x) :=
  Eff.emits_ofExcept _ _

@[simp] theorem emits_parse {P : Action → Prop} (env : Env) (text : Bytes) :
    Eff.Emits P (parse env text) := by
  rw [parse]
  split <;> simp

section Translators

variable {P : Action → Prop} [Reads P]

@[simp] theorem emits_access (j : Json) (key : String) : Eff.Emits P (access j key) := by
  rw [access]
  simp only [Eff.emits_bind, Eff.emits_emit, Reads.access, true_and]
  intro _ _
  split <;> simp

@[simp] theorem emits_copyIfPresent {F : Type} [DecidableEq F] {S : Schema F} (draft : Draft S)
    (place : F) (source : Json) (key : String) :
    Eff.Emits P (copyIfPresent draft place source key) := by
  rw [copyIfPresent]
  split <;> simp

@[simp] theorem emits_uplinkCrcStatus (draft : UplinkDraft) (rxpk : Json) :
    Eff.Emits P (uplinkCrcStatus draft rxpk) := by
  rw [uplinkCrcStatus]
  split
  · simp only [Eff.emits_bind, emits_access, emits_convert, Eff.emits_emit, Reads.statTb,
      true_and]
    intros
    split <;> simp
  · simp

@[simp] theorem emits_uplinkRxInfo (draft : UplinkDraft) (rxpk : Json) :
    Eff.Emits P (uplinkRxInfo draft rxpk) := by
  simp [uplinkRxInfo]

@[simp] theorem emits_uplinkPacket [Publishes P .rxpk] (env : Env) (draft : UplinkDraft)
    (rxpk : Json) : Eff.Emits P (uplinkPacket env draft rxpk) := by
  rw [uplinkPacket]
  simp only [encodeEui_eq, Eff.pure_bind, Eff.emits_bind, emits_access, true_and]
  intros
  split
  · simp only [Eff.emits_bind, emits_access, true_and]
    intros
    split <;> simp [Publishes.publish]
  · simp

@[simp] theorem emits_uplinkLoop [Publishes P .rxpk] (env : Env) (draft : UplinkDraft)
    (packets : List Json) : Eff.Emits P (uplinkLoop env draft packets) := by
  induction packets generalizing draft with
  | nil => simp [uplinkLoop]
  | cons rxpk rest ih => simp [uplinkLoop, ih]

@[simp] theorem emits_publishUplink [Publishes P .rxpk] (env : Env) (j : Json) :
    Eff.Emits P (publishChirpstackFormatUplinkJson env j) := by
  simp [publishChirpstackFormatUplinkJson]

@[simp] theorem emits_publishStat [Publishes P .gatewayStat] (env : Env) (j : Json) :
    Eff.Emits P (publishChirpstackFormatStatJson env j) := by
  simp [publishChirpstackFormatStatJson, Publishes.publish]

@[simp] theorem emits_publishDownlink [Publishes P .downlink] (env : Env) (j : Json) :
    Eff.Emits P (publishChirpstackFormatDownlinkJson env j) := by
  rw [publishChirpstackFormatDownlinkJson]
  simp only [encodeEui_eq, Eff.pure_bind, Eff.emits_bind, emits_access, emits_convert, true_and]
  intros
  split <;> simp [Publishes.publish]

@[simp] theorem emits_publishDownlinkAck [Publishes P .downlinkAck] (env : Env) (j : Json) :
    Eff.Emits P (publishChirpstackFormatDownlinkAckJson env j) := by
  simp [publishChirpstackFormatDownlinkAckJson, Publishes.publish]

omit [Reads P] in
@[simp] theorem emits_publishException [Publishes P .downlinkAck] (env : Env) (text : String) :
    Eff.Emits P (publishRemoteDownlinkItemsException env text) := by
  simp [publishRemoteDownlinkItemsException, Publishes.publish]

theorem emits_recievePktTxAck [Publishes P .downlinkAck] (env : Env) (datagram : Bytes) :
    Eff.Emits P (recievePktTxAck env datagram) := by
  apply Eff.emits_tryCatch <;> simp

theorem emits_echoDownlink [Publishes P .downlink] (env : Env) (message : Bytes) :
    Eff.Emits P (echoDownlink env message) := by
  apply Eff.emits_tryCatch <;> simp

end Translators

/-! ### What each handler does to the queue -/

theorem emits_responsePktPushData {P : Action → Prop} [Reads P] [Publishes P .rxpk]
    [Publishes P .gatewayStat] (env : Env) (datagram : Bytes)
    (acks : P (.ack (ackDatagram datagram pktPushAck))) :
    Eff.Emits P (responsePktPushData env datagram) := by
  simp only [responsePktPushData, Eff.emits_bind, Eff.emits_emit, acks, true_and]
  intro _ _
  apply Eff.emits_tryCatch <;> simp

section Messages

variable {P : Action → Prop} [Reads P] [Publishes P .downlinkAck]
  (pushes : ∀ payload, P (.push payload))

include pushes

theorem emits_downlinkItem (env : Env) (item : Json) : Eff.Emits P (downlinkItem env item) := by
  have timing (draft : TxpkDraft) : Eff.Emits P (downlinkTiming env draft item) := by
    simp only [downlinkTiming, Eff.emits_bind, emits_access, emits_convert, true_and]
    intros
    split
    · simp
    · split
      · split <;> simp
      · simp
  have modulation (draft : TxpkDraft) : Eff.Emits P (downlinkModulation env draft item) := by
    simp only [downlinkModulation, Eff.emits_bind, emits_access, emits_convert, true_and]
    intros
    split
    · simp
    · split <;> simp
  simp only [downlinkItem, Eff.emits_bind, emits_access, emits_convert, timing, modulation, true_and]
  intros
  split <;> simp [pushes]

theorem emits_downlinkLoop (env : Env) (items : List Json) :
    Eff.Emits P (downlinkLoop env items) := by
  induction items with
  | nil => simp [downlinkLoop]
  | cons item rest ih =>
    simp only [downlinkLoop, Eff.emits_bind, emits_downlinkItem pushes, true_and]
    intros
    split <;> simp [ih]

theorem emits_onMessage (env : Env) (payload : Bytes) : Eff.Emits P (onMessage env payload) := by
  rw [onMessage]
  split
  · simp
  · split
    · simp [pushes]
    · split
      · simp only [parseRemoteDownlinkItemsJson, encodeEui_eq, Eff.pure_bind, Eff.emits_bind,
          emits_access, emits_convert, true_and]
        intros
        split
        · simp
        · simp only [Eff.emits_bind, emits_access, true_and]
          intros
          exact Eff.emits_tryCatch _ _ _ (emits_downlinkLoop pushes env _) (by simp)
      · simp

end Messages

theorem offers_onMessage (env : Env) (payload : Bytes) :
    Eff.Emits Action.Offers (onMessage env payload) :=
  emits_onMessage (fun _ => trivial) env payload

/-- A PULL_DATA datagram, as `read_cb` recognises it. -/
def IsPullData (datagram : Bytes) : Prop :=
  datagram ≠ [] ∧ bufferUp datagram 0 = protocolVersion ∧ bufferUp datagram 3 = pktPullData

instance (datagram : Bytes) : Decidable (IsPullData datagram) := by
  unfold IsPullData
  infer_instance

/-- `read_cb` either does nothing but translate and acknowledge a PUSH_DATA, or is a call of
`response_pkt_pull_data`. -/
theorem readCb_cases (P : Action → Prop) [Reads P] [Publishes P .rxpk] [Publishes P .gatewayStat]
    [Publishes P .downlinkAck] (env : Env) (queue : List Bytes) (datagram : Bytes)
    (acks : P (.ack (ackDatagram datagram pktPushAck))) :
    (¬ IsPullData datagram ∧ Eff.Emits P (readCb env queue datagram)) ∨
    (IsPullData datagram ∧
      (readCb env queue datagram).events = (responsePktPullData env queue datagram).events) := by
  -- Dropped, a PULL_DATA, or one of the other types.
  by_cases rejected : datagram = [] ∨ bufferUp datagram 0 ≠ protocolVersion
  · left
    constructor
    · intro pull
      exact rejected.elim pull.1 (· pull.2.1)
    · simp [readCb, rejected]
  · simp only [readCb, if_neg rejected, Eff.events_bind_pure, Eff.Emits]
    have accepted := not_or.mp rejected
    by_cases pull : bufferUp datagram 3 = pktPullData
    · right
      have other : bufferUp datagram 3 ≠ pktPushData := by rw [pull]; decide
      exact ⟨⟨accepted.1, not_not.mp accepted.2, pull⟩,
        by simp only [udpPktCb, if_neg other, if_pos pull]⟩
    · left
      constructor
      · intro isPull
        exact pull isPull.2.2
      · simp only [udpPktCb, if_neg pull]
        split
        · exact emits_responsePktPushData env datagram acks
        · split
          · exact emits_recievePktTxAck env datagram
          · simp

theorem responsePktPullData_nil (env : Env) (datagram : Bytes) :
    responsePktPullData env [] datagram =
      ⟨[.ack (ackDatagram datagram pktPullAck)], .ok 0⟩ := rfl

/-- A payload that fits is handed over and echoed. -/
theorem responsePktPullData_fits (env : Env) {message : Bytes} (fits : message.length ≤ 996)
    (rest : List Bytes) (datagram : Bytes) :
    responsePktPullData env (message :: rest) datagram =
      ⟨.pop :: .memcpy 4 message.length ::
          .pullResp message (pullRespDatagram datagram message) :: (echoDownlink env message).events,
        (echoDownlink env message).result⟩ := by
  have inside : 4 + message.length ≤ bufferDownSize := by
    rw [bufferDownSize]
    omega
  rw [responsePktPullData, if_pos inside]
  rfl

/-- A payload that does not fit is only taken from the queue and copied. -/
theorem responsePktPullData_overruns (env : Env) {message : Bytes} (long : ¬ message.length ≤ 996)
    (rest : List Bytes) (datagram : Bytes) :
    responsePktPullData env (message :: rest) datagram =
      ⟨[.pop, .memcpy 4 message.length], .error .undefined⟩ := by
  have outside : ¬ 4 + message.length ≤ bufferDownSize := by
    rw [bufferDownSize]
    omega
  rw [responsePktPullData, if_neg outside]
  rfl

/-! ### Conservation -/

/-- What was handed over, followed by what waits, is what was pushed; and the call in progress
only offers. -/
structure Conserved (s : State) : Prop where
  queue : handovers s.trace ++ s.queueDownlink = pushes s.trace
  mqtt : ∀ a ∈ s.mqtt, a.Offers

theorem perform_mqtt (s : State) (a : Action) : (s.perform a).mqtt = s.mqtt := by
  cases a <;> rfl

theorem perform_conserved (s : State) (a : Action) (offers : a.Offers) (before : Conserved s) :
    Conserved (s.perform a) := by
  constructor
  · have queue := before.queue
    -- Only a push changes either side, and it extends both.
    cases a <;> simp_all [State.perform, handovers, pushes, Action.Offers]
    rw [← queue, List.append_assoc]
  · rw [perform_mqtt]
    exact before.mqtt

theorem performs_conserved (s : State) (actions : List Action)
    (offers : ∀ a ∈ actions, a.Offers) (before : Conserved s) :
    Conserved (actions.foldl State.perform s) := by
  induction actions generalizing s with
  | nil => exact before
  | cons a rest ih =>
    exact ih _ (fun b member => offers b (List.mem_cons_of_mem a member))
      (perform_conserved s a (offers a (by simp)) before)

theorem finish_conserved (s : State) (result : Except Fault Unit) (before : Conserved s) :
    Conserved (s.finish result) := by
  cases result with
  | ok => exact before
  | error => exact ⟨before.queue, before.mqtt⟩

theorem Action.Quiet.offers {a : Action} (quiet : a.Quiet) : a.Offers := by
  cases a <;> simp_all [Action.Quiet, Action.Offers]

/-- The payload that waits, if there is one, fits `buffer_down`. -/
def HeadFits (queue : List Bytes) : Prop := ∀ payload ∈ queue.head?, payload.length ≤ 996

/-- A PULL_DATA that reaches the bridge does not find a payload that is too long. -/
def Fitting (s : State) : Event → Prop
  | .datagram bytes => s.down = none → IsPullData bytes → HeadFits s.queueDownlink
  | _ => True

/-- Taking the head of the queue and handing it over moves it from one side to the other. -/
theorem pull_conserved (env : Env) (s : State) (datagram : Bytes) (before : Conserved s)
    (fits : HeadFits s.queueDownlink) :
    Conserved ((responsePktPullData env s.queueDownlink datagram).events.foldl
      State.perform s) := by
  cases waiting : s.queueDownlink with
  | nil =>
    rw [responsePktPullData_nil]
    exact performs_conserved s _ (by simp [Action.Offers]) before
  | cons message rest =>
    -- Three actions move the head; the echo behind them leaves the queue alone.
    rw [responsePktPullData_fits env (fits message (by rw [waiting]; rfl)), List.foldl_cons,
      List.foldl_cons, List.foldl_cons]
    apply performs_conserved
    · exact fun a member => (emits_echoDownlink (P := Action.Quiet) env message a member).offers
    · have queue := before.queue
      rw [waiting] at queue
      constructor
      · simpa [State.perform, handovers, pushes, waiting] using queue
      · exact before.mqtt

theorem step_conserved (env : Env) (s : State) (e : Event) (before : Conserved s)
    (fitting : Fitting s e) : Conserved (step env s e) := by
  simp only [step]
  split
  · exact before
  next up =>
    have running : s.down = none := by simpa using up
    cases e with
    | message payload =>
      dsimp only
      split
      · split
        · -- The new call has done nothing yet, and will only offer.
          exact finish_conserved s _ before
        · exact ⟨before.queue, offers_onMessage env payload⟩
      · exact before
    | mqttStep =>
      dsimp only
      split
      · exact before
      next last only =>
        -- The last action, and the end of the call.
        apply finish_conserved
        apply perform_conserved
        · exact before.mqtt last (by simp [only])
        · exact ⟨before.queue, by simp⟩
      next next rest _ more =>
        apply perform_conserved
        · exact before.mqtt next (by simp [more])
        · exact ⟨before.queue, fun a member => before.mqtt a (by simp [more, member])⟩
    | datagram bytes =>
      dsimp only
      -- Either the queue is left alone, or its head is taken.
      apply finish_conserved
      rcases readCb_cases Action.Quiet env s.queueDownlink bytes trivial with
        ⟨_, quiet⟩ | ⟨isPull, pull⟩
      · exact performs_conserved s _ (fun a member => (quiet a member).offers) before
      · rw [pull]
        exact pull_conserved env s bytes before (fitting running isPull)

/-- The action sends no PULL_ACK. -/
def Action.NoPullAck : Action → Prop
  | .ack datagram | .pullResp _ datagram => datagram.getD 3 0 ≠ pktPullAck
  | _ => True

instance : Translates Action.NoPullAck :=
  ⟨fun _ _ => trivial, fun _ => trivial, fun _ _ => trivial⟩

theorem ackDatagram_kind (datagram : Bytes) (kind : UInt8) :
    (ackDatagram datagram kind).getD 3 0 = kind := rfl

theorem pullRespDatagram_kind (datagram message : Bytes) :
    (pullRespDatagram datagram message).getD 3 0 = pktPullResp := by
  rw [pullRespDatagram, List.getD_eq_getElem?_getD, List.getElem?_take_of_lt (by decide)]
  rfl

theorem noPullAck_of_emits {x : Handler Unit} (emits : Eff.Emits Action.NoPullAck x) :
    ¬ ∃ d ∈ sent x.events, d.getD 3 0 = pktPullAck := by
  rintro ⟨d, member, kind⟩
  obtain ⟨a, occurs, sends⟩ := List.mem_filterMap.mp member
  have excluded := emits a occurs
  cases a <;> simp_all [Action.NoPullAck]

/-- A PULL_ACK answers a PULL_DATA that finds the queue empty, and nothing else. -/
theorem pullAck_iff (env : Env) {queue : List Bytes} {datagram : Bytes}
    (fits : IsPullData datagram → HeadFits queue) :
    (∃ d ∈ sent (readCb env queue datagram).events, d.getD 3 0 = pktPullAck) ↔
      IsPullData datagram ∧ queue = [] := by
  have acks : Action.NoPullAck (.ack (ackDatagram datagram pktPushAck)) := by
    rw [Action.NoPullAck, ackDatagram_kind]
    decide
  rcases readCb_cases Action.NoPullAck env queue datagram acks with ⟨other, emits⟩ | ⟨pull, same⟩
  · simp only [noPullAck_of_emits emits, other, false_and]
  · have fits := fits pull
    simp only [pull, same, true_and]
    cases queue with
    | nil =>
      rw [responsePktPullData_nil]
      simp only [sent, List.filterMap_cons, List.filterMap_nil, List.mem_singleton, exists_eq_left,
        ackDatagram_kind]
    | cons message rest =>
      -- A waiting downlink goes out as PULL_RESP, and its echo sends nothing.
      have silent : Eff.Emits Action.NoPullAck
          (⟨(responsePktPullData env (message :: rest) datagram).events, .ok ()⟩ : Handler Unit) := by
        rw [responsePktPullData_fits env (fits message rfl)]
        intro a member
        simp only [List.mem_cons] at member
        rcases member with rfl | rfl | rfl | echoed
        · trivial
        · trivial
        · rw [Action.NoPullAck, pullRespDatagram_kind]
          decide
        · exact emits_echoDownlink env message a echoed
      simpa using noPullAck_of_emits silent

/-- What is handed over, followed by what waits, is what was pushed; and a PULL_ACK means that
nothing waits. -/
structure Fifo (env : Env) (s : State) : Prop where
  queue : handovers s.trace ++ s.queueDownlink = pushes s.trace
  pullAck : ∀ datagram, (IsPullData datagram → HeadFits s.queueDownlink) →
    ((∃ d ∈ sent (readCb env s.queueDownlink datagram).events, d.getD 3 0 = pktPullAck) ↔
      IsPullData datagram ∧ s.queueDownlink = [])

/-- The downlink queue is a FIFO without loss or duplication, over every schedule of the two threads
and through every error exit, if no PULL_DATA finds a payload of more than 996 bytes. -/
theorem downlink_queue_fifo (env : Env) (events : List Event)
    (fitting : Guarded (step env) Fitting State.init events) :
    Fifo env (run (step env) State.init events) := by
  have conserved := guarded_invariant (step env) Fitting Conserved (step_conserved env) State.init
    ⟨rfl, by simp [State.init]⟩ events fitting
  exact ⟨conserved.queue, fun _ => pullAck_iff env⟩

/-! ### What a PULL_RESP carries -/

/-- The PULL_RESP for a payload is its header, the payload and zeros up to the size of the
buffer, and the copy stayed inside the buffer. -/
def WholeDownlink (datagram payload : Bytes) (actions : List Action) : Prop :=
  (∃ d, .pullResp payload d ∈ actions ∧
    d = [protocolVersion, bufferUp datagram 1, bufferUp datagram 2, pktPullResp] ++ payload ++
      List.replicate (bufferDownSize - (4 + payload.length)) 0 ∧ d.length = bufferDownSize) ∧
  ∀ offset length, .memcpy offset length ∈ actions → offset + length ≤ bufferDownSize

/-- The action copies nothing into `buffer_down`. -/
def Action.NoCopy : Action → Prop
  | .memcpy _ _ => False
  | _ => True

instance : Translates Action.NoCopy := ⟨fun _ _ => trivial, fun _ => trivial, fun _ _ => trivial⟩

theorem pullRespDatagram_eq (datagram message : Bytes) (fits : 4 + message.length ≤ bufferDownSize) :
    pullRespDatagram datagram message = header datagram pktPullResp ++ message ++
      List.replicate (bufferDownSize - (4 + message.length)) 0 := by
  have size : (header datagram pktPullResp ++ message).length = 4 + message.length := by
    simp only [header, List.length_append, List.length_cons, List.length_nil]
  rw [pullRespDatagram, List.take_append, size, List.take_of_length_le (by omega),
    List.take_replicate, Nat.min_eq_left (by omega)]

/-- A PULL_DATA is handled by `response_pkt_pull_data`. -/
theorem readCb_pull (env : Env) (queue : List Bytes) {datagram : Bytes} (pull : IsPullData datagram) :
    (readCb env queue datagram).events = (responsePktPullData env queue datagram).events := by
  rcases readCb_cases Action.Quiet env queue datagram trivial with ⟨other, _⟩ | ⟨_, same⟩
  · exact absurd pull other
  · exact same

theorem length_le_of_wholeDownlink (env : Env) {payload : Bytes} {rest : List Bytes}
    {datagram : Bytes} (pull : IsPullData datagram)
    (whole : WholeDownlink datagram payload (readCb env (payload :: rest) datagram).events) :
    payload.length ≤ 996 := by
  by_contra long
  rw [readCb_pull env _ pull, responsePktPullData_overruns env long] at whole
  have copied := whole.2 4 payload.length (by simp)
  simp only [bufferDownSize] at copied
  omega

/-- A PULL_RESP carries its whole downlink exactly when the payload has at most 996 bytes. -/
theorem whole_downlink_iff (env : Env) (s : State) (payload : Bytes) (rest : List Bytes)
    (datagram : Bytes) (waiting : s.queueDownlink = payload :: rest) (pull : IsPullData datagram) :
    WholeDownlink datagram payload (readCb env s.queueDownlink datagram).events ↔
      payload.length ≤ 996 := by
  rw [waiting]
  refine ⟨length_le_of_wholeDownlink env pull, fun short => ?_⟩
  have fits : 4 + payload.length ≤ bufferDownSize := by simp only [bufferDownSize]; omega
  rw [readCb_pull env _ pull, responsePktPullData_fits env short]
  -- The bytes, their number, and the one copy.
  refine ⟨⟨pullRespDatagram datagram payload, by simp, ?_, ?_⟩, ?_⟩
  · rw [pullRespDatagram_eq datagram payload fits, header, pull.2.1]
  · rw [pullRespDatagram_eq datagram payload fits]
    simp only [header, List.length_append, List.length_cons, List.length_nil, List.length_replicate]
    omega
  · intro offset length member
    simp only [List.mem_cons, reduceCtorEq, Action.memcpy.injEq, false_or] at member
    rcases member with ⟨rfl, rfl⟩ | echoed
    · exact fits
    · -- The echo copies nothing into the buffer.
      exact absurd (emits_echoDownlink (P := Action.NoCopy) env payload _ echoed) id

/-- A message with a `txpk` is queued as it came. -/
theorem run_message {env : Env} {text : Bytes} {doc : Json} (parsed : env.parse text = some doc)
    (txpk : doc.contains "txpk") :
    run (step env) State.init [.message text, .mqttStep] =
      { queueDownlink := [text], trace := [.push text] } := by
  have called : onMessage env text = ⟨[.push text], .ok ()⟩ := by
    simp only [onMessage, parsed, txpk, if_true]
    rfl
  simp [run, step, called, State.init, State.perform, State.finish]

def nullDownlink : Json := .obj [("txpk", .null)]

/-- `{"txpk":null}` and blanks behind it, as the JSON reader allows. -/
def paddedMessage (blanks : Nat) : Bytes :=
  (['\x7b', '"', 't', 'x', 'p', 'k', '"', ':', 'n', 'u', 'l', 'l', '\x7d'] ++
    List.replicate blanks ' ').map Char.toUInt8

theorem paddedMessage_length (blanks : Nat) : (paddedMessage blanks).length = 13 + blanks := by
  simp only [paddedMessage, List.length_map, List.length_append, List.length_replicate,
    List.length_cons, List.length_nil]

theorem nullDownlink_queue (text : Bytes) :
    (run (step (textEnv text nullDownlink)) State.init [.message text, .mqttStep]).queueDownlink =
      [text] := by
  rw [run_message (textEnv_parse text nullDownlink) rfl]

theorem short_fitting :
    Guarded (step (textEnv (paddedMessage 0) nullDownlink)) Fitting State.init
      [.message (paddedMessage 0), .mqttStep, .datagram [2, 7, 8, 2]] := by
  refine ⟨trivial, trivial, ?_, trivial⟩
  have queued := run_message (textEnv_parse (paddedMessage 0) nullDownlink) rfl
  simp only [run_cons, run_nil] at queued
  rw [queued]
  intro _ _ payload waiting
  cases waiting
  rw [paddedMessage_length]
  decide

/-- A short message is handed over. -/
theorem downlink_queue_fifo_short :
    Fifo (textEnv (paddedMessage 0) nullDownlink)
      (run (step (textEnv (paddedMessage 0) nullDownlink)) State.init
        [.message (paddedMessage 0), .mqttStep, .datagram [2, 7, 8, 2]]) :=
  downlink_queue_fifo _ _ short_fitting

/-- A message with blanks behind it is taken from the queue, and nothing hands it over. -/
theorem padded_downlink_lost :
    ¬ Fifo (textEnv (paddedMessage 1000) nullDownlink)
      (run (step (textEnv (paddedMessage 1000) nullDownlink)) State.init
        [.message (paddedMessage 1000), .mqttStep, .datagram [2, 7, 8, 2]]) := by
  intro fifo
  have queued := run_message (textEnv_parse (paddedMessage 1000) nullDownlink) rfl
  have long : ¬ (paddedMessage 1000).length ≤ 996 := by
    rw [paddedMessage_length]
    decide
  have call := readCb_pull (textEnv (paddedMessage 1000) nullDownlink) [paddedMessage 1000]
    (show IsPullData [2, 7, 8, 2] by decide)
  rw [responsePktPullData_overruns _ long] at call
  have queue := fifo.queue
  simp only [run_cons, run_nil] at queued queue
  rw [queued] at queue
  simp only [step, Option.isSome_none, Bool.false_eq_true, if_false, call] at queue
  generalize (readCb _ _ _).result = result at queue
  cases result <;> simp [State.perform, State.finish, handovers, pushes] at queue

theorem whole_downlink_short :
    WholeDownlink [2, 7, 8, 2] (paddedMessage 0)
      (readCb (textEnv (paddedMessage 0) nullDownlink)
        (run (step (textEnv (paddedMessage 0) nullDownlink)) State.init
          [.message (paddedMessage 0), .mqttStep]).queueDownlink [2, 7, 8, 2]).events :=
  (whole_downlink_iff _ _ (paddedMessage 0) [] [2, 7, 8, 2] (nullDownlink_queue _)
    (by decide)).mpr (by rw [paddedMessage_length]; decide)

/-- A message with blanks behind it does not fit. -/
theorem padded_downlink_overflows :
    ¬ WholeDownlink [2, 7, 8, 2] (paddedMessage 1000)
      (readCb (textEnv (paddedMessage 1000) nullDownlink)
        (run (step (textEnv (paddedMessage 1000) nullDownlink)) State.init
          [.message (paddedMessage 1000), .mqttStep]).queueDownlink [2, 7, 8, 2]).events := by
  rw [nullDownlink_queue]
  intro whole
  have short := length_le_of_wholeDownlink _ (by decide) whole
  rw [paddedMessage_length] at short
  exact absurd short (by decide)

end LorawanFeeds.Bridge
