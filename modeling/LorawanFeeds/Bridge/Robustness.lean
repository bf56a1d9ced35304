import LorawanFeeds.Bridge.Queue
import LorawanFeeds.Bridge.UplinkIsolation
import LorawanFeeds.Bridge.DownlinkItems

/-!
# What the peers can make the bridge do

The bridge guards some of its reads and lets both peers choose the documents the others are
applied to. For each handler the rules of `Eff.Sat` give the exact condition on the input under
which it returns without an undefined read, an index outside of `stat_tb` or a copy past
`buffer_down`; runs all of whose inputs meet the condition are safe.
-/
namespace LorawanFeeds.Bridge

open Lib

/-- The arguments of the action are ones that C++ and the JSON library give a meaning to. -/
def Action.Sound : Action → Prop
  | .access j key => j.contains key
  | .statTb index => 0 ≤ index ∧ index ≤ 2
  | .memcpy offset length => offset + length ≤ bufferDownSize
  | _ => True

/-- The handler returns, and all its actions are sound. -/
abbrev Safe {α : Type} (x : Handler α) : Prop :=
  Eff.Sat Action.Sound (fun _ => True) (fun _ => False) x

/-- An exception, and not undefined behaviour. -/
def IsThrow (fault : Fault) : Prop := ∃ e, fault = .throws e

variable {α : Type} {E : Fault → Prop}

@[simp] theorem sound_publish (topic : Topic) (doc : Json) :
    Action.Sound (.publish topic doc) := trivial

@[simp] theorem sat_sound_access (j : Json) (key : String) (Q : Json → Prop) :
    Eff.Sat Action.Sound Q E (access j key) ↔ Has j key Q := by
  rw [sat_access, Action.Sound, Json.contains, Has]
  cases j.get? key <;> simp

@[simp] theorem sat_sound_convert (x : Except JsonError α) (Q : α → Prop) :
    Eff.Sat Action.Sound Q E (convert x) ↔
      match x with
      | .ok a => Q a
      | .error e => E (.throws (.json e)) := by
  cases x <;> simp [convert]

@[simp] theorem sat_sound_parse (env : Env) (text : Bytes) (Q : Json → Prop) :
    Eff.Sat Action.Sound Q E (parse env text) ↔
      match env.parse text with
      | some j => Q j
      | none => E (.throws .parseError) := by
  rw [parse]
  cases env.parse text <;> simp

@[simp] theorem sat_sound_copyIfPresent {F : Type} [DecidableEq F] {S : Schema F}
    (draft : Draft S) (place : F) (source : Json) (key : String) (Q : Draft S → Prop) :
    Eff.Sat Action.Sound Q E (copyIfPresent draft place source key) ↔
      Q (draft.setAll (copied place source key)) := by
  rw [copyIfPresent, copied]
  split
  next present =>
    obtain ⟨v, found⟩ := (Json.contains_eq_true_iff _ _).mp present
    simp [Has, found, member_of_get? found]
  next => simp

/-- Behind a `catch` clause that returns, exceptions are as good as returning. -/
theorem safe_tryCatch {x : Handler α} {handler : Exception → α} :
    Eff.Sat Action.Sound (fun _ => True) (fun _ => False)
        (Eff.tryCatch x caught fun e => pure (handler e)) ↔
      Eff.Sat Action.Sound (fun _ => True) IsThrow x := by
  rw [Eff.sat_tryCatch]
  refine Eff.sat_congr (fun _ => Iff.rfl) fun fault => ?_
  cases fault <;> simp [caught, IsThrow]

/-! ### Received packets -/

/-- The packet reports a CRC status that is no number. -/
def ThrowsOnStat (rxpk : Json) : Prop :=
  reachesPublish rxpk ∧ Has rxpk "stat" fun stat => stat.isArithmetic = false

/-- The CRC status, if it is a number, is in the table. -/
def KnownStat (rxpk : Json) : Prop :=
  ∀ stat, rxpk.get? "stat" = some stat → ∀ n, stat.asInt = .ok n → -1 ≤ n.toInt ∧ n.toInt ≤ 1

/-- The members that the loop reads of a packet are there, as far as it gets, and its CRC
status is in the table. -/
def SafeRxpk (rxpk : Json) : Prop :=
  rxpk.contains "size" ∧ rxpk.contains "data" ∧ Has rxpk "freq" fun freq =>
    freq.isFloat → rxpk.contains "modu" ∧ rxpk.contains "datr" ∧
      (reachesPublish rxpk → rxpk.contains "tmst" ∧ rxpk.contains "rssi" ∧ rxpk.contains "chan" ∧
        rxpk.contains "rfch" ∧ KnownStat rxpk)

/-- All packets are safe, up to one whose CRC status makes the loop throw. -/
def SafePackets : List Json → Prop
  | [] => True
  | rxpk :: rest => SafeRxpk rxpk ∧ (ThrowsOnStat rxpk ∨ SafePackets rest)

theorem statTb_of_bounds {n : Int} (low : -1 ≤ n) (high : n ≤ 1) :
    ∃ text, statTb (n + 1) = some text :=
  statTb_of_range (by omega)

theorem sat_uplinkCrcStatus (draft : UplinkDraft) (rxpk : Json) {Q : UplinkDraft → Prop} {C : Prop}
    (after : ∀ draft, Q draft ↔ C) :
    Eff.Sat Action.Sound Q IsThrow (uplinkCrcStatus draft rxpk) ↔
      KnownStat rxpk ∧ ((Has rxpk "stat" fun stat => stat.isArithmetic = false) ∨ C) := by
  rw [uplinkCrcStatus, KnownStat]
  cases found : rxpk.get? "stat" with
  | none => simp [Json.contains, found, after, Has]
  | some stat =>
    have arithmetic : (∃ n, stat.asInt = .ok n) ↔ stat.isArithmetic :=
      Json.asArithmetic_ok_iff _ _ _ _ stat
    cases converted : stat.asInt with
    | error e =>
      -- A status that is no number throws before the table is read.
      have text : stat.isArithmetic = false := by simpa [converted] using arithmetic
      simp [Json.contains, found, Has, converted, IsThrow, text]
    | ok n =>
      have number : stat.isArithmetic = true := by simpa [converted] using arithmetic
      -- A number, inside or outside of the table.
      by_cases range : -1 ≤ n.toInt ∧ n.toInt ≤ 1
      · obtain ⟨text, looked⟩ := statTb_of_bounds range.1 range.2
        have bounds : Action.Sound (.statTb (n.toInt + 1)) := by
          constructor <;> omega
        simp [Json.contains, found, Has, converted, looked, after, number, range, bounds]
      · have bounds : ¬ Action.Sound (.statTb (n.toInt + 1)) := by
          rintro ⟨low, high⟩
          exact range (by omega)
        simp [Json.contains, found, Has, converted, number, range, bounds]

theorem sat_uplinkRxInfo (draft : UplinkDraft) (rxpk : Json) {Q : UplinkDraft → Prop} {C : Prop}
    (after : ∀ draft, Q draft ↔ C) :
    Eff.Sat Action.Sound Q IsThrow (uplinkRxInfo draft rxpk) ↔
      (rxpk.contains "tmst" ∧ rxpk.contains "rssi" ∧ rxpk.contains "chan" ∧ rxpk.contains "rfch" ∧
        KnownStat rxpk) ∧ ((Has rxpk "stat" fun stat => stat.isArithmetic = false) ∨ C) := by
  simp only [uplinkRxInfo, Eff.sat_bind, sat_sound_copyIfPresent, sat_sound_access, and_assoc]
  exact has_iff_contains fun _ => has_iff_contains fun _ => has_iff_contains fun _ =>
    has_iff_contains fun _ => sat_uplinkCrcStatus _ rxpk after

/-- The part of a round behind the data rate. -/
theorem sat_uplinkTail (draft : UplinkDraft) {rxpk datr : Json} {freq : Float}
    (float : rxpk.get? "freq" = some (.float freq)) (read : rxpk.get? "datr" = some datr)
    {Q : UplinkDraft → Prop} {C : Prop} (after : ∀ draft, Q draft ↔ C) :
    Eff.Sat Action.Sound Q IsThrow (match uplinkDatr draft datr with
      | none => pure draft
      | some draft => do
        let draft ← uplinkRxInfo draft rxpk
        Eff.emit (.publish .rxpk draft.json)
        pure draft : Handler UplinkDraft) ↔
      (reachesPublish rxpk → rxpk.contains "tmst" ∧ rxpk.contains "rssi" ∧ rxpk.contains "chan" ∧
        rxpk.contains "rfch" ∧ KnownStat rxpk) ∧ (ThrowsOnStat rxpk ∨ C) := by
  have reaches : reachesPublish rxpk = (datrWrites datr).isSome := by
    rw [← isSome_lateWrites, lateWrites, member_of_get? float, member_of_get? read, Option.isSome_map]
  rw [uplinkDatr_eq, ThrowsOnStat, reaches]
  cases datrWrites datr with
  | none => simp [after]
  | some writes =>
    simp only [Option.map_some, Eff.sat_bind, Eff.sat_emit, sound_publish, Eff.sat_pure, true_and,
      Option.isSome_some, forall_const]
    exact sat_uplinkRxInfo _ rxpk after

theorem sat_uplinkPacket (env : Env) (draft : UplinkDraft) (rxpk : Json) {Q : UplinkDraft → Prop}
    {C : Prop} (after : ∀ draft, Q draft ↔ C) :
    Eff.Sat Action.Sound Q IsThrow (uplinkPacket env draft rxpk) ↔
      SafeRxpk rxpk ∧ (ThrowsOnStat rxpk ∨ C) := by
  simp only [uplinkPacket, encodeEui_eq, Eff.sat_bind, Eff.sat_pure, sat_sound_access, SafeRxpk,
    and_assoc, ← has_and_const]
  refine has_iff_contains fun _ => has_iff_contains fun _ => has_congr_of_get? fun freq found => ?_
  cases freq with
  | float freq =>
    simp only [Eff.sat_bind, sat_sound_access, Json.isFloat, forall_const, and_assoc]
    exact has_iff_contains fun _ => (has_congr_of_get? fun datr read =>
      sat_uplinkTail _ found read after).trans has_const
  | _ =>
    -- Any other frequency ends the round.
    simp [after, ThrowsOnStat, reachesPublish, member_of_get? found, Json.isFloat]

theorem sat_uplinkLoop (env : Env) (draft : UplinkDraft) (packets : List Json) :
    Eff.Sat Action.Sound (fun _ => True) IsThrow (uplinkLoop env draft packets) ↔
      SafePackets packets := by
  induction packets generalizing draft with
  | nil => simp [uplinkLoop, SafePackets]
  | cons rxpk rest ih =>
    rw [uplinkLoop, Eff.sat_bind, SafePackets]
    exact sat_uplinkPacket env draft rxpk ih

/-! ### The handlers of datagrams -/

def SafeStat (stat : Json) : Prop :=
  stat.contains "time" ∧ stat.contains "rxnb" ∧ stat.contains "rxok" ∧ stat.contains "dwnb" ∧
    stat.contains "txnb"

/-- A PUSH_DATA document that the two translators can read. -/
def SafePushData (env : Env) (uplink : Json) : Prop :=
  (env.topicPubGatewayStat ≠ "" → ∀ stat, uplink.get? "stat" = some stat → SafeStat stat) ∧
    (env.topicPubRxpk ≠ "" → ∀ rxpk, uplink.get? "rxpk" = some rxpk → SafePackets rxpk.elements)

/-- The data rate parses if it is text. -/
def UsableDatr (datr : Json) : Prop := ∀ text, datr = .str text → (parseUplinkDatr text).isSome

/-- A sent downlink that can be published: its members are there, up to a frequency that is no
number or a data rate that does not parse. -/
def SafeTxpk (txpk : Json) : Prop :=
  txpk.contains "size" ∧ txpk.contains "data" ∧ Has txpk "freq" fun freq =>
    freq.isNumber → txpk.contains "powe" ∧ txpk.contains "modu" ∧ Has txpk "datr" fun datr =>
      UsableDatr datr → txpk.contains "imme"

def SafeEcho (env : Env) (downlink : Json) : Prop :=
  env.topicPubDownlink ≠ "" → ∀ txpk, downlink.get? "txpk" = some txpk → SafeTxpk txpk

theorem sat_publishStat (env : Env) (uplink : Json) (C : Prop) :
    Eff.Sat Action.Sound (fun _ => C) IsThrow (publishChirpstackFormatStatJson env uplink) ↔
      Has uplink "stat" SafeStat ∧ C := by
  simp only [publishChirpstackFormatStatJson, encodeEui_eq, Eff.sat_bind, Eff.sat_pure,
    sat_sound_access, sat_sound_copyIfPresent, Eff.sat_emit, sound_publish, true_and, has_const]
  rw [← has_and_const]
  simp only [SafeStat, and_assoc]

theorem sat_publishUplink (env : Env) (uplink : Json) :
    Eff.Sat Action.Sound (fun _ => True) IsThrow (publishChirpstackFormatUplinkJson env uplink) ↔
      Has uplink "rxpk" fun rxpk => SafePackets rxpk.elements := by
  simp only [publishChirpstackFormatUplinkJson, Eff.sat_bind, sat_sound_access, sat_uplinkLoop]

theorem echoDatr_eq_none_iff (draft : EchoDraft) (datr : Json) :
    echoDatr draft datr = none ↔ ¬ UsableDatr datr := by
  cases datr <;> simp [echoDatr, UsableDatr]

theorem sat_publishDownlink (env : Env) (downlink : Json) :
    Eff.Sat Action.Sound (fun _ => True) IsThrow (publishChirpstackFormatDownlinkJson env downlink) ↔
      Has downlink "txpk" SafeTxpk := by
  simp only [publishChirpstackFormatDownlinkJson, encodeEui_eq, Eff.sat_bind, Eff.sat_pure,
    sat_sound_access, sat_sound_convert]
  refine has_congr fun txpk => has_iff_contains fun _ => has_iff_contains fun _ =>
    has_congr fun freq => ?_
  rw [← Json.asDouble_ok_iff]
  -- A frequency that is no number throws, and the echo is over.
  cases freq.asDouble with
  | error e => simp [IsThrow]
  | ok x =>
    simp only [Except.ok.injEq, exists_eq', forall_const]
    refine has_iff_contains fun _ => has_iff_contains fun _ => has_congr fun datr => ?_
    split
    -- The function returns where the data rate does not parse.
    next unparsed =>
      have stops := (echoDatr_eq_none_iff _ datr).mp unparsed
      simp [stops]
    next draft parsed =>
      have goesOn : UsableDatr datr := by
        by_contra stops
        rw [(echoDatr_eq_none_iff _ datr).mpr stops] at parsed
        cases parsed
      simp only [goesOn, forall_const, Eff.sat_bind, sat_sound_copyIfPresent, sat_sound_access,
        Eff.sat_emit, sound_publish, and_true, has_const]

/-- A translator that runs only where its member is there. -/
theorem when_present_iff {topic : String} {j : Json} {key : String} {P : Json → Prop} {C : Prop} :
    (if topic ≠ "" ∧ j.contains key then Has j key P ∧ C else C) ↔
      (topic ≠ "" → ∀ v, j.get? key = some v → P v) ∧ C := by
  cases found : j.get? key with
  | none => simp [Json.contains, found]
  | some v => by_cases named : topic = "" <;> simp [Json.contains, Has, found, named]

theorem when_present_last_iff {topic : String} {j : Json} {key : String} {P : Json → Prop} :
    (if topic ≠ "" ∧ j.contains key then Has j key P else True) ↔
      (topic ≠ "" → ∀ v, j.get? key = some v → P v) := by
  simpa only [and_true] using when_present_iff (C := True)

theorem safe_responsePktPushData (env : Env) (datagram : Bytes) :
    Safe (responsePktPushData env datagram) ↔
      ∀ uplink, env.parse (jsonText datagram) = some uplink → SafePushData env uplink := by
  rw [responsePktPushData, Safe, Eff.sat_bind, Eff.sat_emit, safe_tryCatch]
  simp only [Action.Sound, true_and, Eff.sat_bind, sat_sound_parse]
  cases env.parse (jsonText datagram) with
  | none => simp [IsThrow]
  | some uplink =>
    simp only [Eff.sat_when, Eff.sat_pure, sat_publishUplink, sat_publishStat,
      when_present_last_iff, when_present_iff, Option.some.injEq, forall_eq', SafePushData]

theorem safe_echoDownlink (env : Env) (message : Bytes) :
    Safe (echoDownlink env message) ↔
      ∀ downlink, env.parse message = some downlink → SafeEcho env downlink := by
  rw [echoDownlink, Safe, safe_tryCatch]
  simp only [Eff.sat_bind, sat_sound_parse]
  cases env.parse message with
  | none => simp [IsThrow]
  | some downlink =>
    simp only [Eff.sat_when, Eff.sat_pure, sat_publishDownlink, when_present_last_iff,
      Option.some.injEq, forall_eq', SafeEcho]

/-- An acknowledgement is only read where it is there. -/
theorem safe_recievePktTxAck (env : Env) (datagram : Bytes) :
    Safe (recievePktTxAck env datagram) := by
  rw [recievePktTxAck, Safe, safe_tryCatch]
  simp only [Eff.sat_bind, sat_sound_parse]
  cases env.parse (jsonText datagram) with
  | none => simp [IsThrow]
  | some ack =>
    simp only [Eff.sat_when, Eff.sat_pure, publishChirpstackFormatDownlinkAckJson, encodeEui_eq,
      Eff.sat_bind, sat_sound_access, Eff.sat_emit, sound_publish, and_true,
      when_present_last_iff, implies_true]

/-- What a PULL_DATA finds: a waiting payload fits `buffer_down` and can be published. -/
def SafePullData (env : Env) : List Bytes → Prop
  | [] => True
  | message :: _ => message.length ≤ 996 ∧
    ∀ downlink, env.parse message = some downlink → SafeEcho env downlink

theorem safe_responsePktPullData (env : Env) (queueDownlink : List Bytes) (datagram : Bytes) :
    Safe (responsePktPullData env queueDownlink datagram) ↔ SafePullData env queueDownlink := by
  cases queueDownlink with
  | nil => simp [responsePktPullData, SafePullData, Action.Sound]
  | cons message rest =>
    -- The header takes four bytes of the buffer.
    have fits : 4 + message.length ≤ bufferDownSize ↔ message.length ≤ 996 := by
      simp only [bufferDownSize]
      omega
    have echo := safe_echoDownlink env message
    simp only [responsePktPullData, Safe, Eff.sat_bind, Eff.sat_emit, Action.Sound, true_and, fits]
    rw [SafePullData, ← echo]
    apply and_congr_right
    intro short
    rw [if_pos short, Eff.sat_bind, Eff.sat_emit]
    simp only [Action.Sound, true_and, Safe]

/-- The datagram is one that `read_cb` can handle in a given state of the queue. -/
def SafeDatagram (env : Env) (queueDownlink : List Bytes) (datagram : Bytes) : Prop :=
  datagram ≠ [] → bufferUp datagram 0 = protocolVersion →
    (bufferUp datagram 3 = pktPushData →
      ∀ uplink, env.parse (jsonText datagram) = some uplink → SafePushData env uplink) ∧
    (bufferUp datagram 3 = pktPullData → SafePullData env queueDownlink)

theorem safe_readCb (env : Env) (queueDownlink : List Bytes) (datagram : Bytes) :
    Safe (readCb env queueDownlink datagram) ↔ SafeDatagram env queueDownlink datagram := by
  rw [readCb, SafeDatagram]
  by_cases rejected : datagram = [] ∨ bufferUp datagram 0 ≠ protocolVersion
  · simp only [if_pos rejected, Eff.sat_pure, true_iff]
    exact fun some_bytes version => absurd rejected (by simp [some_bytes, version])
  · have accepted := not_or.mp rejected
    rw [if_neg rejected]
    simp only [Eff.sat_bind, Eff.sat_pure, udpPktCb, ne_eq, accepted.1, not_false_eq_true,
      forall_const, not_not.mp accepted.2]
    split
    next push =>
      have other : pktPushData ≠ pktPullData := by decide
      simp only [push, other, forall_const, false_implies, and_true]
      exact safe_responsePktPushData env datagram
    next other =>
      simp only [other, false_implies, true_and]
      split
      next pull =>
        simp only [pull, forall_const]
        exact safe_responsePktPullData env queueDownlink datagram
      next noPull =>
        simp only [noPull, false_implies, iff_true]
        split
        · exact safe_recievePktTxAck env datagram
        · simp

/-! ### Messages -/

/-- A message with items names a gateway. -/
def SafeMessage (env : Env) (payload : Bytes) : Prop :=
  ∀ j, env.parse payload = some j → j.contains "txpk" = false → j.contains "downlinkItems" →
    ∃ id, j.get? "gatewayID" = some (.str id)

/-- The identity of the message is read outside of the `try` block, and the check that follows
turns down every message. -/
theorem safe_parseRemoteDownlinkItemsJson {env : Env} {mac : Fin 6 → UInt8}
    (eui : env.gatewayEui = generateGatewayIdByMac mac) (jsonDl : Json) :
    Safe (parseRemoteDownlinkItemsJson env jsonDl) ↔
      ∃ id, jsonDl.get? "gatewayID" = some (.str id) := by
  have apart := gatewayId_ne_unitTestId eui
  -- No identity passes the check, so that the items are never read.
  have mismatch (id : String) : gatewayId env ≠ id ∨ id ≠ unitTestId := by
    by_contra both
    simp only [not_or, not_not] at both
    exact apart (both.1.trans both.2)
  simp only [parseRemoteDownlinkItemsJson, encodeEui_eq, Safe, Eff.sat_bind, Eff.sat_pure,
    sat_sound_access, sat_sound_convert, mismatch, if_true, publishRemoteDownlinkItemsException,
    Eff.sat_emit, sound_publish, and_true, Has]
  constructor
  · rintro ⟨v, found, text⟩
    cases v with
    | str id => exact ⟨id, found⟩
    | _ => exact text.elim
  · rintro ⟨id, found⟩
    exact ⟨_, found, trivial⟩

theorem safe_onMessage {env : Env} {mac : Fin 6 → UInt8}
    (eui : env.gatewayEui = generateGatewayIdByMac mac) (payload : Bytes) :
    Safe (onMessage env payload) ↔ SafeMessage env payload := by
  rw [onMessage, SafeMessage]
  cases env.parse payload with
  | none => simp
  | some j =>
    simp only [Option.some.injEq, forall_eq']
    split
    next txpk => simp [txpk, Action.Sound]
    next noTxpk =>
      simp only [noTxpk, forall_const]
      split
      next items => simpa only [items, forall_const] using safe_parseRemoteDownlinkItemsJson eui j
      next noItems => simp [noItems]

/-! ### Runs -/

/-- The event is one that the bridge can handle in the state it meets. -/
def SafeEvent (env : Env) (s : State) : Event → Prop
  | .message payload => SafeMessage env payload
  | .mqttStep => True
  | .datagram bytes => SafeDatagram env s.queueDownlink bytes

/-- No fault has left a handler, and every action was sound. -/
def Survives (s : State) : Prop := s.down = none ∧ ∀ a ∈ s.trace, a.Sound

/-- The call in progress will not do harm either. -/
structure Healthy (s : State) : Prop where
  survives : Survives s
  mqtt : ∀ a ∈ s.mqtt, a.Sound
  mqttEnd : s.mqttEnd = .ok ()

theorem perform_healthy {s : State} (before : Healthy s) {a : Action} (sound : a.Sound) :
    Healthy (s.perform a) := by
  obtain ⟨⟨up, trace⟩, mqtt, mqttEnd⟩ := before
  have grown : ∀ b ∈ s.trace ++ [a], b.Sound := by
    intro b member
    rcases List.mem_append.mp member with old | new
    · exact trace b old
    · rw [List.mem_singleton.mp new]
      exact sound
  cases a <;> exact ⟨⟨up, grown⟩, mqtt, mqttEnd⟩

theorem performs_healthy {s : State} (before : Healthy s) {actions : List Action}
    (sound : ∀ a ∈ actions, a.Sound) : Healthy (actions.foldl State.perform s) := by
  induction actions generalizing s with
  | nil => exact before
  | cons a rest ih =>
    exact ih (perform_healthy before (sound a (by simp)))
      fun b member => sound b (List.mem_cons_of_mem a member)

theorem result_of_safe {x : Handler Unit} (safe : Safe x) : x.result = .ok () := by
  cases ended : x.result with
  | ok => rfl
  | error fault =>
    have bad := safe.2
    rw [ended] at bad
    exact bad.elim

theorem finish_of_ok (s : State) {result : Except Fault Unit} (returned : result = .ok ()) :
    s.finish result = s := by
  rw [returned]
  rfl

theorem finish_healthy {s : State} (before : Healthy s) {x : Handler Unit} (safe : Safe x) :
    Healthy (s.finish x.result) := by
  rw [finish_of_ok s (result_of_safe safe)]
  exact before

theorem step_healthy {env : Env} {mac : Fin 6 → UInt8}
    (eui : env.gatewayEui = generateGatewayIdByMac mac) (s : State) (e : Event)
    (before : Healthy s) (safe : SafeEvent env s e) : Healthy (step env s e) := by
  have up : s.down.isSome = false := by simp [before.survives.1]
  simp only [step, up, Bool.false_eq_true, if_false]
  cases e with
  | message payload =>
    -- The actions of a new call are sound before the first of them is done.
    have call := (safe_onMessage eui payload).mpr safe
    dsimp only
    split
    · split
      · exact finish_healthy before call
      · exact ⟨before.survives, call.1, result_of_safe call⟩
    · exact before
  | mqttStep =>
    dsimp only
    split
    · exact before
    next last only =>
      have sound : last.Sound := before.mqtt last (by simp [only])
      rw [finish_of_ok _ before.mqttEnd]
      exact perform_healthy (s := { s with mqtt := [] })
        ⟨before.survives, by simp, before.mqttEnd⟩ sound
    next next rest _ more =>
      have sound : next.Sound := before.mqtt next (by simp [more])
      exact perform_healthy (s := { s with mqtt := rest })
        ⟨before.survives, fun a member => before.mqtt a (by rw [more]; exact .tail _ member),
          before.mqttEnd⟩ sound
  | datagram bytes =>
    -- The queue in the condition is the one that the datagram meets.
    have call := (safe_readCb env s.queueDownlink bytes).mpr safe
    exact finish_healthy (performs_healthy before call.1) call

/-- The bridge survives every run whose inputs it can handle. -/
theorem bridge_survives (env : Env) (mac : Fin 6 → UInt8)
    (eui : env.gatewayEui = generateGatewayIdByMac mac) (events : List Event)
    (safe : Guarded (step env) (SafeEvent env) State.init events) :
    Survives (run (step env) State.init events) :=
  (guarded_invariant (step env) (SafeEvent env) Healthy (step_healthy eui) State.init
    ⟨⟨rfl, by simp [State.init]⟩, by simp [State.init], rfl⟩ events safe).survives

/-- `{"txpk":{"data":"","datr":50000,"freq":868.8,"imme":true,"modu":"FSK","powe":9,"size":0}}`. -/
def fskDownlink : Json :=
  .obj [("txpk", .obj [("data", .str ""), ("datr", .uint 50000), ("freq", .float 868.8),
    ("imme", .bool true), ("modu", .str "FSK"), ("powe", .uint 9), ("size", .uint 0)])]

def fskDownlinkText : Bytes :=
  ("\x7b\"txpk\":\x7b\"data\":\"\",\"datr\":50000,\"freq\":868.8," ++
    "\"imme\":true,\"modu\":\"FSK\",\"powe\":9,\"size\":0\x7d\x7d").toList.map Char.toUInt8

theorem fskDownlink_safe :
    Guarded (step (textEnv fskDownlinkText fskDownlink))
      (SafeEvent (textEnv fskDownlinkText fskDownlink)) State.init
      [.message fskDownlinkText, .mqttStep, .datagram [2, 0, 0, 2]] := by
  have parsed := textEnv_parse fskDownlinkText fskDownlink
  have queued := run_message parsed rfl
  have short : fskDownlinkText.length ≤ 996 := by decide +kernel
  refine ⟨?_, trivial, ?_, trivial⟩
  · -- The message has a `txpk`, and nothing is asked of it.
    intro j same noTxpk
    obtain rfl : fskDownlink = j := by simpa [parsed] using same
    exact absurd noTxpk (by decide)
  · -- The datagram finds the message, which is short and complete.
    simp only [run_cons, run_nil] at queued
    rw [queued]
    refine fun _ _ => ⟨fun push => absurd push (by decide), fun _ => ⟨short, fun j same _ => ?_⟩⟩
    obtain rfl : fskDownlink = j := by simpa [parsed] using same
    rintro txpk found
    obtain rfl := Option.some.inj found
    exact ⟨rfl, rfl, _, rfl, fun _ => ⟨rfl, rfl, _, rfl, fun _ => rfl⟩⟩

theorem fsk_downlink_survives :
    Survives (run (step (textEnv fskDownlinkText fskDownlink)) State.init
      [.message fskDownlinkText, .mqttStep, .datagram [2, 0, 0, 2]]) :=
  bridge_survives _ _ sampleEnv_eui _ fskDownlink_safe

/-- `{"downlinkItems":[]}`. -/
def unnamedMessage : Json := .obj [("downlinkItems", .arr [])]

def unnamedMessageText : Bytes := "\x7b\"downlinkItems\":[]\x7d".toList.map Char.toUInt8

/-- A message with items and no gateway takes the bridge down. -/
theorem unnamed_message_kills :
    ¬ Survives (run (step (textEnv unnamedMessageText unnamedMessage)) State.init
      [.message unnamedMessageText, .mqttStep]) := by
  have called : onMessage (textEnv unnamedMessageText unnamedMessage) unnamedMessageText =
      ⟨[.access unnamedMessage "gatewayID"], .error .undefined⟩ := by
    rw [onMessage, textEnv_parse]
    rfl
  rintro ⟨up, _⟩
  simp [run, step, called, State.init, State.perform, State.finish] at up

end LorawanFeeds.Bridge
