import Mathlib.Data.List.Nodup
import Mathlib.Logic.Function.Basic
import LorawanFeeds.Lib.Run
import LorawanFeeds.QmiClient.Client

/-!
# The client ids of the connection manager

`QmiWwanInit` asks the modem for a client id for each service that it needs, `QmiWwanDeInit` gives
them back, and `QmiWwanSendQMI` writes one of them into every message. The data calls of IPv4 and
IPv6 have each a client id of the same service, under two indices of the table.

The modem keeps an account of its own: what it has granted, whether the answer is heard or not, and
what a request to release has been written for.
-/
namespace LorawanFeeds.QmiClient.ClientIds

open Lib

def qmuxTypeDms : UInt8 := 0x02
def qmuxTypeUim : UInt8 := 0x0B
def qmuxTypeAll : UInt8 := 0xFF

/-- What `QmiWwanGetClientID` reads of a response. -/
structure GetClientIdRsp where
  qmuxResult : UInt16
  qmuxError : UInt16
  qmiType : UInt8
  clientId : UInt8
  deriving DecidableEq, Repr

/-- What `QmiWwanInit` reads of the response with the versions: the services with the minor version.
-/
structure GetVersionRsp where
  qmuxResult : UInt16
  qmuxError : UInt16
  versions : List (UInt8 × UInt16)
  deriving DecidableEq, Repr

/-- What `QmiWwanInit` reads and writes of `PROFILE_T`. -/
structure Profile where
  qmapMode : Nat
  enableIpv6 : Bool
  qmapVersion : Bool := false
  wdaClient : UInt8 := 0
  deriving DecidableEq, Repr

/-- A service and a client id. -/
abbrev Pair := UInt8 × UInt8

/-- What comes of a request for a client id. -/
inductive Asked where
  /-- A response comes in time. -/
  | answered (rsp : GetClientIdRsp)
  /-- None does. The modem may have granted a client id all the same. -/
  | unanswered (granted : Option Pair)
  deriving DecidableEq, Repr

def Asked.rsp : Asked → Option GetClientIdRsp
  | .answered rsp => some rsp
  | .unanswered _ => none

/-- What the modem has granted: its response says so. -/
def Asked.grant : Asked → Option Pair
  | .answered rsp =>
    if rsp.qmuxResult = 0 ∧ rsp.qmuxError = 0 ∧ rsp.clientId ≠ 0 then
      some (rsp.qmiType, rsp.clientId)
    else none
  | .unanswered granted => granted

/-- What a call of `QmiWwanInit` meets: the proxy, what the requests up to the synchronisation
return, the response with the versions, and what comes of the requests for the client ids, by their
number. -/
structure Start where
  /-- What `libqmi_proxy_open` returns, if the proxy is that of libqmi. -/
  libqmi : Option Int
  proxied : Bool
  sync : Nat → Int
  version : Option GetVersionRsp
  clientId : Nat → Asked

inductive Happening where
  /-- The modem has granted it. -/
  | granted (pair : Pair)
  /-- The request that gives it back has been written to the device. -/
  | released (pair : Pair)
  /-- The message has been written to the device. -/
  | sent (msg : Qmi)
  deriving DecidableEq, Repr

/-- `qmiclientId`, the profile, and what has happened. -/
structure State where
  qmiclientId : UInt8 → UInt8 := fun _ => 0
  profile : Profile
  history : List Happening := []

/-- `QmiWwanGetClientID`. -/
def qmiWwanGetClientID (qmiType : UInt8) : Option GetClientIdRsp → UInt8
  | none => 0
  | some rsp =>
    if rsp.qmuxResult = 0 ∧ rsp.qmuxError = 0 ∧ rsp.qmiType = qmiType then rsp.clientId else 0

/-- The service that an index of the table stands for. -/
def service (index : UInt8) : UInt8 := if index = qmuxTypeWdsIpv6 then qmuxTypeWds else index

/-- An entry is assigned what comes of the request for it. -/
def State.assign (s : State) (index : UInt8) (asked : Asked) : State :=
  { s with
    qmiclientId :=
      Function.update s.qmiclientId index (qmiWwanGetClientID (service index) asked.rsp)
    history := s.history ++ (asked.grant.map Happening.granted).toList }

/-- The entries that are assigned in turn. -/
def wanted (enableIpv6 : Bool) : List UInt8 :=
  [qmuxTypeWds] ++ (if enableIpv6 then [qmuxTypeWdsIpv6] else []) ++
    [qmuxTypeDms, qmuxTypeNas, qmuxTypeUim, qmuxTypeWdsAdmin]

/-- The synchronisation is tried ten times at most. -/
def synchronise (sync : Nat → Int) : Int :=
  if (List.range 9).any fun i => sync i = 0 then 0 else sync 9

/-- The minor version of the last entry for the service tells the version of QMAP. -/
def qmapVersion (old : Bool) (versions : List (UInt8 × UInt16)) : Bool :=
  versions.foldl (fun old version =>
    if version.1 = qmuxTypeWdsAdmin then version.2 > 16 else old) old

/-- What becomes of the profile with the response that has the versions. -/
def Profile.readVersion (profile : Profile) : Option GetVersionRsp → Profile
  | none => profile
  | some rsp =>
    if profile.qmapMode ≠ 0 ∧ rsp.qmuxResult = 0 ∧ rsp.qmuxError = 0 then
      { profile with qmapVersion := ClientIds.qmapVersion profile.qmapVersion rsp.versions }
    else profile

/-- The assignments from an entry on, with the number of the request for it. -/
def State.assignAll (clientId : Nat → Asked) : List UInt8 → Nat → State → State
  | [], _, s => s
  | index :: rest, k, s => assignAll clientId rest (k + 1) (s.assign index (clientId k))

/-- The head of `QmiWwanInit`: what it returns, and it goes on to the client ids if that is zero. -/
def Start.ready (start : Start) : Int :=
  let opened := start.libqmi.getD 0
  if opened ≠ 0 then opened
  else if start.proxied then 0
  else synchronise start.sync

/-- `QmiWwanInit`. -/
def qmiWwanInit (s : State) (start : Start) : Int × State :=
  if start.ready ≠ 0 then (start.ready, s)
  else
    let s := { s with profile := s.profile.readVersion start.version }
    let s := s.assignAll start.clientId (wanted s.profile.enableIpv6) 0
    (0, { s with profile := { s.profile with wdaClient := s.qmiclientId qmuxTypeWdsAdmin } })

/-- The indices of the table. -/
def indices : List UInt8 := (List.range 255).map Nat.toUInt8

/-- A turn of the loop of `QmiWwanDeInit`. The entry is cleared whether the request is written or
not. -/
def State.giveBack (written : UInt8 → Bool) (s : State) (index : UInt8) : State :=
  if s.qmiclientId index = 0 then s
  else { s with
    qmiclientId := Function.update s.qmiclientId index 0
    history := s.history ++
      if written index then [.released (service index, s.qmiclientId index)] else [] }

/-- `QmiWwanDeInit`, with the entries whose requests are written to the device. -/
def qmiWwanDeInit (s : State) (written : UInt8 → Bool) : State :=
  indices.foldl (State.giveBack written) s

/-- What the write to the device meets, but for the client ids. -/
structure Wire where
  cdcWdmFd : Int
  poll : Int
  pollout : Bool
  write : Int

def Wire.device (wire : Wire) (s : State) : Device :=
  ⟨wire.cdcWdmFd, s.qmiclientId, wire.poll, wire.pollout, wire.write⟩

/-- `QmiWwanSendQMI` comes to the write. -/
def reaches (device : Device) (request : Qmi) : Prop :=
  device.cdcWdmFd ≠ -1 ∧ (request.qmiType ≠ qmuxTypeCtl → device.qmiclientId request.qmiType ≠ 0) ∧
    device.pollout = true

instance (device : Device) (request : Qmi) : Decidable (reaches device request) :=
  inferInstanceAs (Decidable (_ ∧ (_ → _) ∧ _))

inductive Event where
  | init (start : Start)
  | deinit (written : UInt8 → Bool)
  | send (request : Qmi) (wire : Wire)

def step (s : State) : Event → State
  | .init start => (qmiWwanInit s start).2
  | .deinit written => qmiWwanDeInit s written
  | .send request wire =>
    -- No request of the program is of the type behind the end of the table.
    if request.qmiType ≠ qmuxTypeAll ∧ reaches (wire.device s) request then
      { s with history := s.history ++ [.sent (qmiWwanSendQMI (wire.device s) request).2] }
    else s

/-! ### The table -/

/-- The service and the client id of an entry, if there is one. -/
def entry (table : UInt8 → UInt8) (index : UInt8) : Option Pair :=
  if table index = 0 then none else some (service index, table index)

/-- What the table holds. -/
def held (table : UInt8 → UInt8) : List Pair := indices.filterMap (entry table)

theorem nodup_indices : indices.Nodup := by
  apply List.Nodup.map_on _ List.nodup_range
  intro i small j small' same
  have equal := congrArg UInt8.toNat same
  rw [Nat.toUInt8_eq, Nat.toUInt8_eq, UInt8.toNat_ofNat', UInt8.toNat_ofNat'] at equal
  rw [List.mem_range] at small small'
  omega

theorem mem_indices {index : UInt8} (inside : index ≠ qmuxTypeAll) : index ∈ indices := by
  refine List.mem_map.mpr ⟨index.toNat, List.mem_range.mpr ?_, UInt8.ofNat_toNat⟩
  have small := index.toNat_lt
  by_contra large
  apply inside
  apply UInt8.toNat_inj.mp
  change index.toNat = 255
  omega

/-- The table without an entry. -/
theorem held_perm (table : UInt8 → UInt8) {index : UInt8} (inside : index ≠ qmuxTypeAll) :
    (held table).Perm
      ((entry table index).toList ++ (indices.erase index).filterMap (entry table)) := by
  have first := (List.perm_cons_erase (mem_indices inside)).filterMap (entry table)
  rw [List.filterMap_cons] at first
  rw [held]
  cases same : entry table index <;> simpa only [same, Option.toList, List.nil_append,
    List.singleton_append] using first

/-- The other entries stay. -/
theorem filterMap_update (table : UInt8 → UInt8) (index clientId : UInt8) :
    (indices.erase index).filterMap (entry (Function.update table index clientId)) =
      (indices.erase index).filterMap (entry table) := by
  apply List.filterMap_congr
  intro other member
  have different : other ≠ index := by
    rintro rfl
    exact nodup_indices.not_mem_erase member
  rw [entry, entry, Function.update_of_ne different]

/-- An assignment exchanges the entry for the new one. -/
theorem count_held_update (table : UInt8 → UInt8) {index : UInt8} (inside : index ≠ qmuxTypeAll)
    (clientId : UInt8) (pair : Pair) :
    (held (Function.update table index clientId)).count pair +
        (entry table index).toList.count pair =
      (held table).count pair +
        (entry (Function.update table index clientId) index).toList.count pair := by
  rw [(held_perm (Function.update table index clientId) inside).count_eq,
    (held_perm table inside).count_eq, List.count_append, List.count_append, filterMap_update]
  omega

/-! ### The account -/

/-- The grants and the releases of a client id. -/
def granted (history : List Happening) (pair : Pair) : Nat := history.count (.granted pair)
def released (history : List Happening) (pair : Pair) : Nat := history.count (.released pair)

/-- The client id that a request names to the modem: that of its header, or the one it releases. -/
def Happening.names : Happening → Option Pair
  | .granted _ => none
  | .released pair => some pair
  | .sent msg => if msg.qmiType = qmuxTypeCtl then none else some (msg.qmiType, msg.clientId)

/-- The modem has granted the client id and no request to release it has been written; and its
service is none that the modem does not know. -/
structure Outstanding (history : List Happening) (pair : Pair) : Prop where
  given : pair.2 ≠ 0
  known : pair.1 ≠ qmuxTypeWdsIpv6
  outstanding : released history pair < granted history pair

/-- Whatever has been named to the modem was outstanding at that moment. -/
def Licensed (history : List Happening) : Prop :=
  ∀ before now after, history = before ++ now :: after →
    ∀ pair ∈ now.names, Outstanding before pair

/-- What every reached state satisfies. -/
structure Sound (s : State) : Prop where
  covered : ∀ pair, released s.history pair + (held s.qmiclientId).count pair ≤
    granted s.history pair
  licensed : Licensed s.history

/-- What is granted in a step, and is neither released nor held after it, has been lost; and so has
what was held, and is neither released nor held. -/
def Loses (s s' : State) (lost : List Pair) : Prop :=
  ∀ pair,
    granted s'.history pair + (released s.history pair + (held s.qmiclientId).count pair) =
      granted s.history pair + (released s'.history pair + (held s'.qmiclientId).count pair) +
        lost.count pair

theorem Loses.refl (s : State) : Loses s s [] := fun _ => rfl

theorem Loses.trans {s s' s'' : State} {lost lost' : List Pair} (first : Loses s s' lost)
    (second : Loses s' s'' lost') : Loses s s'' (lost ++ lost') := by
  intro pair
  have one := first pair
  have two := second pair
  rw [List.count_append]
  omega

/-- The account only moves to the side of the modem. -/
theorem Loses.covered {s s' : State} {lost : List Pair} (loses : Loses s s' lost)
    (covered : ∀ pair, released s.history pair + (held s.qmiclientId).count pair ≤
      granted s.history pair) (pair : Pair) :
    released s'.history pair + (held s'.qmiclientId).count pair ≤ granted s'.history pair := by
  have before := covered pair
  have balance := loses pair
  omega

theorem Licensed.concat {history : List Happening} {now : Happening} (licensed : Licensed history)
    (named : ∀ pair ∈ now.names, Outstanding history pair) : Licensed (history ++ [now]) := by
  intro before other after split
  rcases List.eq_nil_or_concat after with rfl | ⟨earlier, last, rfl⟩
  · obtain ⟨rfl, same⟩ := List.append_inj' split rfl
    rw [← (List.cons.inj same).1]
    exact named
  · rw [List.concat_eq_append, ← List.cons_append, ← List.append_assoc] at split
    exact licensed before other earlier (List.append_inj' split rfl).1

/-- What an entry holds is outstanding. -/
theorem Sound.outstanding {s : State} (sound : Sound s) {index : UInt8}
    (inside : index ≠ qmuxTypeAll) {pair : Pair} (has : entry s.qmiclientId index = some pair) :
    Outstanding s.history pair := by
  have member : pair ∈ held s.qmiclientId :=
    List.mem_filterMap.mpr ⟨index, mem_indices inside, has⟩
  have covered := sound.covered pair
  have positive := List.count_pos_iff.mpr member
  rw [entry] at has
  split at has
  · cases has
  next given =>
    obtain rfl := Option.some.inj has
    refine ⟨given, ?_, by omega⟩
    rw [service]
    dsimp only
    split
    · decide
    next different => exact different

/-! ### The requests for client ids -/

/-- If the modem has granted a client id, `QmiWwanGetClientID` returns it. -/
def Asked.Heard (asked : Asked) (qmiType : UInt8) : Prop :=
  asked.grant ≠ none → qmiWwanGetClientID qmiType asked.rsp ≠ 0

instance (asked : Asked) (qmiType : UInt8) : Decidable (asked.Heard qmiType) :=
  inferInstanceAs (Decidable (_ → _))

/-- What `QmiWwanGetClientID` returns has been granted. -/
theorem Asked.grant_of_got {asked : Asked} {qmiType : UInt8}
    (got : qmiWwanGetClientID qmiType asked.rsp ≠ 0) :
    asked.grant = some (qmiType, qmiWwanGetClientID qmiType asked.rsp) := by
  cases asked with
  | unanswered granted => exact absurd rfl got
  | answered rsp =>
    rw [Asked.rsp, qmiWwanGetClientID] at got ⊢
    split at got
    next accepted =>
      rw [if_pos accepted, Asked.grant, if_pos ⟨accepted.1, accepted.2.1, got⟩, accepted.2.2]
    · exact absurd rfl got

/-- An assignment loses what the entry held, and a grant that is not heard. -/
theorem assign_loses (s : State) {index : UInt8} (inside : index ≠ qmuxTypeAll) (asked : Asked) :
    ∃ lost, Loses s (s.assign index asked) lost ∧
      (lost = [] ↔ s.qmiclientId index = 0 ∧ asked.Heard (service index)) := by
  refine ⟨(entry s.qmiclientId index).toList ++
    (if qmiWwanGetClientID (service index) asked.rsp = 0 then asked.grant.toList else []), ?_, ?_⟩
  · intro pair
    have exchanged := count_held_update s.qmiclientId inside
      (qmiWwanGetClientID (service index) asked.rsp) pair
    have new : entry (Function.update s.qmiclientId index
        (qmiWwanGetClientID (service index) asked.rsp)) index =
        if qmiWwanGetClientID (service index) asked.rsp = 0 then none
        else some (service index, qmiWwanGetClientID (service index) asked.rsp) := by
      rw [entry, Function.update_self]
    rw [new] at exchanged
    rw [State.assign, List.count_append]
    dsimp only
    simp only [granted, released, List.count_append]
    by_cases nothing : qmiWwanGetClientID (service index) asked.rsp = 0
    · -- The entry is empty now; what the modem has granted is not in the table.
      rw [if_pos nothing] at exchanged ⊢
      cases asked.grant <;>
        simp only [Option.map, Option.toList, List.count_nil, List.count_singleton, beq_iff_eq,
          Happening.granted.injEq, reduceCtorEq, if_false] at exchanged ⊢ <;> omega
    · -- The grant is in the table, and only the old entry is lost.
      rw [if_neg nothing] at exchanged ⊢
      rw [Asked.grant_of_got nothing]
      simp only [Option.map, Option.toList, List.count_nil, List.count_singleton, beq_iff_eq,
        Happening.granted.injEq, reduceCtorEq, if_false] at exchanged ⊢
      omega
  · rw [List.append_eq_nil_iff, entry, Asked.Heard]
    by_cases free : s.qmiclientId index = 0 <;>
      by_cases nothing : qmiWwanGetClientID (service index) asked.rsp = 0 <;>
      simp [free, nothing]

theorem Sound.assign {s : State} (sound : Sound s) {index : UInt8} (inside : index ≠ qmuxTypeAll)
    (asked : Asked) : Sound (s.assign index asked) := by
  obtain ⟨lost, loses, _⟩ := assign_loses s inside asked
  refine ⟨loses.covered sound.covered, ?_⟩
  rw [State.assign]
  dsimp only
  cases asked.grant with
  | none => exact (List.append_nil s.history).symm ▸ sound.licensed
  | some pair => exact sound.licensed.concat fun pair named => by cases named

theorem assign_other (s : State) {index other : UInt8} (different : other ≠ index) (asked : Asked) :
    (s.assign index asked).qmiclientId other = s.qmiclientId other :=
  Function.update_of_ne different _ _

theorem Sound.assignAll (clientId : Nat → Asked) {list : List UInt8}
    (inside : ∀ index ∈ list, index ≠ qmuxTypeAll) (k : Nat) {s : State} (sound : Sound s) :
    Sound (s.assignAll clientId list k) := by
  induction list generalizing k s with
  | nil => exact sound
  | cons index rest ih =>
    apply ih (fun index member => inside index (.tail _ member))
    exact sound.assign (inside index (.head _)) _

theorem assignAll_loses (clientId : Nat → Asked) {list : List UInt8}
    (inside : ∀ index ∈ list, index ≠ qmuxTypeAll) (nodup : list.Nodup) (k : Nat) (s : State) :
    ∃ lost, Loses s (s.assignAll clientId list k) lost ∧
      (lost = [] ↔ ∀ item ∈ list.zipIdx k,
        s.qmiclientId item.1 = 0 ∧ (clientId item.2).Heard (service item.1)) := by
  induction list generalizing k s with
  | nil => exact ⟨[], Loses.refl s, by simp⟩
  | cons index rest ih =>
    obtain ⟨fresh, nodup⟩ := List.nodup_cons.mp nodup
    obtain ⟨first, one, none⟩ := assign_loses s (inside index (.head _)) (clientId k)
    obtain ⟨others, more, none'⟩ := ih (fun index member => inside index (.tail _ member)) nodup
      (k + 1) (s.assign index (clientId k))
    refine ⟨first ++ others, one.trans more, ?_⟩
    rw [List.append_eq_nil_iff, none, none', List.zipIdx_cons, List.forall_mem_cons]
    -- The assignment leaves the other entries alone.
    refine and_congr_right fun _ => forall₂_congr fun item member => ?_
    have different : item.1 ≠ index := by
      rintro rfl
      exact fresh (List.fst_mem_of_mem_zipIdx member)
    rw [assign_other s different]

theorem wanted_inside (enableIpv6 : Bool) : ∀ index ∈ wanted enableIpv6, index ≠ qmuxTypeAll := by
  have all : (wanted enableIpv6).all (· != qmuxTypeAll) = true := by
    cases enableIpv6 <;> rfl
  intro index member
  exact bne_iff_ne.mp (List.all_eq_true.mp all index member)

theorem nodup_wanted (enableIpv6 : Bool) : (wanted enableIpv6).Nodup := by
  cases enableIpv6 <;> decide

theorem readVersion_enableIpv6 (profile : Profile) (version : Option GetVersionRsp) :
    (profile.readVersion version).enableIpv6 = profile.enableIpv6 := by
  unfold Profile.readVersion
  split
  · rfl
  · split <;> rfl

theorem Sound.profile {s : State} (sound : Sound s) (profile : Profile) :
    Sound { s with profile := profile } := ⟨sound.covered, sound.licensed⟩

theorem Sound.init {s : State} (sound : Sound s) (start : Start) :
    Sound (qmiWwanInit s start).2 := by
  rw [qmiWwanInit]
  split
  · exact sound
  · exact ((sound.profile _).assignAll start.clientId (wanted_inside _) 0).profile _

theorem init_loses (s : State) (start : Start) :
    ∃ lost, Loses s (qmiWwanInit s start).2 lost ∧
      (lost = [] ↔ (start.ready = 0 → ∀ item ∈ (wanted s.profile.enableIpv6).zipIdx,
        s.qmiclientId item.1 = 0 ∧ (start.clientId item.2).Heard (service item.1))) := by
  rw [qmiWwanInit]
  by_cases ready : start.ready = 0
  · rw [if_neg (not_not_intro ready)]
    dsimp only
    rw [readVersion_enableIpv6]
    obtain ⟨lost, loses, none⟩ := assignAll_loses start.clientId
      (wanted_inside s.profile.enableIpv6) (nodup_wanted _) 0
      { s with profile := s.profile.readVersion start.version }
    exact ⟨lost, loses, none.trans ⟨fun each _ => each, fun each => each ready⟩⟩
  · rw [if_pos ready]
    exact ⟨[], Loses.refl s, iff_of_true rfl fun zero => absurd zero ready⟩

/-! ### The releases -/

/-- A turn of the loop loses the client id if the request is not written. -/
theorem giveBack_loses (written : UInt8 → Bool) (s : State) {index : UInt8}
    (inside : index ≠ qmuxTypeAll) :
    ∃ lost, Loses s (s.giveBack written index) lost ∧
      (lost = [] ↔ (s.qmiclientId index ≠ 0 → written index = true)) := by
  rw [State.giveBack]
  split
  next free => exact ⟨[], Loses.refl s, iff_of_true rfl fun taken => absurd free taken⟩
  next taken =>
    refine ⟨if written index then [] else [(service index, s.qmiclientId index)], ?_, by
      cases written index <;> simp [taken]⟩
    intro pair
    have exchanged := count_held_update s.qmiclientId inside 0 pair
    rw [entry, entry, Function.update_self, if_neg taken, if_pos rfl] at exchanged
    dsimp only
    simp only [granted, released, List.count_append]
    cases written index <;>
      simp only [Bool.false_eq_true, if_true, if_false, Option.toList, List.count_nil,
        List.count_singleton, beq_iff_eq, Happening.released.injEq, reduceCtorEq]
        at exchanged ⊢ <;> omega

theorem Sound.giveBack {s : State} (sound : Sound s) (written : UInt8 → Bool) {index : UInt8}
    (inside : index ≠ qmuxTypeAll) : Sound (s.giveBack written index) := by
  obtain ⟨lost, loses, _⟩ := giveBack_loses written s inside
  refine ⟨loses.covered sound.covered, ?_⟩
  rw [State.giveBack]
  split
  · exact sound.licensed
  next taken =>
    dsimp only
    split
    · apply sound.licensed.concat
      rintro pair ⟨⟩
      apply sound.outstanding inside
      rw [entry, if_neg taken]
    · exact (List.append_nil s.history).symm ▸ sound.licensed

theorem giveBack_qmiclientId (written : UInt8 → Bool) (s : State) (index other : UInt8) :
    (s.giveBack written index).qmiclientId other =
      if other = index then 0 else s.qmiclientId other := by
  rw [State.giveBack]
  split
  next free =>
    split
    next same => exact same ▸ free
    · rfl
  · exact Function.update_apply _ _ _ _

theorem indices_inside : ∀ index ∈ indices, index ≠ qmuxTypeAll := by
  intro index member
  obtain ⟨i, small, rfl⟩ := List.mem_map.mp member
  intro same
  have equal := congrArg UInt8.toNat same
  rw [Nat.toUInt8_eq, UInt8.toNat_ofNat'] at equal
  change i % 256 = 255 at equal
  have := List.mem_range.mp small
  omega

theorem Sound.deinit {s : State} (sound : Sound s) (written : UInt8 → Bool) :
    Sound (qmiWwanDeInit s written) := by
  have loop : ∀ (list : List UInt8) (s : State), (∀ index ∈ list, index ≠ qmuxTypeAll) →
      Sound s → Sound (list.foldl (State.giveBack written) s) := by
    intro list
    induction list with
    | nil => exact fun _ _ sound => sound
    | cons index rest ih =>
      exact fun s inside sound => ih _ (fun index member => inside index (.tail _ member))
        (sound.giveBack written (inside index (.head _)))
  exact loop indices s indices_inside sound

theorem foldl_giveBack_loses (written : UInt8 → Bool) {list : List UInt8}
    (inside : ∀ index ∈ list, index ≠ qmuxTypeAll) (nodup : list.Nodup) (s : State) :
    ∃ lost, Loses s (list.foldl (State.giveBack written) s) lost ∧
      (lost = [] ↔ ∀ index ∈ list, s.qmiclientId index ≠ 0 → written index = true) := by
  induction list generalizing s with
  | nil => exact ⟨[], Loses.refl s, by simp⟩
  | cons index rest ih =>
    obtain ⟨fresh, nodup⟩ := List.nodup_cons.mp nodup
    obtain ⟨first, one, none⟩ := giveBack_loses written s (inside index (.head _))
    obtain ⟨others, more, none'⟩ := ih (fun index member => inside index (.tail _ member)) nodup
      (s.giveBack written index)
    refine ⟨first ++ others, one.trans more, ?_⟩
    rw [List.append_eq_nil_iff, none, none', List.forall_mem_cons]
    refine and_congr_right fun _ => forall₂_congr fun other member => ?_
    have different : other ≠ index := by
      rintro rfl
      exact fresh member
    rw [giveBack_qmiclientId, if_neg different]

/-- `QmiWwanDeInit` leaves nothing in the table. -/
theorem held_deinit (s : State) (written : UInt8 → Bool) :
    held (qmiWwanDeInit s written).qmiclientId = [] := by
  have loop : ∀ (list : List UInt8) (s : State) (other : UInt8),
      other ∈ list ∨ s.qmiclientId other = 0 →
        (list.foldl (State.giveBack written) s).qmiclientId other = 0 := by
    intro list
    induction list with
    | nil => exact fun s other cleared => cleared.resolve_left List.not_mem_nil
    | cons index rest ih =>
      intro s other cleared
      apply ih
      rw [giveBack_qmiclientId]
      by_cases same : other = index
      · exact Or.inr (if_pos same)
      · rw [if_neg same]
        exact cleared.imp_left fun member => (List.mem_cons.mp member).resolve_left same
  rw [held, List.filterMap_eq_nil_iff]
  intro index member
  rw [entry, qmiWwanDeInit, loop indices s index (Or.inl member), if_pos rfl]

/-! ### The messages -/

/-- The message that is written has the client id of its entry, under the service of the entry. -/
theorem sent_entry {s : State} {request : Qmi} {wire : Wire}
    (reached : reaches (wire.device s) request)
    (other : (qmiWwanSendQMI (wire.device s) request).2.qmiType ≠ qmuxTypeCtl) :
    let msg := (qmiWwanSendQMI (wire.device s) request).2
    entry s.qmiclientId request.qmiType = some (msg.qmiType, msg.clientId) := by
  have connected : wire.cdcWdmFd ≠ -1 := reached.1
  by_cases control : request.qmiType = qmuxTypeCtl
  · simp [qmiWwanSendQMI, Wire.device, connected, control] at other
  · have given : s.qmiclientId request.qmiType ≠ 0 := reached.2.1 control
    have msg : (qmiWwanSendQMI (wire.device s) request).2 =
        { request with
          qmiType := service request.qmiType
          clientId := s.qmiclientId request.qmiType } := by
      simp only [qmiWwanSendQMI, Wire.device, connected, control, given, if_false, service]
      split
      · rfl
      · rfl
    rw [msg, entry, if_neg given]

theorem send_loses (s : State) (msg : Qmi) :
    Loses s { s with history := s.history ++ [.sent msg] } [] := by
  intro pair
  simp [granted, released, List.count_append]

theorem Sound.send {s : State} (sound : Sound s) (request : Qmi) (wire : Wire)
    (inside : request.qmiType ≠ qmuxTypeAll) (reached : reaches (wire.device s) request) :
    Sound { s with
      history := s.history ++ [.sent (qmiWwanSendQMI (wire.device s) request).2] } := by
  refine ⟨(send_loses s _).covered sound.covered, sound.licensed.concat ?_⟩
  intro pair named
  rw [Happening.names] at named
  split at named
  · cases named
  next other =>
    obtain rfl := Option.some.inj named
    exact sound.outstanding inside (sent_entry reached other)

/-! ### The runs -/

theorem step_sound {s : State} (sound : Sound s) (e : Event) : Sound (step s e) := by
  cases e with
  | init start => exact sound.init start
  | deinit written => exact sound.deinit written
  | send request wire =>
    rw [step]
    split
    next reached => exact sound.send request wire reached.1 reached.2
    · exact sound

/-- Nothing is lost: the client ids are asked for where the entries are free, each one that the
modem grants is heard, and each one of the table is given back with a request that is written. -/
def Orderly (s : State) : Event → Prop
  | .init start => start.ready = 0 → ∀ item ∈ (wanted s.profile.enableIpv6).zipIdx,
      s.qmiclientId item.1 = 0 ∧ (start.clientId item.2).Heard (service item.1)
  | .deinit written => ∀ index ∈ indices, s.qmiclientId index ≠ 0 → written index = true
  | .send _ _ => True

theorem step_loses (s : State) (e : Event) :
    ∃ lost, Loses s (step s e) lost ∧ (lost = [] ↔ Orderly s e) := by
  cases e with
  | init start => exact init_loses s start
  | deinit written => exact foldl_giveBack_loses written indices_inside nodup_indices s
  | send request wire =>
    refine ⟨[], ?_, iff_of_true rfl trivial⟩
    rw [step]
    split
    · exact send_loses s _
    · exact Loses.refl s

theorem start_sound (profile : Profile) : Sound { profile } := by
  refine ⟨fun pair => ?_, fun before now after split => absurd split (by simp)⟩
  have empty : held (fun _ => 0) = [] := by
    rw [held, List.filterMap_eq_nil_iff]
    exact fun _ _ => rfl
  rw [empty]
  exact Nat.le_refl 0

/-- The modem has not granted more than the table holds and has been given back. -/
def Settled (s : State) : Prop :=
  ∀ pair, granted s.history pair ≤ released s.history pair + (held s.qmiclientId).count pair

theorem Settled.of_step {s : State} {e : Event} (settled : Settled (step s e)) : Settled s := by
  intro pair
  obtain ⟨lost, loses, _⟩ := step_loses s e
  have balance := loses pair
  have after := settled pair
  omega

theorem settled_step_iff {s : State} (sound : Sound s) (settled : Settled s) (e : Event) :
    Settled (step s e) ↔ Orderly s e := by
  obtain ⟨lost, loses, orderly⟩ := step_loses s e
  rw [← orderly]
  constructor
  · intro after
    -- Whatever has been lost would be granted once more than it is accounted for.
    rw [List.eq_nil_iff_forall_not_mem]
    intro pair member
    have positive := List.count_pos_iff.mpr member
    have balance := loses pair
    have before := sound.covered pair
    have after := after pair
    omega
  · rintro rfl pair
    have balance := loses pair
    have before := settled pair
    rw [List.count_nil] at balance
    omega

/-- The account is settled at the end of a run exactly if nothing is lost on the way. -/
theorem settled_iff_orderly (profile : Profile) (events : List Event) :
    Settled (run step { profile } events) ↔ Guarded step Orderly { profile } events := by
  apply run_iff_guarded (fun _ _ => Settled.of_step)
    (fun s e (sound : Sound s) settled => settled_step_iff sound settled e)
    (fun s e sound _ => step_sound sound e)
  · exact start_sound profile
  · exact fun pair => Nat.zero_le _

/-- In every run, what is in the table or has been released has been granted by the modem, so that
nothing is released twice, and what has been named to the modem was outstanding. The modem has
granted no more than that, and after `QmiWwanDeInit` has everything back, exactly if in no step a
client id is lost. -/
theorem client_ids_outstanding (profile : Profile) (events : List Event) :
    (∀ pair, released (run step { profile } events).history pair +
        (held (run step { profile } events).qmiclientId).count pair ≤
      granted (run step { profile } events).history pair) ∧
      Licensed (run step { profile } events).history ∧
      ((∀ pair, granted (run step { profile } events).history pair =
          released (run step { profile } events).history pair +
            (held (run step { profile } events).qmiclientId).count pair) ↔
        Guarded step Orderly { profile } events) ∧
      ∀ written, (∀ pair,
          granted (run step { profile } (events ++ [.deinit written])).history pair =
            released (run step { profile } (events ++ [.deinit written])).history pair) ↔
        Guarded step Orderly { profile } (events ++ [.deinit written]) := by
  have sound (events : List Event) : Sound (run step { profile } events) :=
    run_invariant step Sound (fun s e sound => step_sound sound e) _ (start_sound profile) events
  have balanced (events : List Event) :
      (∀ pair, granted (run step { profile } events).history pair =
        released (run step { profile } events).history pair +
          (held (run step { profile } events).qmiclientId).count pair) ↔
      Guarded step Orderly { profile } events := by
    rw [← settled_iff_orderly]
    constructor
    · exact fun equal pair => Nat.le_of_eq (equal pair)
    · exact fun settled pair => Nat.le_antisymm (settled pair) ((sound events).covered pair)
  refine ⟨(sound events).covered, (sound events).licensed, balanced events, fun written => ?_⟩
  rw [← balanced]
  have empty : held (run step { profile } (events ++ [.deinit written])).qmiclientId = [] := by
    rw [run, List.foldl_append, List.foldl_cons, List.foldl_nil, step]
    exact held_deinit _ written
  simp only [empty, List.count_nil, Nat.add_zero]

/-- A modem that answers each request for a client id, with the same one for each service. -/
def obliging : Start where
  libqmi := none
  proxied := false
  sync := fun _ => 0
  version := none
  clientId := fun k => .answered
    ⟨0, 0, [qmuxTypeWds, qmuxTypeDms, qmuxTypeNas, qmuxTypeUim, qmuxTypeWdsAdmin].getD k 0, 4⟩

example : Guarded step Orderly { profile := ⟨0, false, false, 0⟩ }
    [.init obliging, .deinit fun _ => true] :=
  ⟨fun _ => by decide, fun _ _ _ => rfl, trivial⟩

end LorawanFeeds.QmiClient.ClientIds
