import LorawanFeeds.Cgi.TomlDocument
import LorawanFeeds.Cgi.TomlSet

/-!
# Reading what has been written

A new object reads the file of plain members: every member gets its value back, apart from
addresses that are split in another place, frequencies that are cut, and the lists of the filter.
-/
namespace LorawanFeeds.Cgi

open Lib Proc

/-! ### One field -/

/-- The field is read from one of the entries. -/
def FieldReads (es : List (String × TomlValue)) (field : TomlField) (f : Members → Members) : Prop :=
  ∃ v, (field.key, v) ∈ es ∧ commented v = false ∧ field.read v.tree = .ok f

namespace FieldReads

variable {key : String} {es : List (String × TomlValue)}

theorem text {assign : String → Members → Members} (s : String)
    (entry : (key, .text s) ∈ es) : FieldReads es (.text key assign) (assign s) :=
  ⟨_, entry, rfl, rfl⟩

theorem bool {assign : Bool → Members → Members} (b : Bool) (entry : (key, .flag b) ∈ es) :
    FieldReads es (.bool key assign) (assign b) := ⟨_, entry, rfl, rfl⟩

theorem uint32 {assign : UInt32 → Members → Members} (n : UInt32) (entry : (key, number n) ∈ es) :
    FieldReads es (.uint32 key assign) (assign n) := by
  refine ⟨_, entry, rfl, ?_⟩
  change Except.ok (assign n.toUInt64.toInt64.toUInt64.toUInt32) = _
  rw [UInt64.toUInt64_toInt64, UInt32.toUInt32_toUInt64]

/-- A larger number is cut. -/
theorem cut {assign : UInt32 → Members → Members} (n : UInt64)
    (entry : (key, .number n.toInt64) ∈ es) :
    FieldReads es (.uint32 key assign) (assign n.toUInt32) := by
  refine ⟨_, entry, rfl, ?_⟩
  change Except.ok (assign n.toInt64.toUInt64.toUInt32) = _
  rw [UInt64.toUInt64_toInt64]

theorem duration {assign : UInt32 → Members → Members} {sec : UInt32}
    (fits : sec.toNat < durationLimit) (entry : (key, Cgi.duration sec) ∈ es) :
    FieldReads es (.duration key assign) (assign sec) := by
  refine ⟨_, entry, rfl, ?_⟩
  simp only [TomlField.duration, Cgi.duration, TomlValue.tree, Toml.asString, thrown, Option.elim,
    bind, Except.bind, parseTomlStringToSec_written fits]
  rfl

theorem address {split : String → Except Fault (Option (String × UInt32))}
    {assign : String → UInt32 → Members → Members} {ip : String} {port : UInt32}
    {address : Option (String × UInt32)} (splits : split (joined ip port) = .ok address)
    (entry : (key, bindText ip port) ∈ es) :
    FieldReads es (.address key split assign) (address.elim id fun a => assign a.1 a.2) := by
  refine ⟨_, entry, rfl, ?_⟩
  rw [joined] at splits
  simp only [TomlField.address, bindText, TomlValue.tree, Toml.asString, thrown, Option.elim, bind,
    Except.bind, splits]
  cases address <;> rfl

theorem asStrings_tree (list : List String) : (TomlValue.texts list).tree.asStrings = some list := by
  rw [TomlValue.tree, Toml.asStrings]
  induction list with
  | nil => rfl
  | cons s list ih => simp [ih, Toml.asString]

theorem asPairs_tree (list : List (String × String)) :
    (TomlValue.pairs list).tree.asPairs = some list := by
  rw [TomlValue.tree, Toml.asPairs]
  induction list with
  | nil => rfl
  | cons e list ih => simp [ih, Toml.asPair, TomlValue.pair, Toml.asString]

theorem texts {assign : List String → Members → Members} {list : List String} (some : list ≠ [])
    (entry : (key, .texts list) ∈ es) :
    FieldReads es ⟨key, fun v => thrown (v.asStrings.map assign)⟩ (assign list) := by
  refine ⟨_, entry, ?_, ?_⟩
  · cases list with
    | nil => exact absurd rfl some
    | cons => rfl
  · change thrown (Option.map assign (TomlValue.texts list).tree.asStrings) = _
    rw [asStrings_tree]
    rfl

theorem pairs {assign : List (String × String) → Members → Members}
    {list : List (String × String)} (some : list ≠ []) (entry : (key, .pairs list) ∈ es) :
    FieldReads es ⟨key, fun v => thrown (v.asPairs.map assign)⟩ (assign list) := by
  refine ⟨_, entry, ?_, ?_⟩
  · cases list with
    | nil => exact absurd rfl some
    | cons => rfl
  · change thrown (Option.map assign (TomlValue.pairs list).tree.asPairs) = _
    rw [asPairs_tree]
    rfl

end FieldReads

/-! ### One table -/

theorem find_eq {table v : Toml} {key : String} (found : table.find key = some v) (p : BridgeToml) :
    find table key p = (.ok v, p) := by
  rw [find, found]
  rfl

theorem find_eq_thrown {table : Toml} {key : String} (absent : table.find key = none)
    (p : BridgeToml) : find table key p = (.error .thrown, p) := by
  rw [find, absent]
  rfl

/-- The keys that have a value are read, and then the others. -/
theorem parseFields_append {table : Toml} {fields : List TomlField}
    {assigns : List (Members → Members)}
    (each : List.Forall₂ (fun field f => ∃ v, table.find field.key = some v ∧ field.read v = .ok f)
      fields assigns) (rest : List TomlField) (p : BridgeToml) :
    parseFields table (fields ++ rest) p =
      parseFields table rest { p with members := assigns.foldl (fun m f => f m) p.members } := by
  induction each generalizing p with
  | nil => rfl
  | cons head _ ih =>
    obtain ⟨v, found, read⟩ := head
    rw [List.cons_append, parseFields, bind_apply, find_eq found]
    simp only [bind_apply, Proc.ofExcept, read]
    exact ih _

/-- Reading ends at a key that is missing. -/
theorem parseFields_missing {table : Toml} {field : TomlField} (absent : table.find field.key = none)
    (fields : List TomlField) (p : BridgeToml) :
    parseFields table (field :: fields) p = (.error .thrown, p) := by
  rw [parseFields, bind_apply, find_eq_thrown absent]

section

variable {data : Toml} {m : Members} (written : Written data m)

include written

theorem Written.findValue {name : String} {es : List (String × TomlValue)}
    (member : (name, es) ∈ m.tables) {path : List String} (header : headerPath name = path)
    {table : Toml} (found : data.lookup path = some table) {key : String} {v : TomlValue}
    (entry : (key, v) ∈ es) (kept : commented v = false) : table.find key = some v.tree := by
  subst header
  rw [Toml.find_eq_lookup found]
  exact written.value _ member (key, v) entry kept

/-- A table of the members, read field by field. -/
theorem Written.parseFields {name : String} {es : List (String × TomlValue)}
    (member : (name, es) ∈ m.tables) {path : List String} (header : headerPath name = path)
    {table : Toml} (found : data.lookup path = some table) {fields : List TomlField}
    {assigns : List (Members → Members)}
    (each : List.Forall₂ (FieldReads es) fields assigns) (rest : List TomlField) (p : BridgeToml) :
    Cgi.parseFields table (fields ++ rest) p =
      Cgi.parseFields table rest
        { p with members := assigns.foldl (fun m f => f m) p.members } := by
  apply parseFields_append
  refine each.imp ?_
  rintro field f ⟨v, entry, some, read⟩
  exact ⟨v.tree, written.findValue member header found entry some, read⟩

/-- A table below another one. -/
theorem Written.find {name : String} {es : List (String × TomlValue)}
    (member : (name, es) ∈ m.tables) {path : List String} {key : String}
    (header : headerPath name = path ++ [key]) {table : Toml}
    (found : data.lookup path = some table) :
    ∃ inner, data.lookup (path ++ [key]) = some inner ∧
      ∀ p, Cgi.find table key p = (.ok inner, p) := by
  obtain ⟨inner, there⟩ := written.table _ member
  rw [header] at there
  refine ⟨inner, there, find_eq ?_⟩
  rw [Toml.find_eq_lookup found, there]

/-! ### The sections -/

theorem parseTomlGeneral_written (p : BridgeToml) :
    parseTomlGeneral data p =
      (.ok (), { p with members := { p.members with logLevel := m.logLevel } }) := by
  have member : ("general", _) ∈ m.tables := .head _
  have header : headerPath "general" = [] ++ ["general"] := by decide +kernel
  obtain ⟨general, there, finds⟩ := written.find member header rfl
  refine bind_eq_ok.mpr ⟨general, p, finds p, ?_⟩
  exact written.parseFields member header there
    (.cons (.uint32 m.logLevel (by simp)) .nil) [] p

end

/-- An object whose addresses and lists have not been read. -/
structure Fresh (m : Members) : Prop where
  filters : m.filters = {}
  udp : m.udp.ip = "" ∧ m.udp.port = 0
  bs : m.bs.ip = "" ∧ m.bs.port = 0
  generic : m.generic.ip = "" ∧ m.generic.port = 0

/-- The lists as they are read: without the first one nothing is read, and both are needed for the
filter to be enabled. -/
def Filters.reread (filters : Filters) : Filters :=
  if filters.netIds = [] then {}
  else if filters.joinEuis = [] then { netIds := filters.netIds }
  else { filters with enable := true }

def SemtechUdp.reread (udp : SemtechUdp) (address : Option (String × UInt32)) : SemtechUdp :=
  { udp with ip := (addressRead address).1, port := (addressRead address).2 }

def BasicStation.reread (bs : BasicStation) (address : Option (String × UInt32)) : BasicStation :=
  { bs with
    ip := (addressRead address).1
    port := (addressRead address).2
    frequencyMin := bs.frequencyMin.toUInt32.toUInt64
    frequencyMax := bs.frequencyMax.toUInt32.toUInt64 }

def Generic.reread (generic : Generic) (address : Option (String × UInt32)) : Generic :=
  { generic with ip := (addressRead address).1, port := (addressRead address).2 }

section

variable {data : Toml} {m : Members} (written : Written data m)

include written

theorem parseTomlBackendUdp_written {address : Option (String × UInt32)}
    (splits : splitBind (joined m.udp.ip m.udp.port) = .ok address) {backend : Toml}
    (found : data.lookup ["backend"] = some backend) {p : BridgeToml}
    (fresh : p.members.udp.ip = "" ∧ p.members.udp.port = 0) :
    parseTomlBackendUdp backend p =
      (.ok (), { p with members := { p.members with udp := m.udp.reread address } }) := by
  have member : ("backend.semtech_udp", _) ∈ m.tables := .tail _ (.tail _ (.head _))
  have header : headerPath "backend.semtech_udp" = ["backend"] ++ ["semtech_udp"] := by
    decide +kernel
  obtain ⟨table, there, finds⟩ := written.find member header found
  refine bind_eq_ok.mpr ⟨table, p, finds p, ?_⟩
  refine (written.parseFields member header there
    (.cons (.address splits (by simp)) (.cons (.bool m.udp.skipCrcCheck (by simp))
    (.cons (.bool m.udp.fakeRxTime (by simp)) .nil))) [] p).trans ?_
  obtain ⟨⟨_, _, _, ⟨ip, port, _, _⟩, _⟩, _⟩ := p
  obtain ⟨rfl, rfl⟩ : ip = "" ∧ port = 0 := fresh
  cases address <;> rfl

theorem parseTomlBackendBs_written {address : Option (String × UInt32)}
    (splits : splitBind (joined m.bs.ip m.bs.port) = .ok address)
    (fits : ∀ sec ∈ [m.bs.pingInterval, m.bs.readTimeout, m.bs.writeTimeout],
      sec.toNat < durationLimit) {backend : Toml}
    (found : data.lookup ["backend"] = some backend) {p : BridgeToml}
    (fresh : p.members.bs.ip = "" ∧ p.members.bs.port = 0) :
    parseTomlBackendBs backend p =
      (.ok (), { p with members := { p.members with bs := m.bs.reread address } }) := by
  have member : ("backend.basic_station", _) ∈ m.tables :=
    .tail _ (.tail _ (.tail _ (.tail _ (.head _))))
  have header : headerPath "backend.basic_station" = ["backend"] ++ ["basic_station"] := by
    decide +kernel
  obtain ⟨table, there, finds⟩ := written.find member header found
  refine bind_eq_ok.mpr ⟨table, p, finds p, ?_⟩
  refine (written.parseFields member header there
    (.cons (.address splits (by simp)) (.cons (.text m.bs.tlsCert (by simp))
    (.cons (.text m.bs.tlsKey (by simp)) (.cons (.text m.bs.caCert (by simp))
    (.cons (.duration (fits m.bs.pingInterval (by simp)) (by simp))
    (.cons (.duration (fits m.bs.readTimeout (by simp)) (by simp))
    (.cons (.duration (fits m.bs.writeTimeout (by simp)) (by simp))
    (.cons (.text m.bs.region (by simp)) (.cons (.cut m.bs.frequencyMin (by simp))
    (.cons (.cut m.bs.frequencyMax (by simp)) .nil)))))))))) [] p).trans ?_
  obtain ⟨⟨_, _, _, _, ⟨ip, port, _⟩, _⟩, _⟩ := p
  obtain ⟨rfl, rfl⟩ : ip = "" ∧ port = 0 := fresh
  cases address <;> rfl

theorem parseTomlBackend_written {udp bs : Option (String × UInt32)}
    (udpSplits : splitBind (joined m.udp.ip m.udp.port) = .ok udp)
    (bsSplits : splitBind (joined m.bs.ip m.bs.port) = .ok bs)
    (fits : ∀ sec ∈ [m.bs.pingInterval, m.bs.readTimeout, m.bs.writeTimeout],
      sec.toNat < durationLimit) {p : BridgeToml} (fresh : Fresh p.members) :
    parseTomlBackend data p = (.ok (), { p with members := { p.members with
      backendType := m.backendType, udp := m.udp.reread udp, bs := m.bs.reread bs } }) := by
  have member : ("backend", _) ∈ m.tables := .tail _ (.tail _ (.tail _ (.head _)))
  have header : headerPath "backend" = [] ++ ["backend"] := by decide +kernel
  obtain ⟨backend, there, finds⟩ := written.find member header rfl
  refine bind_eq_ok.mpr ⟨backend, p, finds p, ?_⟩
  refine bind_eq_ok.mpr ⟨(), _, written.parseFields member header there
    (.cons (.text m.backendType (by simp)) .nil) [] p, ?_⟩
  refine bind_eq_ok.mpr ⟨(), _, parseTomlBackendUdp_written written udpSplits there fresh.udp, ?_⟩
  exact parseTomlBackendBs_written written bsSplits fits there fresh.bs

theorem Written.find_none {name : String} {es : List (String × TomlValue)}
    (member : (name, es) ∈ m.tables) {path : List String} (header : headerPath name = path)
    {table : Toml} (found : data.lookup path = some table) {key : String} {v : TomlValue}
    (entry : (key, v) ∈ es) (empty : commented v = true) : table.find key = none := by
  subst header
  rw [Toml.find_eq_lookup found]
  exact written.absent _ member (key, v) entry empty

/-- The first list that is missing ends the reading. -/
theorem parseTomlFilters_written {p : BridgeToml} (fresh : p.members.filters = {}) :
    parseTomlFilters data p =
      (.ok (), { p with members := { p.members with filters := m.filters.reread } }) := by
  have member : ("filters", _) ∈ m.tables := .tail _ (.head _)
  have header : headerPath "filters" = [] ++ ["filters"] := by decide +kernel
  obtain ⟨table, there, finds⟩ := written.find member header rfl
  refine bind_eq_ok.mpr ⟨table, p, finds p, ?_⟩
  obtain ⟨⟨_, filters, _⟩, disk⟩ := p
  obtain rfl : filters = {} := fresh
  rw [Filters.reread]
  simp only [Proc.tryCatch, bind_apply]
  by_cases noNetIds : m.filters.netIds = []
  · have absent := @Written.find_none _ _ written _ _ member _ header _ there "net_ids" _ (.head _)
      (by rw [noNetIds]; rfl)
    rw [@parseFields_missing table ⟨"net_ids", _⟩ absent, if_pos noNetIds]
    rfl
  · rw [if_neg noNetIds]
    have first := @FieldReads.texts "net_ids" [("net_ids", .texts m.filters.netIds),
      ("join_euis", .pairs m.filters.joinEuis)] (fun ids m => { m with filters.netIds := ids }) _
      noNetIds (.head _)
    by_cases noJoinEuis : m.filters.joinEuis = []
    · have absent := @Written.find_none _ _ written _ _ member _ header _ there "join_euis" _
        (.tail _ (.head _)) (by rw [noJoinEuis]; rfl)
      have read := written.parseFields member header there (.cons first .nil)
      rw [← List.singleton_append, read, @parseFields_missing table ⟨"join_euis", _⟩ absent,
        if_pos noJoinEuis]
      rfl
    · have read := written.parseFields member header there (.cons first
        (.cons (@FieldReads.pairs "join_euis" _ (fun euis m => { m with filters.joinEuis := euis }) _
          noJoinEuis (.tail _ (.head _))) .nil)) []
      rw [List.append_nil] at read
      rw [read, if_neg noJoinEuis]
      rfl

theorem parseTomlIntegrationGeneric_written {address : Option (String × UInt32)}
    (splits : splitServer (joined m.generic.ip m.generic.port) = .ok address) {auth : Toml}
    (found : data.lookup ["integration", "mqtt", "auth"] = some auth) {p : BridgeToml}
    (fresh : p.members.generic.ip = "" ∧ p.members.generic.port = 0) :
    parseTomlIntegrationGeneric auth p =
      (.ok (), { p with members := { p.members with generic := m.generic.reread address } }) := by
  have member : ("integration.mqtt.auth.generic", _) ∈ m.tables :=
    .tail _ (.tail _ (.tail _ (.tail _ (.tail _ (.tail _ (.tail _ (.tail _ (.tail _ (.tail _
      (.head _))))))))))
  have header : headerPath "integration.mqtt.auth.generic" =
      ["integration", "mqtt", "auth"] ++ ["generic"] := by
    decide +kernel
  obtain ⟨table, there, finds⟩ := written.find member header found
  refine bind_eq_ok.mpr ⟨table, p, finds p, ?_⟩
  refine (written.parseFields member header there
    (.cons (.address splits (by simp)) (.cons (.text m.generic.username (by simp))
    (.cons (.text m.generic.password (by simp)) (.cons (.cut m.generic.qos.toUInt64 (by simp))
    (.cons (.bool m.generic.cleanSession (by simp)) (.cons (.text m.generic.clientId (by simp))
    (.cons (.text m.generic.caCert (by simp)) (.cons (.text m.generic.tlsCert (by simp))
    (.cons (.text m.generic.tlsKey (by simp)) (.cons (.text m.generic.passPhrase (by simp))
    .nil)))))))))) [] p).trans ?_
  have qos : m.generic.qos.toUInt64.toUInt32.toUInt16 = m.generic.qos := by
    rw [UInt16.toUInt32_toUInt64, UInt16.toUInt16_toUInt32]
  obtain ⟨⟨_, _, _, _, _, _, _, _, _, _, ⟨ip, port, _⟩, _⟩, _⟩ := p
  obtain ⟨rfl, rfl⟩ : ip = "" ∧ port = 0 := fresh
  simp only [List.foldl_cons, List.foldl_nil, qos]
  cases address <;> rfl

theorem parseTomlIntegrationAzure_written
    (fits : m.azure.sasTokenExpiration.toNat < durationLimit) {auth : Toml}
    (found : data.lookup ["integration", "mqtt", "auth"] = some auth) (p : BridgeToml) :
    parseTomlIntegrationAzure auth p =
      (.ok (), { p with members := { p.members with azure := m.azure } }) := by
  have member : ("integration.mqtt.auth.azure_iot_hub", _) ∈ m.tables :=
    .tail _ (.tail _ (.tail _ (.tail _ (.tail _ (.tail _ (.tail _ (.tail _ (.tail _
      (.head _)))))))))
  have header : headerPath "integration.mqtt.auth.azure_iot_hub" =
      ["integration", "mqtt", "auth"] ++ ["azure_iot_hub"] := by
    decide +kernel
  obtain ⟨table, there, finds⟩ := written.find member header found
  refine bind_eq_ok.mpr ⟨table, p, finds p, ?_⟩
  exact written.parseFields member header there
    (.cons (.text m.azure.deviceConnectionString (by simp)) (.cons (.duration fits (by simp))
    (.cons (.text m.azure.deviceId (by simp)) (.cons (.text m.azure.hostname (by simp))
    (.cons (.text m.azure.tlsCert (by simp)) (.cons (.text m.azure.tlsKey (by simp))
    .nil)))))) [] p

theorem parseTomlIntegrationGcp_written
    (fits : m.gcp.jwtExpiration.toNat < durationLimit) {auth : Toml}
    (found : data.lookup ["integration", "mqtt", "auth"] = some auth) (p : BridgeToml) :
    parseTomlIntegrationGcp auth p =
      (.ok (), { p with members := { p.members with gcp := m.gcp } }) := by
  have member : ("integration.mqtt.auth.gcp_cloud_iot_core", _) ∈ m.tables :=
    .tail _ (.tail _ (.tail _ (.tail _ (.tail _ (.tail _ (.tail _ (.tail _ (.head _))))))))
  have header : headerPath "integration.mqtt.auth.gcp_cloud_iot_core" =
      ["integration", "mqtt", "auth"] ++ ["gcp_cloud_iot_core"] := by
    decide +kernel
  obtain ⟨table, there, finds⟩ := written.find member header found
  refine bind_eq_ok.mpr ⟨table, p, finds p, ?_⟩
  exact written.parseFields member header there
    (.cons (.text m.gcp.server (by simp)) (.cons (.text m.gcp.deviceId (by simp))
    (.cons (.text m.gcp.projectId (by simp)) (.cons (.text m.gcp.cloudRegion (by simp))
    (.cons (.text m.gcp.registryId (by simp)) (.cons (.duration fits (by simp))
    (.cons (.text m.gcp.jwtKeyFile (by simp)) .nil))))))) [] p

/-- The members of the integration as they are read. -/
def Members.withIntegration (m new : Members) (server : Option (String × UInt32)) : Members :=
  { m with
    marshaler := new.marshaler
    eventTopicTemplate := new.eventTopicTemplate
    commandTopicTemplate := new.commandTopicTemplate
    maxReconnectInterval := new.maxReconnectInterval
    mqttAuthType := new.mqttAuthType
    generic := new.generic.reread server
    gcp := new.gcp
    azure := new.azure }

theorem parseTomlIntegration_written {server : Option (String × UInt32)}
    (splits : splitServer (joined m.generic.ip m.generic.port) = .ok server)
    (fits : ∀ sec ∈ [m.maxReconnectInterval, m.gcp.jwtExpiration, m.azure.sasTokenExpiration],
      sec.toNat < durationLimit) {p : BridgeToml}
    (fresh : p.members.generic.ip = "" ∧ p.members.generic.port = 0) :
    parseTomlIntegration data p =
      (.ok (), { p with members := p.members.withIntegration m server }) := by
  have integrationMember : ("integration", _) ∈ m.tables :=
    .tail _ (.tail _ (.tail _ (.tail _ (.tail _ (.tail _ (.tail _ (.head _)))))))
  have integrationHeader : headerPath "integration" = [] ++ ["integration"] := by decide +kernel
  have mqttMember : ("integration.mqtt", _) ∈ m.tables :=
    .tail _ (.tail _ (.tail _ (.tail _ (.tail _ (.head _)))))
  have mqttHeader : headerPath "integration.mqtt" = ["integration"] ++ ["mqtt"] := by decide +kernel
  have authMember : ("integration.mqtt.auth", _) ∈ m.tables :=
    .tail _ (.tail _ (.tail _ (.tail _ (.tail _ (.tail _ (.head _))))))
  have authHeader : headerPath "integration.mqtt.auth" = ["integration", "mqtt"] ++ ["auth"] := by
    decide +kernel
  obtain ⟨integration, there, finds⟩ := written.find integrationMember integrationHeader rfl
  obtain ⟨mqtt, mqttThere, mqttFinds⟩ := written.find mqttMember mqttHeader there
  obtain ⟨auth, authThere, authFinds⟩ := written.find authMember authHeader mqttThere
  refine bind_eq_ok.mpr ⟨integration, p, finds p, ?_⟩
  refine bind_eq_ok.mpr ⟨(), _, written.parseFields integrationMember integrationHeader there
    (.cons (.text m.marshaler (by simp)) .nil) [] p, ?_⟩
  refine bind_eq_ok.mpr ⟨mqtt, _, mqttFinds _, ?_⟩
  refine bind_eq_ok.mpr ⟨(), _, written.parseFields mqttMember mqttHeader mqttThere
    (.cons (.text m.eventTopicTemplate (by simp)) (.cons (.text m.commandTopicTemplate (by simp))
    (.cons (.duration (fits m.maxReconnectInterval (by simp)) (by simp)) .nil))) [] _, ?_⟩
  refine bind_eq_ok.mpr ⟨auth, _, authFinds _, ?_⟩
  refine bind_eq_ok.mpr ⟨(), _, written.parseFields authMember authHeader authThere
    (.cons (.text m.mqttAuthType (by simp)) .nil) [] _, ?_⟩
  refine bind_eq_ok.mpr ⟨(), _, parseTomlIntegrationGeneric_written written splits authThere fresh, ?_⟩
  refine bind_eq_ok.mpr ⟨(), _, parseTomlIntegrationAzure_written written
    (fits m.azure.sasTokenExpiration (by simp)) authThere _, ?_⟩
  exact parseTomlIntegrationGcp_written written (fits m.gcp.jwtExpiration (by simp)) authThere _

end

end LorawanFeeds.Cgi
