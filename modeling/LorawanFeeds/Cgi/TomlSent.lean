import LorawanFeeds.Cgi.TomlSections

/-!
# The values of a request

What a request for one section sends, and that the members which are written have these values.
Numbers are taken to be in the range of their members; others would be cut when they are read.
-/
namespace LorawanFeeds.Cgi

open Lib Bridge

/-- The paths below `body` that a request for the section is read at. -/
def sentPaths (remoteJson : Json) (s : Section) : List (List String) :=
  (requestFields remoteJson s.setOption).map RemoteField.path

/-- The numbers of a request, with the range of their members. -/
def numberPaths : List (List String × Nat) := [
  (["log_level"], 2 ^ 32), (["semtech_udp", "udp_port"], 2 ^ 32),
  (["basic_station", "bind_port"], 2 ^ 32), (["basic_station", "frequency_max"], 2 ^ 64),
  (["basic_station", "frequency_min"], 2 ^ 64), (["basic_station", "ping_interval"], 2 ^ 32),
  (["basic_station", "read_timeout"], 2 ^ 32), (["basic_station", "write_timeout"], 2 ^ 32),
  (["mqtt", "max_reconnect_interval"], 2 ^ 32), (["generic", "port"], 2 ^ 32),
  (["generic", "qos"], 2 ^ 16), (["gcp_cloud_iot_core", "jwt_expiration"], 2 ^ 32),
  (["azure_iot_hub", "sas_token_expiration"], 2 ^ 32)]

/-- Every number at one of the paths is an integer in the range of its member. -/
def NumbersInRange (remoteJson : Json) (paths : List (List String)) : Prop :=
  ∀ number ∈ numberPaths, number.1 ∈ paths →
    ∃ k : UInt64, inBody remoteJson number.1 = some (.uint k) ∧ k.toNat < number.2

/-! ### One field -/

namespace RemoteField

variable {remoteJson : Json} {path : List String}

theorem sent_text {assign : String → Members → Members}
    (accepts : ((RemoteField.text path assign).value remoteJson).isSome = true) :
    ∃ s, inBody remoteJson path = some (.str s) ∧
      (RemoteField.text path assign).value remoteJson = some (assign s) := by
  obtain ⟨f, value⟩ := Option.isSome_iff_exists.mp accepts
  obtain ⟨j, found, read⟩ := Option.bind_eq_some_iff.mp value
  cases j with
  | str s => exact ⟨s, found, value.trans (congrArg some (Option.some.inj read).symm)⟩
  | _ => cases read

theorem sent_bool {assign : Bool → Members → Members}
    (accepts : ((RemoteField.bool path assign).value remoteJson).isSome = true) :
    ∃ b, inBody remoteJson path = some (.bool b) ∧
      (RemoteField.bool path assign).value remoteJson = some (assign b) := by
  obtain ⟨f, value⟩ := Option.isSome_iff_exists.mp accepts
  obtain ⟨j, found, read⟩ := Option.bind_eq_some_iff.mp value
  cases j with
  | bool b => exact ⟨b, found, value.trans (congrArg some (Option.some.inj read).symm)⟩
  | _ => cases read

theorem sent_uint32 {assign : UInt32 → Members → Members}
    (_ : ((RemoteField.uint32 path assign).value remoteJson).isSome = true)
    (range : ∃ k : UInt64, inBody remoteJson path = some (.uint k) ∧ k.toNat < 2 ^ 32) :
    ∃ n : UInt32, inBody remoteJson path = some (.uint n.toUInt64) ∧
      (RemoteField.uint32 path assign).value remoteJson = some (assign n) := by
  obtain ⟨k, sent, small⟩ := range
  refine ⟨k.toUInt32, ?_, ?_⟩
  · rw [sent, frequency_kept small]
  · exact Option.bind_eq_some_iff.mpr ⟨_, sent, rfl⟩

theorem sent_uint64 {assign : UInt64 → Members → Members}
    (_ : ((RemoteField.uint64 path assign).value remoteJson).isSome = true)
    (range : ∃ k : UInt64, inBody remoteJson path = some (.uint k) ∧ k.toNat < 2 ^ 64) :
    ∃ n : UInt64, inBody remoteJson path = some (.uint n) ∧
      (RemoteField.uint64 path assign).value remoteJson = some (assign n) := by
  obtain ⟨k, sent, _⟩ := range
  exact ⟨k, sent, Option.bind_eq_some_iff.mpr ⟨_, sent, rfl⟩⟩

theorem sent_uint16 {assign : UInt16 → Members → Members}
    (_ : ((RemoteField.uint16 path assign).value remoteJson).isSome = true)
    (range : ∃ k : UInt64, inBody remoteJson path = some (.uint k) ∧ k.toNat < 2 ^ 16) :
    ∃ n : UInt16, inBody remoteJson path = some (.uint n.toUInt64) ∧
      (RemoteField.uint16 path assign).value remoteJson = some (assign n) := by
  obtain ⟨k, sent, small⟩ := range
  refine ⟨k.toUInt16, ?_, ?_⟩
  · rw [sent]
    congr 2
    apply UInt64.toNat_inj.mp
    rw [UInt16.toNat_toUInt64, UInt64.toNat_toUInt16, Nat.mod_eq_of_lt small]
  · exact Option.bind_eq_some_iff.mpr ⟨_, sent, rfl⟩

end RemoteField

theorem asStrings_eq_some {j : Json} {list : List String} (read : asStrings j = some list) :
    j = .arr (list.map .str) := by
  cases j with
  | arr items =>
    rw [asStrings] at read
    congr 1
    induction items generalizing list with
    | nil =>
      cases read
      rfl
    | cons item items ih =>
      simp only [List.mapM_cons, Option.bind_eq_bind, Option.bind_eq_some_iff] at read
      obtain ⟨s, first, rest, later, eq⟩ := read
      cases eq
      cases item with
      | str t =>
        cases first
        rw [ih later]
        rfl
      | _ => cases first
  | _ => cases read

theorem asPairs_eq_some {j : Json} {list : List (String × String)} (read : asPairs j = some list)
    (pairs : ∀ items, j = .arr items → ∀ item ∈ items, ∃ a b, item = .arr [a, b]) :
    j = .arr (list.map fun e => .arr [.str e.1, .str e.2]) := by
  cases j with
  | arr items =>
    have two := pairs items rfl
    clear pairs
    rw [asPairs] at read
    congr 1
    induction items generalizing list with
    | nil =>
      cases read
      rfl
    | cons item items ih =>
      simp only [List.mapM_cons, Option.bind_eq_bind, Option.bind_eq_some_iff] at read
      obtain ⟨e, first, rest, later, eq⟩ := read
      cases eq
      obtain ⟨a, b, rfl⟩ := two item (by simp)
      simp only [asPair, Option.bind_eq_bind, Option.bind_eq_some_iff] at first
      obtain ⟨s, readA, t, readB, same⟩ := first
      cases same
      rw [ih later fun i member => two i (by simp [member])]
      cases a with
      | str a =>
        cases readA
        cases b with
        | str b =>
          cases readB
          rfl
        | _ => cases readB
      | _ => cases readA
  | _ => cases read

/-! ### The sections -/

/-- The values of the members, at the paths that an answer has them at. -/
def udpShown (n : Members) : List (List String × Json) := [
  (["backend_type"], .str n.backendType),
  (["semtech_udp", "udp_ip"], .str n.udp.ip),
  (["semtech_udp", "udp_port"], .uint n.udp.port.toUInt64),
  (["semtech_udp", "skip_crc_check"], .bool n.udp.skipCrcCheck),
  (["semtech_udp", "fake_rx_time"], .bool n.udp.fakeRxTime)]

def bsShown (n : Members) : List (List String × Json) := [
  (["backend_type"], .str n.backendType),
  (["basic_station", "bind_ip"], .str n.bs.ip),
  (["basic_station", "bind_port"], .uint n.bs.port.toUInt64),
  (["basic_station", "tls_cert"], .str n.bs.tlsCert),
  (["basic_station", "tls_key"], .str n.bs.tlsKey),
  (["basic_station", "ca_cert"], .str n.bs.caCert),
  (["basic_station", "ping_interval"], .uint n.bs.pingInterval.toUInt64),
  (["basic_station", "write_timeout"], .uint n.bs.writeTimeout.toUInt64),
  (["basic_station", "region"], .str n.bs.region),
  (["basic_station", "read_timeout"], .uint n.bs.readTimeout.toUInt64),
  (["basic_station", "frequency_min"], .uint n.bs.frequencyMin),
  (["basic_station", "frequency_max"], .uint n.bs.frequencyMax)]

def mqttShown (n : Members) : List (List String × Json) := [
  (["marshaler"], .str n.marshaler),
  (["mqtt", "event_topic_template"], .str n.eventTopicTemplate),
  (["mqtt", "command_topic_template"], .str n.commandTopicTemplate),
  (["mqtt", "max_reconnect_interval"], .uint n.maxReconnectInterval.toUInt64)]

section

open RemoteField

variable {remoteJson : Json} (m : Members)

theorem udp_sent (accepts : Accepts remoteJson (backendTypeField :: udpFields))
    (range : NumbersInRange remoteJson ((backendTypeField :: udpFields).map RemoteField.path)) :
    ∀ e ∈ udpShown (applyFields remoteJson (backendTypeField :: udpFields) m),
      inBody remoteJson e.1 = some e.2 := by
  simp only [Accepts, udpFields, List.forall_mem_cons, backendTypeField] at accepts
  obtain ⟨type, ip, port, crc, time, _⟩ := accepts
  obtain ⟨_, typeSent, typeValue⟩ := sent_text type
  obtain ⟨_, ipSent, ipValue⟩ := sent_text ip
  obtain ⟨_, portSent, portValue⟩ := sent_uint32 port
    (range (["semtech_udp", "udp_port"], 2 ^ 32) (by decide) (by decide))
  obtain ⟨_, crcSent, crcValue⟩ := sent_bool crc
  obtain ⟨_, timeSent, timeValue⟩ := sent_bool time
  simp only [applyFields, udpFields, backendTypeField, List.foldl_cons, List.foldl_nil, typeValue,
    ipValue, portValue, crcValue, timeValue, Option.getD_some, udpShown, List.forall_mem_cons]
  exact ⟨typeSent, ipSent, portSent, crcSent, timeSent, by simp⟩

theorem bs_sent (accepts : Accepts remoteJson (backendTypeField :: bsFields))
    (range : NumbersInRange remoteJson ((backendTypeField :: bsFields).map RemoteField.path)) :
    ∀ e ∈ bsShown (applyFields remoteJson (backendTypeField :: bsFields) m),
      inBody remoteJson e.1 = some e.2 := by
  simp only [Accepts, bsFields, List.forall_mem_cons, backendTypeField] at accepts
  obtain ⟨type, ip, port, ca, max, min, ping, read, region, cert, key, write, _⟩ := accepts
  have number (key : String) (bound : Nat)
      (known : (["basic_station", key], bound) ∈ numberPaths)
      (here : ["basic_station", key] ∈ (backendTypeField :: bsFields).map RemoteField.path) :=
    range (["basic_station", key], bound) known here
  obtain ⟨_, typeSent, typeValue⟩ := sent_text type
  obtain ⟨_, ipSent, ipValue⟩ := sent_text ip
  obtain ⟨_, portSent, portValue⟩ := sent_uint32 port
    (number "bind_port" _ (by decide) (by decide))
  obtain ⟨_, caSent, caValue⟩ := sent_text ca
  obtain ⟨_, maxSent, maxValue⟩ := sent_uint64 max
    (number "frequency_max" _ (by decide) (by decide))
  obtain ⟨_, minSent, minValue⟩ := sent_uint64 min
    (number "frequency_min" _ (by decide) (by decide))
  obtain ⟨_, pingSent, pingValue⟩ := sent_uint32 ping
    (number "ping_interval" _ (by decide) (by decide))
  obtain ⟨_, readSent, readValue⟩ := sent_uint32 read
    (number "read_timeout" _ (by decide) (by decide))
  obtain ⟨_, regionSent, regionValue⟩ := sent_text region
  obtain ⟨_, certSent, certValue⟩ := sent_text cert
  obtain ⟨_, keySent, keyValue⟩ := sent_text key
  obtain ⟨_, writeSent, writeValue⟩ := sent_uint32 write
    (number "write_timeout" _ (by decide) (by decide))
  simp only [applyFields, bsFields, backendTypeField, List.foldl_cons, List.foldl_nil, typeValue,
    ipValue, portValue, caValue, maxValue, minValue, pingValue, readValue, regionValue, certValue,
    keyValue, writeValue, Option.getD_some, bsShown, List.forall_mem_cons]
  exact ⟨typeSent, ipSent, portSent, certSent, keySent, caSent, pingSent, writeSent, regionSent,
    readSent, minSent, maxSent, by simp⟩

/-- The values that do not depend on the kind of authentication, and what is read after them. -/
theorem mqtt_sent {auth : List RemoteField} (accepts : Accepts remoteJson (mqttFields ++ auth))
    (range : NumbersInRange remoteJson ((mqttFields ++ auth).map RemoteField.path)) {type : String}
    (known : textAt remoteJson ["mqtt_auth_type"] = some type) :
    ∃ command event marshaler interval,
      applyFields remoteJson (mqttFields ++ auth) m = applyFields remoteJson auth { m with
        commandTopicTemplate := command, eventTopicTemplate := event, marshaler := marshaler
        mqttAuthType := type, maxReconnectInterval := interval } ∧
      inBody remoteJson ["mqtt", "command_topic_template"] = some (.str command) ∧
      inBody remoteJson ["mqtt", "event_topic_template"] = some (.str event) ∧
      inBody remoteJson ["marshaler"] = some (.str marshaler) ∧
      inBody remoteJson ["mqtt_auth_type"] = some (.str type) ∧
      inBody remoteJson ["mqtt", "max_reconnect_interval"] = some (.uint interval.toUInt64) := by
  have first := ((accepts_append remoteJson mqttFields auth).mp accepts).1
  simp only [Accepts, mqttFields, List.forall_mem_cons] at first
  obtain ⟨command, event, interval, marshaler, authType, _⟩ := first
  obtain ⟨_, commandSent, commandValue⟩ := sent_text command
  obtain ⟨_, eventSent, eventValue⟩ := sent_text event
  have here : ["mqtt", "max_reconnect_interval"] ∈ (mqttFields ++ auth).map RemoteField.path := by
    rw [List.map_append, List.mem_append]
    exact .inl (by decide)
  obtain ⟨_, intervalSent, intervalValue⟩ := sent_uint32 interval
    (range (["mqtt", "max_reconnect_interval"], 2 ^ 32) (by decide) here)
  obtain ⟨_, marshalerSent, marshalerValue⟩ := sent_text marshaler
  obtain ⟨_, typeSent, typeValue⟩ := sent_text authType
  rw [textAt, typeSent] at known
  cases known
  refine ⟨_, _, _, _, ?_, commandSent, eventSent, marshalerSent, typeSent, intervalSent⟩
  rw [applyFields_append]
  simp only [applyFields, mqttFields, List.foldl_cons, List.foldl_nil, commandValue, eventValue,
    intervalValue, marshalerValue, typeValue, Option.getD_some]

def allGenericFields : List RemoteField :=
  genericFields ++ [genericCertField] ++ [genericKeyField] ++ genericUserFields

theorem generic_sent (accepts : Accepts remoteJson (mqttFields ++ allGenericFields))
    (range : NumbersInRange remoteJson ((mqttFields ++ allGenericFields).map RemoteField.path))
    (type : textAt remoteJson ["mqtt_auth_type"] = some "generic") :
    let n := applyFields remoteJson (mqttFields ++ allGenericFields) m
    n.mqttAuthType = "generic" ∧
      ∀ e ∈ mqttShown n ++ generateJsonForAuth n, inBody remoteJson e.1 = some e.2 := by
  obtain ⟨command, event, marshaler, interval, applied, commandSent, eventSent, marshalerSent,
    typeSent, intervalSent⟩ := mqtt_sent m accepts range type
  have second := ((accepts_append remoteJson mqttFields allGenericFields).mp accepts).2
  have number (key : String) (bound : Nat) (known : (["generic", key], bound) ∈ numberPaths)
      (here : ["generic", key] ∈ (mqttFields ++ allGenericFields).map RemoteField.path) :=
    range (["generic", key], bound) known here
  simp only [Accepts, allGenericFields, genericFields, genericCertField, genericKeyField,
    genericUserFields, List.cons_append, List.nil_append, List.forall_mem_cons] at second
  obtain ⟨clean, client, ip, password, port, qos, ca, cert, key, user, phrase, _⟩ := second
  obtain ⟨_, cleanSent, cleanValue⟩ := sent_bool clean
  obtain ⟨_, clientSent, clientValue⟩ := sent_text client
  obtain ⟨_, ipSent, ipValue⟩ := sent_text ip
  obtain ⟨_, passwordSent, passwordValue⟩ := sent_text password
  obtain ⟨_, portSent, portValue⟩ := sent_uint32 port (number "port" _ (by decide) (by decide))
  obtain ⟨_, qosSent, qosValue⟩ := sent_uint16 qos (number "qos" _ (by decide) (by decide))
  obtain ⟨_, caSent, caValue⟩ := sent_text ca
  obtain ⟨_, certSent, certValue⟩ := sent_text cert
  obtain ⟨_, keySent, keyValue⟩ := sent_text key
  obtain ⟨_, userSent, userValue⟩ := sent_text user
  obtain ⟨_, phraseSent, phraseValue⟩ := sent_text phrase
  rw [applied]
  simp only [applyFields, allGenericFields, genericFields, genericCertField, genericKeyField,
    genericUserFields, List.cons_append, List.nil_append, List.foldl_cons, List.foldl_nil,
    cleanValue, clientValue, ipValue, passwordValue, portValue, qosValue, caValue, certValue,
    keyValue, userValue, phraseValue, Option.getD_some, mqttShown, generateJsonForAuth, if_true,
    List.forall_mem_cons]
  exact ⟨trivial, marshalerSent, eventSent, commandSent, intervalSent, typeSent, ipSent, portSent,
    userSent, passwordSent, qosSent, cleanSent, clientSent, caSent, certSent, keySent, phraseSent,
    by simp⟩

theorem gcp_sent (accepts : Accepts remoteJson (mqttFields ++ gcpFields))
    (range : NumbersInRange remoteJson ((mqttFields ++ gcpFields).map RemoteField.path))
    (type : textAt remoteJson ["mqtt_auth_type"] = some "gcp_cloud_iot_core") :
    let n := applyFields remoteJson (mqttFields ++ gcpFields) m
    n.mqttAuthType = "gcp_cloud_iot_core" ∧
      ∀ e ∈ mqttShown n ++ generateJsonForAuth n, inBody remoteJson e.1 = some e.2 := by
  obtain ⟨command, event, marshaler, interval, applied, commandSent, eventSent, marshalerSent,
    typeSent, intervalSent⟩ := mqtt_sent m accepts range type
  have second := ((accepts_append remoteJson mqttFields gcpFields).mp accepts).2
  simp only [Accepts, gcpFields, List.forall_mem_cons] at second
  obtain ⟨region, device, server, jwt, keyFile, project, registry, _⟩ := second
  obtain ⟨_, regionSent, regionValue⟩ := sent_text region
  obtain ⟨_, deviceSent, deviceValue⟩ := sent_text device
  obtain ⟨_, serverSent, serverValue⟩ := sent_text server
  obtain ⟨_, jwtSent, jwtValue⟩ := sent_uint32 jwt
    (range (["gcp_cloud_iot_core", "jwt_expiration"], 2 ^ 32) (by decide) (by decide))
  obtain ⟨_, fileSent, fileValue⟩ := sent_text keyFile
  obtain ⟨_, projectSent, projectValue⟩ := sent_text project
  obtain ⟨_, registrySent, registryValue⟩ := sent_text registry
  have other : "gcp_cloud_iot_core" ≠ "generic" := by decide
  rw [applied]
  simp only [applyFields, gcpFields, List.foldl_cons, List.foldl_nil, regionValue, deviceValue,
    serverValue, jwtValue, fileValue, projectValue, registryValue, Option.getD_some, mqttShown,
    generateJsonForAuth, if_neg other, if_true, List.cons_append, List.nil_append,
    List.forall_mem_cons]
  exact ⟨trivial, marshalerSent, eventSent, commandSent, intervalSent, typeSent, serverSent, deviceSent,
    projectSent, regionSent, registrySent, jwtSent, fileSent, by simp⟩

theorem azure_sent (accepts : Accepts remoteJson (mqttFields ++ azureFields))
    (range : NumbersInRange remoteJson ((mqttFields ++ azureFields).map RemoteField.path))
    (type : textAt remoteJson ["mqtt_auth_type"] = some "azure_iot_hub") :
    let n := applyFields remoteJson (mqttFields ++ azureFields) m
    n.mqttAuthType = "azure_iot_hub" ∧
      ∀ e ∈ mqttShown n ++ generateJsonForAuth n, inBody remoteJson e.1 = some e.2 := by
  obtain ⟨command, event, marshaler, interval, applied, commandSent, eventSent, marshalerSent,
    typeSent, intervalSent⟩ := mqtt_sent m accepts range type
  have second := ((accepts_append remoteJson mqttFields azureFields).mp accepts).2
  simp only [Accepts, azureFields, List.forall_mem_cons] at second
  obtain ⟨connection, device, host, sas, cert, key, _⟩ := second
  obtain ⟨_, connectionSent, connectionValue⟩ := sent_text connection
  obtain ⟨_, deviceSent, deviceValue⟩ := sent_text device
  obtain ⟨_, hostSent, hostValue⟩ := sent_text host
  obtain ⟨_, sasSent, sasValue⟩ := sent_uint32 sas
    (range (["azure_iot_hub", "sas_token_expiration"], 2 ^ 32) (by decide) (by decide))
  obtain ⟨_, certSent, certValue⟩ := sent_text cert
  obtain ⟨_, keySent, keyValue⟩ := sent_text key
  have noGeneric : "azure_iot_hub" ≠ "generic" := by decide
  have noGcp : "azure_iot_hub" ≠ "gcp_cloud_iot_core" := by decide
  rw [applied]
  simp only [applyFields, azureFields, List.foldl_cons, List.foldl_nil, connectionValue, deviceValue,
    hostValue, sasValue, certValue, keyValue, Option.getD_some, mqttShown, generateJsonForAuth,
    if_neg noGeneric, if_neg noGcp, if_true, List.cons_append, List.nil_append, List.forall_mem_cons]
  exact ⟨trivial, marshalerSent, eventSent, commandSent, intervalSent, typeSent, connectionSent, sasSent,
    deviceSent, hostSent, certSent, keySent, by simp⟩

theorem general_sent (accepts : Accepts remoteJson [generalField])
    (range : NumbersInRange remoteJson ([generalField].map RemoteField.path)) :
    inBody remoteJson ["log_level"] =
      some (.uint (applyFields remoteJson [generalField] m).logLevel.toUInt64) := by
  simp only [Accepts, generalField, List.forall_mem_cons] at accepts
  obtain ⟨_, sent, value⟩ := sent_uint32 accepts.1
    (range (["log_level"], 2 ^ 32) (by decide) (by decide))
  simp only [applyFields, generalField, List.foldl_cons, List.foldl_nil, value, Option.getD_some]
  exact sent

/-- The lists of a request that enables the filter. -/
theorem filters_sent (accepts : Accepts remoteJson (enableField :: filterFields)) :
    let n := applyFields remoteJson (enableField :: filterFields) m
    inBody remoteJson ["filter_enable"] = some (.bool n.filters.enable) ∧
      inBody remoteJson ["net_ids"] = some (.arr (n.filters.netIds.map .str)) ∧
      ((∀ items, inBody remoteJson ["join_euis"] = some (.arr items) →
        ∀ item ∈ items, ∃ a b, item = .arr [a, b]) →
      inBody remoteJson ["join_euis"] =
        some (.arr (n.filters.joinEuis.map fun e => .arr [.str e.1, .str e.2]))) := by
  simp only [Accepts, enableField, filterFields, List.forall_mem_cons] at accepts
  obtain ⟨enable, netIds, joinEuis, _⟩ := accepts
  obtain ⟨_, enableSent, enableValue⟩ := sent_bool enable
  obtain ⟨f, netValue⟩ := Option.isSome_iff_exists.mp netIds
  obtain ⟨netJson, netFound, netRead⟩ := Option.bind_eq_some_iff.mp netValue
  obtain ⟨ids, idsRead, rfl⟩ := Option.map_eq_some_iff.mp netRead
  obtain ⟨g, joinValue⟩ := Option.isSome_iff_exists.mp joinEuis
  obtain ⟨joinJson, joinFound, joinRead⟩ := Option.bind_eq_some_iff.mp joinValue
  obtain ⟨euis, euisRead, rfl⟩ := Option.map_eq_some_iff.mp joinRead
  simp only [applyFields, enableField, filterFields, List.foldl_cons, List.foldl_nil, enableValue,
    netValue, joinValue, Option.getD_some]
  refine ⟨enableSent, ?_, ?_⟩
  · rw [asStrings_eq_some idsRead] at netFound
    exact netFound
  · intro pairs
    have two := asPairs_eq_some euisRead fun items eq => pairs items (eq ▸ joinFound)
    rw [two] at joinFound
    exact joinFound

end

end LorawanFeeds.Cgi
