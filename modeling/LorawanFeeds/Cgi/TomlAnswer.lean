import LorawanFeeds.Bridge.Config
import LorawanFeeds.Cgi.TomlSent

/-!
# A request, and then its values

After a request for one section has been accepted, the values that it sent are asked for again: by
a request to get the section, and by the bridge, which reads the same file on its own.
-/
namespace LorawanFeeds.Cgi

open Lib Bridge Proc

/-! ### What the bridge reads -/

/-- The configuration of the bridge, by the members that have been written. -/
def bridgeConfig (n : Members) (udp server : Option (String × UInt32)) : BridgeConfig where
  backendType := n.backendType
  udpIp := (addressRead udp).1
  udpPort := (addressRead udp).2
  skipCrcCheck := n.udp.skipCrcCheck
  fakeRxTime := n.udp.fakeRxTime
  eventTopicTemplate := n.eventTopicTemplate
  commandTopicTemplate := n.commandTopicTemplate
  mqttAuthType := n.mqttAuthType
  genericIp := (addressRead server).1
  genericPort := (addressRead server).2
  genericUsername := n.generic.username
  genericPassword := n.generic.password
  genericQos := n.generic.qos.toUInt8
  genericCleanSession := n.generic.cleanSession
  genericClientId := n.generic.clientId
  genericCaCert := n.generic.caCert
  genericTlsCert := n.generic.tlsCert
  genericTlsKey := n.generic.tlsKey
  genericPassPhrase := n.generic.passPhrase

section

variable {table : Toml} {key : String}

theorem tomlString_eq {s : String} (found : table.find key = some (TomlValue.text s).tree) :
    tomlString table key = .ok s := by
  rw [tomlString, found]
  rfl

theorem tomlBool_eq {b : Bool} (found : table.find key = some (TomlValue.flag b).tree) :
    tomlBool table key = .ok b := by
  rw [tomlBool, found]
  rfl

theorem tomlAddress_eq {split : String → Except Cgi.Fault (Option (String × UInt32))} {ip : String}
    {port : UInt32} {address : Option (String × UInt32)}
    (splits : split (joined ip port) = .ok address)
    (found : table.find key = some (bindText ip port).tree) :
    tomlAddress split table key = .ok (addressRead address) := by
  refine except_bind_eq_ok.mpr ⟨joined ip port, tomlString_eq found, ?_⟩
  exact except_bind_eq_ok.mpr ⟨address, splits, rfl⟩

end

section

variable {data : Toml} {n : Members} (written : Written data n)

include written

theorem Written.tomlTable {name : String} {es : List (String × TomlValue)}
    (member : (name, es) ∈ n.tables) {path : List String} {key : String}
    (header : headerPath name = path ++ [key]) {table : Toml}
    (found : data.lookup path = some table) :
    ∃ inner, data.lookup (path ++ [key]) = some inner ∧ Bridge.tomlTable table key = .ok inner := by
  obtain ⟨inner, there⟩ := written.table _ member
  rw [header] at there
  refine ⟨inner, there, ?_⟩
  rw [Bridge.tomlTable, Toml.find_eq_lookup found, there]
  rfl

theorem parseTomlBackendUdp_config {udp : Option (String × UInt32)}
    (splits : splitBind (joined n.udp.ip n.udp.port) = .ok udp) :
    Bridge.parseTomlBackendUdp data =
      .ok (n.backendType, addressRead udp, n.udp.skipCrcCheck, n.udp.fakeRxTime) := by
  have backendMember : ("backend", _) ∈ n.tables := .tail _ (.tail _ (.tail _ (.head _)))
  have backendHeader : headerPath "backend" = [] ++ ["backend"] := by decide +kernel
  have udpMember : ("backend.semtech_udp", _) ∈ n.tables := .tail _ (.tail _ (.head _))
  have udpHeader : headerPath "backend.semtech_udp" = ["backend"] ++ ["semtech_udp"] := by
    decide +kernel
  obtain ⟨backend, backendThere, backendFound⟩ := written.tomlTable backendMember backendHeader rfl
  obtain ⟨semtech, udpThere, udpFound⟩ := written.tomlTable udpMember udpHeader backendThere
  refine except_bind_eq_ok.mpr ⟨_, backendFound, ?_⟩
  refine except_bind_eq_ok.mpr ⟨_, tomlString_eq (written.findValue backendMember backendHeader
    backendThere (.head _) rfl), ?_⟩
  refine except_bind_eq_ok.mpr ⟨_, udpFound, ?_⟩
  refine except_bind_eq_ok.mpr ⟨_, tomlAddress_eq splits
    (written.findValue udpMember udpHeader udpThere (.tail _ (.tail _ (.head _))) rfl), ?_⟩
  refine except_bind_eq_ok.mpr ⟨_, tomlBool_eq
    (written.findValue udpMember udpHeader udpThere (.tail _ (.head _)) rfl), ?_⟩
  exact except_bind_eq_ok.mpr ⟨_, tomlBool_eq
    (written.findValue udpMember udpHeader udpThere (.head _) rfl), rfl⟩

end

/-- The bridge reads the file of plain members, if the addresses can be taken apart. -/
theorem getBridgeConfigInfo_output (toml : TomlText) {n : Members} (plain : n.Plain)
    {udp server : Option (String × UInt32)}
    (udpSplits : splitBind (joined n.udp.ip n.udp.port) = .ok udp)
    (serverSplits : splitServer (joined n.generic.ip n.generic.port) = .ok server) :
    getBridgeConfigInfo toml (some (outputFormattedTomlFile n)) = .ok (bridgeConfig n udp server) := by
  obtain ⟨data, parse, written⟩ := plain.written toml
  have integrationMember : ("integration", _) ∈ n.tables :=
    .tail _ (.tail _ (.tail _ (.tail _ (.tail _ (.tail _ (.tail _ (.head _)))))))
  have integrationHeader : headerPath "integration" = [] ++ ["integration"] := by decide +kernel
  have mqttMember : ("integration.mqtt", _) ∈ n.tables :=
    .tail _ (.tail _ (.tail _ (.tail _ (.tail _ (.head _)))))
  have mqttHeader : headerPath "integration.mqtt" = ["integration"] ++ ["mqtt"] := by decide +kernel
  have authMember : ("integration.mqtt.auth", _) ∈ n.tables :=
    .tail _ (.tail _ (.tail _ (.tail _ (.tail _ (.tail _ (.head _))))))
  have authHeader : headerPath "integration.mqtt.auth" = ["integration", "mqtt"] ++ ["auth"] := by
    decide +kernel
  have genericMember : ("integration.mqtt.auth.generic", _) ∈ n.tables :=
    .tail _ (.tail _ (.tail _ (.tail _ (.tail _ (.tail _ (.tail _ (.tail _ (.tail _ (.tail _
      (.head _))))))))))
  have genericHeader : headerPath "integration.mqtt.auth.generic" =
      ["integration", "mqtt", "auth"] ++ ["generic"] := by
    decide +kernel
  obtain ⟨integration, integrationThere, integrationFound⟩ :=
    written.tomlTable integrationMember integrationHeader rfl
  obtain ⟨mqtt, mqttThere, mqttFound⟩ := written.tomlTable mqttMember mqttHeader integrationThere
  obtain ⟨auth, authThere, authFound⟩ := written.tomlTable authMember authHeader mqttThere
  obtain ⟨generic, genericThere, genericFound⟩ :=
    written.tomlTable genericMember genericHeader authThere
  have valid : thrown ((some (outputFormattedTomlFile n)).bind toml.parse) = .ok data := by
    rw [Option.bind_some, parse]
    rfl
  have text {key s : String} (entry : (key, TomlValue.text s) ∈ _) :=
    tomlString_eq (written.findValue genericMember genericHeader genericThere entry rfl)
  have qos : tomlUInt32 generic "qos" = .ok n.generic.qos.toUInt32 := by
    rw [tomlUInt32, @Written.findValue _ _ written _ _ genericMember _ genericHeader _ genericThere
      "qos" (.number n.generic.qos.toUInt64.toInt64) (by simp) rfl]
    change Except.ok n.generic.qos.toUInt64.toInt64.toUInt64.toUInt32 = _
    rw [UInt64.toUInt64_toInt64, UInt16.toUInt32_toUInt64]
  refine except_bind_eq_ok.mpr ⟨_, valid, ?_⟩
  refine except_bind_eq_ok.mpr ⟨_, parseTomlBackendUdp_config written udpSplits, ?_⟩
  refine except_bind_eq_ok.mpr ⟨_, integrationFound, ?_⟩
  refine except_bind_eq_ok.mpr ⟨_, mqttFound, ?_⟩
  refine except_bind_eq_ok.mpr ⟨n.eventTopicTemplate, tomlString_eq
    (written.findValue mqttMember mqttHeader mqttThere (by simp) rfl), ?_⟩
  refine except_bind_eq_ok.mpr ⟨n.commandTopicTemplate, tomlString_eq
    (written.findValue mqttMember mqttHeader mqttThere (by simp) rfl), ?_⟩
  refine except_bind_eq_ok.mpr ⟨_, authFound, ?_⟩
  refine except_bind_eq_ok.mpr ⟨n.mqttAuthType, tomlString_eq
    (written.findValue authMember authHeader authThere (by simp) rfl), ?_⟩
  refine except_bind_eq_ok.mpr ⟨_, genericFound, ?_⟩
  refine except_bind_eq_ok.mpr ⟨_, tomlAddress_eq serverSplits
    (written.findValue genericMember genericHeader genericThere (by simp) rfl), ?_⟩
  refine except_bind_eq_ok.mpr ⟨n.generic.username, text (by simp), ?_⟩
  refine except_bind_eq_ok.mpr ⟨n.generic.password, text (by simp), ?_⟩
  refine except_bind_eq_ok.mpr ⟨_, qos, ?_⟩
  refine except_bind_eq_ok.mpr ⟨n.generic.cleanSession, tomlBool_eq
    (written.findValue genericMember genericHeader genericThere (by simp) rfl), ?_⟩
  refine except_bind_eq_ok.mpr ⟨n.generic.clientId, text (by simp), ?_⟩
  refine except_bind_eq_ok.mpr ⟨n.generic.caCert, text (by simp), ?_⟩
  refine except_bind_eq_ok.mpr ⟨n.generic.tlsCert, text (by simp), ?_⟩
  refine except_bind_eq_ok.mpr ⟨n.generic.tlsKey, text (by simp), ?_⟩
  refine except_bind_eq_ok.mpr ⟨n.generic.passPhrase, text (by simp), ?_⟩
  rfl

/-! ### Asking for a section -/

def Section.getOption : Section → String
  | general => "cgicpp-toml-general-get"
  | filters => "cgicpp-toml-filters-get"
  | backend => "cgicpp-toml-backend-get"
  | integration => "cgicpp-toml-integration-get"

/-- A section that is read without error is answered. -/
theorem mainTomlGet_eq (json : JsonText) {toml : TomlText} {u : Uninitialised} {s : Section}
    {disk : BridgeDisk} {data : Toml} (valid : disk.conf.bind toml.parse = some data)
    {m : Members}
    (read : runParseTomlCb data s.getOption ⟨.initial u, disk⟩ = (.ok (), ⟨m, disk⟩)) :
    mainTomlGet json toml u s.getOption disk =
      (.ok (0, json.dump (runGenJsonCb s.getOption m)), disk) := by
  have one : ¬ containsText s.getOption "all" := by
    cases s <;> simp [Section.getOption, containsText, List.infix_cons_iff]
  have got : getLocal data s.getOption ⟨.initial u, disk⟩ =
      (.ok (runGenJsonCb s.getOption m), ⟨m, disk⟩) := by
    rw [getLocal, if_neg one]
    exact bind_eq_ok.mpr ⟨(), _, read, bind_eq_ok.mpr ⟨_, _, rfl, rfl⟩⟩
  refine bind_eq_ok.mpr ⟨disk, disk, rfl, ?_⟩
  rw [valid]
  simp only [Proc.within, mainParserGet, Proc.tryCatch, bind_apply, got, pure_apply]

/-! ### Values that come back -/

/-- The values of the bridge, at the paths that a request has them at. -/
def configValues (config : BridgeConfig) : List (List String × Json) := [
  (["backend_type"], .str config.backendType),
  (["semtech_udp", "udp_ip"], .str config.udpIp),
  (["semtech_udp", "udp_port"], .uint config.udpPort.toUInt64),
  (["semtech_udp", "skip_crc_check"], .bool config.skipCrcCheck),
  (["semtech_udp", "fake_rx_time"], .bool config.fakeRxTime),
  (["mqtt", "event_topic_template"], .str config.eventTopicTemplate),
  (["mqtt", "command_topic_template"], .str config.commandTopicTemplate),
  (["mqtt_auth_type"], .str config.mqttAuthType),
  (["generic", "ip"], .str config.genericIp),
  (["generic", "port"], .uint config.genericPort.toUInt64),
  (["generic", "username"], .str config.genericUsername),
  (["generic", "password"], .str config.genericPassword),
  (["generic", "qos"], .uint config.genericQos.toUInt64),
  (["generic", "clean_session"], .bool config.genericCleanSession),
  (["generic", "client_id"], .str config.genericClientId),
  (["generic", "ca_cert"], .str config.genericCaCert),
  (["generic", "tls_cert"], .str config.genericTlsCert),
  (["generic", "tls_key"], .str config.genericTlsKey),
  (["generic", "tls_pass_phrase"], .str config.genericPassPhrase)]

/-- The members of the section are read and shown as they have been written. -/
def Section.Returned (remoteJson : Json) (n : Members) : Section → Prop
  | general => True
  | filters => n.filters.enable = true →
      n.filters.netIds ≠ [] ∧ n.filters.joinEuis ≠ [] ∧
      ∀ items, inBody remoteJson ["join_euis"] = some (.arr items) →
        ∀ item ∈ items, ∃ a b, item = .arr [a, b]
  | backend =>
      (∃ address, splitBind (joined n.bs.ip n.bs.port) = .ok address) ∧
      (∀ sec ∈ [n.bs.pingInterval, n.bs.readTimeout, n.bs.writeTimeout],
        sec.toNat < durationLimit) ∧
      (n.backendType = "semtech_udp" ∧ KeptBind n.udp.ip n.udp.port ∨
        n.backendType = "basic_station" ∧ KeptBind n.bs.ip n.bs.port ∧
          n.bs.frequencyMin.toNat < 2 ^ 32 ∧ n.bs.frequencyMax.toNat < 2 ^ 32)
  | integration =>
      (∀ sec ∈ [n.maxReconnectInterval, n.gcp.jwtExpiration, n.azure.sasTokenExpiration],
        sec.toNat < durationLimit) ∧
      (n.mqttAuthType = "generic" ∧ KeptServer n.generic.ip n.generic.port ∧
          n.generic.qos.toNat < 2 ^ 8 ∨
        n.mqttAuthType = "gcp_cloud_iot_core" ∨ n.mqttAuthType = "azure_iot_hub")

/-- The file of the members is a document, the bridge can read its addresses, and the values of the
section come back. -/
structure ReturnsSent (s : Section) (remoteJson : Json) (n : Members) : Prop where
  plain : n.Plain
  udp : ∃ address, splitBind (joined n.udp.ip n.udp.port) = .ok address
  server : ∃ address, splitServer (joined n.generic.ip n.generic.port) = .ok address
  returned : s.Returned remoteJson n

/-- The members before a request for the section, as far as they can be read. -/
def membersBefore (toml : TomlText) (u : Uninitialised) (disk : BridgeDisk) : Members :=
  match disk.conf.bind toml.parse with
  | some data => (parseTomlForEach data ⟨.initial u, disk⟩).2.members
  | none => .initial u

/-- An answer with the values that have been sent. -/
theorem lookup_shown {remoteJson : Json} {paths : List (List String)}
    {shown : List (List String × Json)} (apart : (shown.map Prod.fst).Pairwise Json.Apart)
    (cover : ∀ path ∈ paths, path ∈ shown.map Prod.fst)
    (sent : ∀ e ∈ shown, inBody remoteJson e.1 = some e.2) :
    ∀ path ∈ paths, (Json.null.putAll shown).lookup path = inBody remoteJson path := by
  intro path member
  obtain ⟨e, here, rfl⟩ := List.mem_map.mp (cover path member)
  rw [sent e here, Json.lookup_putAll _ apart e here]

section

variable (json : JsonText) {toml : TomlText} (u : Uninitialised) {remoteJson : Json}
  {disk : BridgeDisk} {data : Toml} (valid : disk.conf.bind toml.parse = some data)

/-- The section is answered with the values that have been sent. -/
def Answered (toml : TomlText) (s : Section) (paths : List (List String)) (remoteJson : Json)
    (disk : BridgeDisk) : Prop :=
  ∃ bytes answer, mainTomlGet json toml u s.getOption disk = (.ok (0, bytes), disk) ∧
    json.parse bytes = some answer ∧ ∀ path ∈ paths, answer.lookup path = inBody remoteJson path

include valid

theorem answered_of_shown {s : Section} {paths : List (List String)} {m : Members}
    (read : runParseTomlCb data s.getOption ⟨.initial u, disk⟩ = (.ok (), ⟨m, disk⟩))
    {shown : List (List String × Json)}
    (answer : runGenJsonCb s.getOption m = Json.null.putAll shown)
    (apart : (shown.map Prod.fst).Pairwise Json.Apart)
    (cover : ∀ path ∈ paths, path ∈ shown.map Prod.fst)
    (proper : ∀ e ∈ shown, e.2.Proper json.finite)
    (sent : ∀ e ∈ shown, inBody remoteJson e.1 = some e.2) :
    Answered json u toml s paths remoteJson disk := by
  refine ⟨_, Json.null.putAll shown, mainTomlGet_eq json valid read, ?_, ?_⟩
  · rw [answer]
    exact json.parse_dump _ (Json.Proper.null.putAll proper)
  · exact lookup_shown apart cover sent

theorem answered_general {n : Members} (written : Written data n)
    (sent : inBody remoteJson ["log_level"] = some (.uint n.logLevel.toUInt64)) :
    Answered json u toml .general [["log_level"]] remoteJson disk := by
  have read := parseTomlGeneral_written written ⟨.initial u, disk⟩
  refine @answered_of_shown json toml u remoteJson disk data valid .general _ _ read
    [(["log_level"], .uint n.logLevel.toUInt64)] rfl (by simp) (by simp) ?_ (by simpa using sent)
  simpa using Json.Proper.uint _

/-- A filter that has been disabled. -/
theorem answered_filters_disabled {n : Members} (written : Written data n)
    (empty : n.filters.netIds = []) (sent : inBody remoteJson ["filter_enable"] = some (.bool false)) :
    Answered json u toml .filters [["filter_enable"]] remoteJson disk := by
  have read := @parseTomlFilters_written _ _ written ⟨.initial u, disk⟩ rfl
  rw [Filters.reread, if_pos empty] at read
  refine @answered_of_shown json toml u remoteJson disk data valid .filters _ _ read
    [(["filter_enable"], .bool false)] rfl (by simp) (by simp) ?_ (by simpa using sent)
  simpa using Json.Proper.bool _

def filtersShown (n : Members) : List (List String × Json) := [
  (["net_ids"], .arr (n.filters.netIds.map .str)),
  (["join_euis"], .arr (n.filters.joinEuis.map fun e => .arr [.str e.1, .str e.2])),
  (["filter_enable"], .bool true)]

theorem answered_filters_enabled {n : Members} (written : Written data n)
    (netIds : n.filters.netIds ≠ []) (joinEuis : n.filters.joinEuis ≠ [])
    (sent : ∀ e ∈ filtersShown n, inBody remoteJson e.1 = some e.2) :
    Answered json u toml .filters ([["filter_enable"], ["net_ids"], ["join_euis"]]) remoteJson
      disk := by
  have read := @parseTomlFilters_written _ _ written ⟨.initial u, disk⟩ rfl
  rw [Filters.reread, if_neg netIds, if_neg joinEuis] at read
  refine @answered_of_shown json toml u remoteJson disk data valid .filters _ _ read
    (filtersShown n) ?_ ?_ ?_ ?_ sent
  · change generateJsonForFilters _ .null = _
    simp only [generateJsonForFilters, if_neg netIds, if_neg joinEuis]
    rfl
  · simp [filtersShown, Json.Apart]
  · simp [filtersShown]
  · simp only [filtersShown, List.forall_mem_cons]
    refine ⟨.arr ?_, .arr ?_, .bool _, by simp⟩
    · intro item member
      obtain ⟨s, _, rfl⟩ := List.mem_map.mp member
      exact .str s
    · intro item member
      obtain ⟨e, _, rfl⟩ := List.mem_map.mp member
      refine .arr ?_
      simp only [List.forall_mem_cons]
      exact ⟨.str _, .str _, by simp⟩

theorem answered_udp {n : Members} (written : Written data n) {udp bs : Option (String × UInt32)}
    (udpSplits : splitBind (joined n.udp.ip n.udp.port) = .ok udp)
    (bsSplits : splitBind (joined n.bs.ip n.bs.port) = .ok bs)
    (fits : ∀ sec ∈ [n.bs.pingInterval, n.bs.readTimeout, n.bs.writeTimeout],
      sec.toNat < durationLimit) (kept : KeptBind n.udp.ip n.udp.port)
    (type : n.backendType = "semtech_udp")
    (sent : ∀ e ∈ udpShown n, inBody remoteJson e.1 = some e.2) :
    Answered json u toml .backend ((backendTypeField :: udpFields).map RemoteField.path) remoteJson
      disk := by
  have read := @parseTomlBackend_written _ _ written _ _ udpSplits bsSplits fits
    ⟨.initial u, disk⟩ ⟨rfl, ⟨rfl, rfl⟩, ⟨rfl, rfl⟩, ⟨rfl, rfl⟩⟩
  rw [SemtechUdp.reread_kept kept udpSplits] at read
  refine @answered_of_shown json toml u remoteJson disk data valid .backend _ _ read (udpShown n)
    ?_ ?_ ?_ ?_ sent
  · change generateJsonForBackend _ .null = _
    rw [generateJsonForBackend, if_pos type, udpShown, type]
  · simp [udpShown, Json.Apart]
  · change ∀ path ∈ _, path ∈ [["backend_type"], ["semtech_udp", "udp_ip"],
      ["semtech_udp", "udp_port"], ["semtech_udp", "skip_crc_check"], ["semtech_udp", "fake_rx_time"]]
    decide
  · simp only [udpShown, List.forall_mem_cons]
    exact ⟨.str _, .str _, .uint _, .bool _, .bool _, by simp⟩

theorem answered_bs {n : Members} (written : Written data n) {udp bs : Option (String × UInt32)}
    (udpSplits : splitBind (joined n.udp.ip n.udp.port) = .ok udp)
    (bsSplits : splitBind (joined n.bs.ip n.bs.port) = .ok bs)
    (fits : ∀ sec ∈ [n.bs.pingInterval, n.bs.readTimeout, n.bs.writeTimeout],
      sec.toNat < durationLimit) (kept : KeptBind n.bs.ip n.bs.port)
    (low : n.bs.frequencyMin.toNat < 2 ^ 32) (high : n.bs.frequencyMax.toNat < 2 ^ 32)
    (type : n.backendType = "basic_station")
    (sent : ∀ e ∈ bsShown n, inBody remoteJson e.1 = some e.2) :
    Answered json u toml .backend ((backendTypeField :: bsFields).map RemoteField.path) remoteJson
      disk := by
  have read := @parseTomlBackend_written _ _ written _ _ udpSplits bsSplits fits
    ⟨.initial u, disk⟩ ⟨rfl, ⟨rfl, rfl⟩, ⟨rfl, rfl⟩, ⟨rfl, rfl⟩⟩
  rw [BasicStation.reread_kept kept low high bsSplits] at read
  have other : n.backendType ≠ "semtech_udp" := by
    rw [type]
    decide
  refine @answered_of_shown json toml u remoteJson disk data valid .backend _ _ read (bsShown n)
    ?_ ?_ ?_ ?_ sent
  · change generateJsonForBackend _ .null = _
    rw [generateJsonForBackend, if_neg other, if_pos type, bsShown, type]
  · change ((bsShown (.initial ⟨false, false, false⟩)).map Prod.fst).Pairwise Json.Apart
    decide +kernel
  · change ∀ path ∈ _, path ∈ (bsShown (.initial ⟨false, false, false⟩)).map Prod.fst
    decide
  · simp only [bsShown, List.forall_mem_cons]
    exact ⟨.str _, .str _, .uint _, .str _, .str _, .str _, .uint _, .uint _, .str _, .uint _,
      .uint _, .uint _, by simp⟩

/-- The paths of an answer about the integration. -/
def integrationKeys (type : String) : List (List String) :=
  let m : Members := { Members.initial ⟨false, false, false⟩ with mqttAuthType := type }
  (mqttShown m ++ generateJsonForAuth m).map Prod.fst

/-- The three kinds of authentication: what is shown depends only on the members of one of them. -/
theorem answered_integration {n : Members} (written : Written data n)
    {server : Option (String × UInt32)}
    (splits : splitServer (joined n.generic.ip n.generic.port) = .ok server)
    (fits : ∀ sec ∈ [n.maxReconnectInterval, n.gcp.jwtExpiration, n.azure.sasTokenExpiration],
      sec.toNat < durationLimit) {type : String} {paths : List (List String)}
    (same : ∀ m, generateJsonForAuth (Members.withIntegration m n server) = generateJsonForAuth n)
    (keys : (mqttShown n ++ generateJsonForAuth n).map Prod.fst = integrationKeys type)
    (apart : (integrationKeys type).Pairwise Json.Apart)
    (cover : ∀ path ∈ paths, path ∈ integrationKeys type)
    (proper : ∀ e ∈ generateJsonForAuth n, e.2.Proper json.finite)
    (sent : ∀ e ∈ mqttShown n ++ generateJsonForAuth n, inBody remoteJson e.1 = some e.2) :
    Answered json u toml .integration paths remoteJson disk := by
  have read := @parseTomlIntegration_written _ _ written _ splits fits ⟨.initial u, disk⟩ ⟨rfl, rfl⟩
  rw [← keys] at apart cover
  refine @answered_of_shown json toml u remoteJson disk data valid .integration _ _ read
    (mqttShown n ++ generateJsonForAuth n) ?_ apart cover ?_ sent
  · change generateJsonForIntegration _ .null = _
    rw [generateJsonForIntegration, same, Json.putAll, Json.putAll, Json.putAll, List.foldl_append]
    rfl
  · rw [List.forall_mem_append]
    refine ⟨?_, proper⟩
    simp only [mqttShown, List.forall_mem_cons]
    exact ⟨.str _, .str _, .str _, .uint _, by simp⟩

section

variable {n : Members} (written : Written data n) {server : Option (String × UInt32)}
  (splits : splitServer (joined n.generic.ip n.generic.port) = .ok server)
  (fits : ∀ sec ∈ [n.maxReconnectInterval, n.gcp.jwtExpiration, n.azure.sasTokenExpiration],
    sec.toNat < durationLimit)
  (sent : ∀ e ∈ mqttShown n ++ generateJsonForAuth n, inBody remoteJson e.1 = some e.2)

include written splits fits sent

theorem answered_generic (type : n.mqttAuthType = "generic")
    (kept : KeptServer n.generic.ip n.generic.port) :
    Answered json u toml .integration ((mqttFields ++ allGenericFields).map RemoteField.path)
      remoteJson disk := by
  refine @answered_integration json toml u _ _ _ valid n written _ splits fits "generic" _
    (fun m => ?_) ?_ (by decide +kernel) (by decide +kernel) ?_ sent
  · simp only [generateJsonForAuth, Members.withIntegration, type, if_true,
      Generic.reread_kept kept splits]
  · simp only [generateJsonForAuth, type, if_true]
    rfl
  · simp only [generateJsonForAuth, type, if_true, List.forall_mem_cons]
    exact ⟨.str _, .str _, .uint _, .str _, .str _, .uint _, .bool _, .str _, .str _, .str _, .str _,
      .str _, by simp⟩

theorem answered_gcp (type : n.mqttAuthType = "gcp_cloud_iot_core") :
    Answered json u toml .integration ((mqttFields ++ gcpFields).map RemoteField.path)
      remoteJson disk := by
  have other : "gcp_cloud_iot_core" ≠ "generic" := by decide
  refine @answered_integration json toml u _ _ _ valid n written _ splits fits "gcp_cloud_iot_core" _
    (fun m => ?_) ?_ (by decide +kernel) (by decide +kernel) ?_ sent
  · simp only [generateJsonForAuth, Members.withIntegration, type, if_neg other, if_true]
  · simp only [generateJsonForAuth, type, if_neg other, if_true]
    rfl
  · simp only [generateJsonForAuth, type, if_neg other, if_true, List.forall_mem_cons]
    exact ⟨.str _, .str _, .str _, .str _, .str _, .str _, .uint _, .str _, by simp⟩

theorem answered_azure (type : n.mqttAuthType = "azure_iot_hub") :
    Answered json u toml .integration ((mqttFields ++ azureFields).map RemoteField.path)
      remoteJson disk := by
  have noGeneric : "azure_iot_hub" ≠ "generic" := by decide
  have noGcp : "azure_iot_hub" ≠ "gcp_cloud_iot_core" := by decide
  refine @answered_integration json toml u _ _ _ valid n written _ splits fits "azure_iot_hub" _
    (fun m => ?_) ?_ (by decide +kernel) (by decide +kernel) ?_ sent
  · simp only [generateJsonForAuth, Members.withIntegration, type, if_neg noGeneric, if_neg noGcp,
      if_true]
  · simp only [generateJsonForAuth, type, if_neg noGeneric, if_neg noGcp, if_true]
    rfl
  · simp only [generateJsonForAuth, type, if_neg noGeneric, if_neg noGcp, if_true,
      List.forall_mem_cons]
    exact ⟨.str _, .str _, .uint _, .str _, .str _, .str _, .str _, by simp⟩

end

end

/-! ### The values of the bridge -/

section

variable {n : Members} {udp server : Option (String × UInt32)} {remoteJson : Json}

/-- Each value of the bridge that is at one of the paths has been sent. -/
def ConfigSent (config : BridgeConfig) (paths : List (List String)) (remoteJson : Json) : Prop :=
  ∀ e ∈ configValues config, e.1 ∈ paths → inBody remoteJson e.1 = some e.2

theorem configSent_none {config : BridgeConfig} {paths : List (List String)}
    (other : ∀ path ∈ paths, path ∈ [["log_level"], ["filter_enable"], ["net_ids"], ["join_euis"]]) :
    ConfigSent config paths remoteJson := by
  have apart : ∀ path ∈ (configValues config).map Prod.fst,
      path ∉ [["log_level"], ["filter_enable"], ["net_ids"], ["join_euis"]] := by
    change ∀ path ∈ (configValues (bridgeConfig (.initial ⟨false, false, false⟩) none none)).map Prod.fst, _
    decide
  intro e member here
  exact absurd (other _ here) (apart _ (List.mem_map_of_mem member))

theorem configSent_udp (kept : KeptBind n.udp.ip n.udp.port)
    (splits : splitBind (joined n.udp.ip n.udp.port) = .ok udp)
    (sent : ∀ e ∈ udpShown n, inBody remoteJson e.1 = some e.2) :
    ConfigSent (bridgeConfig n udp server) ((backendTypeField :: udpFields).map RemoteField.path)
      remoteJson := by
  obtain ⟨_, here, read⟩ := splitBind_kept kept
  cases splits.symm.trans here
  simp only [udpShown, List.forall_mem_cons] at sent
  obtain ⟨type, ip, port, crc, time, _⟩ := sent
  simp only [ConfigSent, configValues, bridgeConfig, read, List.forall_mem_cons]
  refine ⟨fun _ => type, fun _ => ip, fun _ => port, fun _ => crc, fun _ => time, ?_, ?_, ?_, ?_, ?_,
    ?_, ?_, ?_, ?_, ?_, ?_, ?_, ?_, ?_, by simp⟩
  all_goals exact fun sent => absurd sent (by decide)

theorem configSent_bs (sent : ∀ e ∈ bsShown n, inBody remoteJson e.1 = some e.2) :
    ConfigSent (bridgeConfig n udp server) ((backendTypeField :: bsFields).map RemoteField.path)
      remoteJson := by
  have type := sent (["backend_type"], .str n.backendType) (by simp [bsShown])
  simp only [ConfigSent, configValues, bridgeConfig, List.forall_mem_cons]
  refine ⟨fun _ => type, ?_, ?_, ?_, ?_, ?_, ?_, ?_, ?_, ?_, ?_, ?_, ?_, ?_, ?_, ?_, ?_, ?_, ?_,
    by simp⟩
  all_goals exact fun sent => absurd sent (by decide)

theorem configSent_generic (type : n.mqttAuthType = "generic")
    (kept : KeptServer n.generic.ip n.generic.port) (small : n.generic.qos.toNat < 2 ^ 8)
    (splits : splitServer (joined n.generic.ip n.generic.port) = .ok server)
    (sent : ∀ e ∈ mqttShown n ++ generateJsonForAuth n, inBody remoteJson e.1 = some e.2) :
    ConfigSent (bridgeConfig n udp server)
      ((mqttFields ++ allGenericFields).map RemoteField.path) remoteJson := by
  obtain ⟨_, here, read⟩ := splitServer_kept kept
  cases splits.symm.trans here
  have qos : n.generic.qos.toUInt8.toUInt64 = n.generic.qos.toUInt64 := by
    apply UInt64.toNat_inj.mp
    rw [UInt8.toNat_toUInt64, UInt16.toNat_toUInt8, UInt16.toNat_toUInt64, Nat.mod_eq_of_lt small]
  simp only [generateJsonForAuth, type, if_true, mqttShown, List.cons_append, List.nil_append,
    List.forall_mem_cons] at sent
  obtain ⟨_, event, command, _, authType, ip, port, user, password, qosSent, clean, client, ca, cert,
    key, phrase, _⟩ := sent
  simp only [ConfigSent, configValues, bridgeConfig, read, qos, type, List.forall_mem_cons]
  refine ⟨?_, ?_, ?_, ?_, ?_, fun _ => event, fun _ => command, fun _ => authType, fun _ => ip,
    fun _ => port, fun _ => user, fun _ => password, fun _ => qosSent, fun _ => clean,
    fun _ => client, fun _ => ca, fun _ => cert, fun _ => key, fun _ => phrase, by simp⟩
  all_goals exact fun sent => absurd sent (by decide)

/-- Of the other kinds of authentication the bridge reads only what they have in common. -/
theorem configSent_other {paths : List (List String)}
    (other : ∀ path ∈ paths, path ∈ mqttFields.map RemoteField.path ∨
      path.head? = some "gcp_cloud_iot_core" ∨ path.head? = some "azure_iot_hub")
    (type : inBody remoteJson ["mqtt_auth_type"] = some (.str n.mqttAuthType))
    (sent : ∀ e ∈ mqttShown n, inBody remoteJson e.1 = some e.2) :
    ConfigSent (bridgeConfig n udp server) paths remoteJson := by
  simp only [mqttShown, List.forall_mem_cons] at sent
  obtain ⟨_, event, command, _, _⟩ := sent
  simp only [ConfigSent, configValues, bridgeConfig, List.forall_mem_cons]
  refine ⟨?_, ?_, ?_, ?_, ?_, fun _ => event, fun _ => command, fun _ => type, ?_, ?_, ?_, ?_, ?_,
    ?_, ?_, ?_, ?_, ?_, ?_, by simp⟩
  all_goals exact fun here => absurd (other _ here) (by decide)

end

/-! ### A request, and then both readers -/

/-- An accepted request has all its fields, and the file is written from the members before it with
these in their place. -/
theorem mainTomlSet_accepted {json : JsonText} {toml : TomlText} {u : Uninitialised}
    {option rsp : String} {inputJson : Bytes} {disk disk' : BridgeDisk} {remoteJson : Json}
    (accepted : mainTomlSet json toml u option inputJson disk = (.ok (0, rsp), disk'))
    (parse : json.parse inputJson = some remoteJson) :
    Accepts remoteJson (requestFields remoteJson option) ∧ disk'.conf =
      some (outputFormattedTomlFile ((membersBefore toml u disk).requested option remoteJson)) := by
  obtain ⟨data, valid⟩ := conf_of_mainTomlSet accepted
  rcases (mainTomlSet_ends json u option inputJson valid).of_eq_ok accepted with
    ⟨_, other, p₁, same, read, accepts, written⟩ | ⟨minus, _⟩
  · cases parse.symm.trans same
    refine ⟨accepts, ?_⟩
    have before : membersBefore toml u disk = p₁.members := by
      rw [membersBefore, valid]
      simp only [read]
    rw [before]
    exact congrArg BridgeDisk.conf written
  · cases minus

section

variable (json : JsonText) {toml : TomlText} (u : Uninitialised) {remoteJson : Json} {m : Members}
  {disk : BridgeDisk}

/-- Both readers see the values of the request. -/
def Returns (toml : TomlText) (s : Section) (paths : List (List String)) (remoteJson : Json)
    (disk : BridgeDisk) : Prop :=
  Answered json u toml s paths remoteJson disk ∧
    ∃ config, getBridgeConfigInfo toml disk.conf = .ok config ∧ ConfigSent config paths remoteJson

theorem returns_general
    (accepts : Accepts remoteJson [generalField])
    (range : NumbersInRange remoteJson ([generalField].map RemoteField.path))
    (conf : disk.conf =
      some (outputFormattedTomlFile (applyFields remoteJson [generalField] m).cleared))
    (returns : ReturnsSent .general remoteJson (applyFields remoteJson [generalField] m).cleared) :
    Returns json u toml .general ([generalField].map RemoteField.path) remoteJson disk := by
  obtain ⟨plain, ⟨udp, udpSplits⟩, ⟨server, serverSplits⟩, _⟩ := returns
  obtain ⟨data, parse, written⟩ := plain.written toml
  have valid : disk.conf.bind toml.parse = some data := by rw [conf, Option.bind_some, parse]
  have level : (applyFields remoteJson [generalField] m).cleared.logLevel =
      (applyFields remoteJson [generalField] m).logLevel :=
    Fields.general.inj (@cleared_fields _ .general (by simp))
  constructor
  · apply answered_general json u valid written
    rw [level]
    exact general_sent m accepts range
  · refine ⟨_, conf ▸ getBridgeConfigInfo_output toml plain udpSplits serverSplits, ?_⟩
    exact configSent_none (by decide)

theorem returns_filters (accepts : Accepts remoteJson (filtersFields remoteJson))
    (conf : disk.conf = some (outputFormattedTomlFile
      (applyFields remoteJson (filtersFields remoteJson) m).cleared))
    (returns : ReturnsSent .filters remoteJson
      (applyFields remoteJson (filtersFields remoteJson) m).cleared) :
    Returns json u toml .filters ((filtersFields remoteJson).map RemoteField.path) remoteJson
      disk := by
  obtain ⟨plain, ⟨udp, udpSplits⟩, ⟨server, serverSplits⟩, returned⟩ := returns
  obtain ⟨data, parse, written⟩ := plain.written toml
  have valid : disk.conf.bind toml.parse = some data := by rw [conf, Option.bind_some, parse]
  have config := getBridgeConfigInfo_output toml plain udpSplits serverSplits
  rw [← conf] at config
  by_cases enable : boolAt remoteJson ["filter_enable"] = some true
  · have fields : filtersFields remoteJson = enableField :: filterFields := by
      rw [filtersFields, if_pos enable]
    rw [fields] at accepts written returned ⊢
    obtain ⟨enableSent, netIdsSent, joinEuisSent⟩ := filters_sent m accepts
    have yes : (applyFields remoteJson (enableField :: filterFields) m).filters.enable = true := by
      rw [boolAt, enableSent] at enable
      exact Option.some.inj enable
    have whole : (applyFields remoteJson (enableField :: filterFields) m).cleared =
        applyFields remoteJson (enableField :: filterFields) m := by
      rw [Members.cleared, if_neg (by simp [yes])]
    rw [whole] at written returned
    obtain ⟨netIds, joinEuis, pairs⟩ := returned yes
    refine ⟨answered_filters_enabled json u valid written netIds joinEuis ?_, _, config,
      configSent_none (by decide)⟩
    simp only [filtersShown, List.forall_mem_cons]
    exact ⟨netIdsSent, joinEuisSent pairs, yes ▸ enableSent, by simp⟩
  · have fields : filtersFields remoteJson = [enableField] := by
      rw [filtersFields, if_neg enable]
    rw [fields] at accepts written ⊢
    obtain ⟨b, enableSent, value⟩ := RemoteField.sent_bool (accepts enableField (by simp))
    cases b with
    | true =>
      rw [boolAt, enableSent] at enable
      exact absurd rfl enable
    | false =>
      have no : (applyFields remoteJson [enableField] m).filters.enable = false := by
        simp only [applyFields, enableField, List.foldl_cons, List.foldl_nil, value,
          Option.getD_some]
      have empty : (applyFields remoteJson [enableField] m).cleared.filters.netIds = [] := by
        rw [Members.cleared, if_pos no]
      exact ⟨answered_filters_disabled json u valid written empty enableSent, _, config,
        configSent_none (by decide)⟩

/-- Only the lists of the filter are cleared. -/
theorem cleared_shown (m : Members) : udpShown m.cleared = udpShown m ∧
    bsShown m.cleared = bsShown m ∧ mqttShown m.cleared = mqttShown m ∧
    generateJsonForAuth m.cleared = generateJsonForAuth m ∧
    m.cleared.backendType = m.backendType ∧ m.cleared.mqttAuthType = m.mqttAuthType := by
  rw [Members.cleared]
  split <;> exact ⟨rfl, rfl, rfl, rfl, rfl, rfl⟩

/-- The text of a request is the value that it has been sent as. -/
theorem eq_of_textAt {path : List String} {s t : String}
    (sent : inBody remoteJson path = some (.str s)) (known : textAt remoteJson path = some t) :
    s = t := by
  rw [textAt, sent] at known
  exact Option.some.inj known

theorem returns_udp (accepts : Accepts remoteJson (backendTypeField :: udpFields))
    (range : NumbersInRange remoteJson ((backendTypeField :: udpFields).map RemoteField.path))
    (type : textAt remoteJson ["backend_type"] = some "semtech_udp")
    (conf : disk.conf = some (outputFormattedTomlFile
      (applyFields remoteJson (backendTypeField :: udpFields) m).cleared))
    (returns : ReturnsSent .backend remoteJson
      (applyFields remoteJson (backendTypeField :: udpFields) m).cleared) :
    Returns json u toml .backend ((backendTypeField :: udpFields).map RemoteField.path) remoteJson
      disk := by
  have sent := udp_sent m accepts range
  rw [← (cleared_shown _).1] at sent
  generalize (applyFields remoteJson (backendTypeField :: udpFields) m).cleared = n at *
  have isUdp := eq_of_textAt (sent (["backend_type"], .str n.backendType) (by simp [udpShown])) type
  obtain ⟨plain, ⟨udp, udpSplits⟩, ⟨server, serverSplits⟩, ⟨bs, bsSplits⟩, fits, kinds⟩ := returns
  have kept : KeptBind n.udp.ip n.udp.port := by
    rcases kinds with ⟨_, kept⟩ | ⟨other, _⟩
    · exact kept
    · rw [isUdp] at other
      exact absurd other (by decide)
  obtain ⟨data, parse, written⟩ := plain.written toml
  have valid : disk.conf.bind toml.parse = some data := by rw [conf, Option.bind_some, parse]
  constructor
  · exact answered_udp json u valid written udpSplits bsSplits fits kept isUdp sent
  · exact ⟨_, conf ▸ getBridgeConfigInfo_output toml plain udpSplits serverSplits,
      configSent_udp kept udpSplits sent⟩

theorem returns_bs (accepts : Accepts remoteJson (backendTypeField :: bsFields))
    (range : NumbersInRange remoteJson ((backendTypeField :: bsFields).map RemoteField.path))
    (type : textAt remoteJson ["backend_type"] = some "basic_station")
    (conf : disk.conf = some (outputFormattedTomlFile
      (applyFields remoteJson (backendTypeField :: bsFields) m).cleared))
    (returns : ReturnsSent .backend remoteJson
      (applyFields remoteJson (backendTypeField :: bsFields) m).cleared) :
    Returns json u toml .backend ((backendTypeField :: bsFields).map RemoteField.path) remoteJson
      disk := by
  have sent := bs_sent m accepts range
  rw [← (cleared_shown _).2.1] at sent
  generalize (applyFields remoteJson (backendTypeField :: bsFields) m).cleared = n at *
  have isBs := eq_of_textAt (sent (["backend_type"], .str n.backendType) (by simp [bsShown])) type
  obtain ⟨plain, ⟨udp, udpSplits⟩, ⟨server, serverSplits⟩, ⟨bs, bsSplits⟩, fits, kinds⟩ := returns
  rcases kinds with ⟨other, _⟩ | ⟨_, kept, low, high⟩
  · rw [isBs] at other
    exact absurd other (by decide)
  · obtain ⟨data, parse, written⟩ := plain.written toml
    have valid : disk.conf.bind toml.parse = some data := by rw [conf, Option.bind_some, parse]
    constructor
    · exact answered_bs json u valid written udpSplits bsSplits fits kept low high isBs sent
    · exact ⟨_, conf ▸ getBridgeConfigInfo_output toml plain udpSplits serverSplits,
        configSent_bs sent⟩

theorem returns_backend (accepts : Accepts remoteJson (backendFields remoteJson))
    (range : NumbersInRange remoteJson ((backendFields remoteJson).map RemoteField.path))
    (conf : disk.conf = some (outputFormattedTomlFile
      (applyFields remoteJson (backendFields remoteJson) m).cleared))
    (returns : ReturnsSent .backend remoteJson
      (applyFields remoteJson (backendFields remoteJson) m).cleared) :
    Returns json u toml .backend ((backendFields remoteJson).map RemoteField.path) remoteJson
      disk := by
  by_cases udp : textAt remoteJson ["backend_type"] = some "semtech_udp"
  · have fields : backendFields remoteJson = backendTypeField :: udpFields := by
      rw [backendFields, if_pos udp]
    rw [fields] at accepts range conf returns ⊢
    exact returns_udp json u accepts range udp conf returns
  · by_cases bs : textAt remoteJson ["backend_type"] = some "basic_station"
    · have fields : backendFields remoteJson = backendTypeField :: bsFields := by
        rw [backendFields, if_neg udp, if_pos bs]
      rw [fields] at accepts range conf returns ⊢
      exact returns_bs json u accepts range bs conf returns
    · -- Another type would not come back.
      have fields : backendFields remoteJson = [backendTypeField] := by
        rw [backendFields, if_neg udp, if_neg bs]
      rw [fields] at accepts returns
      obtain ⟨type, sent, value⟩ :=
        RemoteField.sent_text (accepts backendTypeField (by simp))
      have applied : (applyFields remoteJson [backendTypeField] m).backendType = type := by
        simp only [applyFields, backendTypeField, List.foldl_cons, List.foldl_nil, value,
          Option.getD_some]
      have known : textAt remoteJson ["backend_type"] = some type := by
        rw [textAt, sent]
        rfl
      have kinds := returns.returned.2.2
      rw [(cleared_shown _).2.2.2.2.1, applied] at kinds
      rcases kinds with ⟨rfl, _⟩ | ⟨rfl, _⟩
      · exact absurd known udp
      · exact absurd known bs

/-- The members that are written have the kind that has been sent, and the values that are shown. -/
theorem auth_sent {auth : List RemoteField} {type : String}
    (sent : (applyFields remoteJson auth m).mqttAuthType = type ∧
      ∀ e ∈ mqttShown (applyFields remoteJson auth m) ++
        generateJsonForAuth (applyFields remoteJson auth m), inBody remoteJson e.1 = some e.2) :
    (applyFields remoteJson auth m).cleared.mqttAuthType = type ∧
      ∀ e ∈ mqttShown (applyFields remoteJson auth m).cleared ++
        generateJsonForAuth (applyFields remoteJson auth m).cleared,
          inBody remoteJson e.1 = some e.2 := by
  obtain ⟨_, _, mqttSame, authSame, _, typeSame⟩ := cleared_shown (applyFields remoteJson auth m)
  rw [mqttSame, authSame, typeSame]
  exact sent

theorem returns_generic (accepts : Accepts remoteJson (mqttFields ++ allGenericFields))
    (range : NumbersInRange remoteJson ((mqttFields ++ allGenericFields).map RemoteField.path))
    (known : textAt remoteJson ["mqtt_auth_type"] = some "generic")
    (conf : disk.conf = some (outputFormattedTomlFile
      (applyFields remoteJson (mqttFields ++ allGenericFields) m).cleared))
    (returns : ReturnsSent .integration remoteJson
      (applyFields remoteJson (mqttFields ++ allGenericFields) m).cleared) :
    Returns json u toml .integration ((mqttFields ++ allGenericFields).map RemoteField.path)
      remoteJson disk := by
  obtain ⟨type, sent⟩ := auth_sent (generic_sent m accepts range known)
  generalize (applyFields remoteJson (mqttFields ++ allGenericFields) m).cleared = n at *
  obtain ⟨plain, ⟨udp, udpSplits⟩, ⟨server, serverSplits⟩, fits, kinds⟩ := returns
  have both : KeptServer n.generic.ip n.generic.port ∧ n.generic.qos.toNat < 2 ^ 8 := by
    rw [type] at kinds
    rcases kinds with ⟨_, kept⟩ | other | other
    · exact kept
    · exact absurd other (by decide)
    · exact absurd other (by decide)
  obtain ⟨data, parse, written⟩ := plain.written toml
  have valid : disk.conf.bind toml.parse = some data := by rw [conf, Option.bind_some, parse]
  constructor
  · exact answered_generic json u valid written serverSplits fits sent type both.1
  · exact ⟨_, conf ▸ getBridgeConfigInfo_output toml plain udpSplits serverSplits,
      configSent_generic type both.1 both.2 serverSplits sent⟩

theorem returns_gcp (accepts : Accepts remoteJson (mqttFields ++ gcpFields))
    (range : NumbersInRange remoteJson ((mqttFields ++ gcpFields).map RemoteField.path))
    (known : textAt remoteJson ["mqtt_auth_type"] = some "gcp_cloud_iot_core")
    (conf : disk.conf = some (outputFormattedTomlFile
      (applyFields remoteJson (mqttFields ++ gcpFields) m).cleared))
    (returns : ReturnsSent .integration remoteJson
      (applyFields remoteJson (mqttFields ++ gcpFields) m).cleared) :
    Returns json u toml .integration ((mqttFields ++ gcpFields).map RemoteField.path)
      remoteJson disk := by
  obtain ⟨type, sent⟩ := auth_sent (gcp_sent m accepts range known)
  generalize (applyFields remoteJson (mqttFields ++ gcpFields) m).cleared = n at *
  obtain ⟨plain, ⟨udp, udpSplits⟩, ⟨server, serverSplits⟩, fits, _⟩ := returns
  obtain ⟨data, parse, written⟩ := plain.written toml
  have valid : disk.conf.bind toml.parse = some data := by rw [conf, Option.bind_some, parse]
  constructor
  · exact answered_gcp json u valid written serverSplits fits sent type
  · refine ⟨_, conf ▸ getBridgeConfigInfo_output toml plain udpSplits serverSplits,
      configSent_other (by decide) ?_ fun e member => sent e (List.mem_append_left _ member)⟩
    apply sent (["mqtt_auth_type"], .str n.mqttAuthType)
    simp [generateJsonForAuth, type]

theorem returns_azure (accepts : Accepts remoteJson (mqttFields ++ azureFields))
    (range : NumbersInRange remoteJson ((mqttFields ++ azureFields).map RemoteField.path))
    (known : textAt remoteJson ["mqtt_auth_type"] = some "azure_iot_hub")
    (conf : disk.conf = some (outputFormattedTomlFile
      (applyFields remoteJson (mqttFields ++ azureFields) m).cleared))
    (returns : ReturnsSent .integration remoteJson
      (applyFields remoteJson (mqttFields ++ azureFields) m).cleared) :
    Returns json u toml .integration ((mqttFields ++ azureFields).map RemoteField.path)
      remoteJson disk := by
  obtain ⟨type, sent⟩ := auth_sent (azure_sent m accepts range known)
  generalize (applyFields remoteJson (mqttFields ++ azureFields) m).cleared = n at *
  obtain ⟨plain, ⟨udp, udpSplits⟩, ⟨server, serverSplits⟩, fits, _⟩ := returns
  obtain ⟨data, parse, written⟩ := plain.written toml
  have valid : disk.conf.bind toml.parse = some data := by rw [conf, Option.bind_some, parse]
  constructor
  · exact answered_azure json u valid written serverSplits fits sent type
  · refine ⟨_, conf ▸ getBridgeConfigInfo_output toml plain udpSplits serverSplits,
      configSent_other (by decide) ?_ fun e member => sent e (List.mem_append_left _ member)⟩
    apply sent (["mqtt_auth_type"], .str n.mqttAuthType)
    simp [generateJsonForAuth, type]

theorem returns_integration
    (accepts : Accepts remoteJson (mqttFields ++ authFields remoteJson))
    (range : NumbersInRange remoteJson ((mqttFields ++ authFields remoteJson).map RemoteField.path))
    (conf : disk.conf = some (outputFormattedTomlFile
      (applyFields remoteJson (mqttFields ++ authFields remoteJson) m).cleared))
    (returns : ReturnsSent .integration remoteJson
      (applyFields remoteJson (mqttFields ++ authFields remoteJson) m).cleared) :
    Returns json u toml .integration ((mqttFields ++ authFields remoteJson).map RemoteField.path)
      remoteJson disk := by
  by_cases generic : textAt remoteJson ["mqtt_auth_type"] = some "generic"
  · have fields : authFields remoteJson = allGenericFields := by rw [authFields, if_pos generic]; rfl
    rw [fields] at accepts range conf returns ⊢
    exact returns_generic json u accepts range generic conf returns
  · by_cases gcp : textAt remoteJson ["mqtt_auth_type"] = some "gcp_cloud_iot_core"
    · have fields : authFields remoteJson = gcpFields := by
        rw [authFields, if_neg generic, if_pos gcp]
      rw [fields] at accepts range conf returns ⊢
      exact returns_gcp json u accepts range gcp conf returns
    · by_cases azure : textAt remoteJson ["mqtt_auth_type"] = some "azure_iot_hub"
      · have fields : authFields remoteJson = azureFields := by
          rw [authFields, if_neg generic, if_neg gcp, if_pos azure]
        rw [fields] at accepts range conf returns ⊢
        exact returns_azure json u accepts range azure conf returns
      · -- Another kind would not come back.
        have fields : authFields remoteJson = [] := by
          rw [authFields, if_neg generic, if_neg gcp, if_neg azure]
        rw [fields, List.append_nil] at accepts returns
        obtain ⟨type, known, applied⟩ :=
          @text_applied _ _ (mqttFields.take 4) _ _ rfl accepts m
        have assigned : (applyFields remoteJson mqttFields m).mqttAuthType = type :=
          congrArg Members.mqttAuthType applied
        have kinds := returns.returned.2
        rw [(cleared_shown _).2.2.2.2.2, assigned] at kinds
        rcases kinds with ⟨rfl, _⟩ | rfl | rfl
        · exact absurd known generic
        · exact absurd known gcp
        · exact absurd known azure

end

/-- After a request for a section has been accepted, the section is answered with the values that
have been sent, and the bridge reads them too. -/
theorem set_then_get (json : JsonText) (toml : TomlText) (u u' : Uninitialised) (s : Section)
    (inputJson : Bytes) (disk disk' : BridgeDisk) (rsp : String) (remoteJson : Json)
    (accepted : mainTomlSet json toml u s.setOption inputJson disk = (.ok (0, rsp), disk'))
    (parse : json.parse inputJson = some remoteJson)
    (range : NumbersInRange remoteJson (sentPaths remoteJson s))
    (returns : ReturnsSent s remoteJson
      ((membersBefore toml u disk).requested s.setOption remoteJson)) :
    Returns json u' toml s (sentPaths remoteJson s) remoteJson disk' := by
  obtain ⟨accepts, conf⟩ := mainTomlSet_accepted accepted parse
  have fields : requestFields remoteJson s.setOption = sectionFields remoteJson s.setOption := by
    rw [requestFields, if_neg s.not_all]
  rw [sentPaths, fields] at range ⊢
  rw [Members.requested, fields] at conf returns
  rw [fields] at accepts
  cases s with
  | general => exact returns_general json u' accepts range conf returns
  | filters => exact returns_filters json u' accepts conf returns
  | backend => exact returns_backend json u' accepts range conf returns
  | integration => exact returns_integration json u' accepts range conf returns

/-- A request for a filter with a list that is empty. -/
def halfFilterRequest : Json :=
  ((Json.null.put ["body", "filter_enable"] (.bool true)).put ["body", "net_ids"]
    (.arr [.str "000000"])).put ["body", "join_euis"] (.arr [])

def halfFilterSet : SetRequest :=
  ⟨.filters, JsonCodec.text.dump halfFilterRequest, ⟨false, false, false⟩⟩

theorem halfFilterSet_parse :
    JsonCodec.text.parse halfFilterSet.inputJson = some halfFilterRequest := by
  apply JsonCodec.text.parse_dump
  refine ((Json.Proper.null.put (.bool _) _).put (.arr ?_) _).put (.arr (by simp)) _
  simpa using Json.Proper.str _

theorem halfFilterSet_fields :
    requestFields halfFilterRequest halfFilterSet.target.setOption = enableField :: filterFields := by
  rw [requestFields, if_neg halfFilterSet.target.not_all]
  rfl

theorem halfFilterSet_sentPaths : sentPaths halfFilterRequest .filters =
    [["filter_enable"], ["net_ids"], ["join_euis"]] :=
  congrArg (List.map RemoteField.path) halfFilterSet_fields

theorem halfFilterSet_requested (logLevel : UInt32) (filters : Filters) :
    (sampleMembers logLevel filters).requested halfFilterSet.target.setOption halfFilterRequest =
      sampleMembers logLevel ⟨true, ["000000"], []⟩ := by
  rw [Members.requested, halfFilterSet_fields]
  rfl

theorem membersBefore_eq {toml : TomlText} {disk : BridgeDisk} {m : Members}
    (reads : ReadsAs toml disk.conf m) (u : Uninitialised) : membersBefore toml u disk = m := by
  obtain ⟨data, valid, read⟩ := reads
  rw [membersBefore, valid]
  simp only [parseTomlForEach, Proc.tryCatch, read]

theorem halfFilter_answer {m : Members} (filters : m.filters = { netIds := ["000000"] }) :
    runGenJsonCb Section.filters.getOption m =
      (Json.null.put ["net_ids"] (.arr [.str "000000"])).put ["filter_enable"] (.bool false) := by
  change generateJsonForFilters m .null = _
  rw [generateJsonForFilters, filters]
  rfl

theorem sampleDisk_reads : ReadsAs TomlCodec.text (sampleDisk {}).conf (sampleMembers 4 {}) :=
  readsAs_sample TomlCodec.text (by simp) (by simp)

/-- The line of the empty list is commented out, and the filter is read as disabled. -/
theorem set_then_get_half_filter :
    ¬ ∀ (json : JsonText) (toml : TomlText) (u u' : Uninitialised) (s : Section)
      (inputJson : Bytes) (disk disk' : BridgeDisk) (rsp : String) (remoteJson : Json),
      mainTomlSet json toml u s.setOption inputJson disk = (.ok (0, rsp), disk') →
      json.parse inputJson = some remoteJson →
      NumbersInRange remoteJson (sentPaths remoteJson s) →
      Returns json u' toml s (sentPaths remoteJson s) remoteJson disk' := by
  intro returns
  let u : Uninitialised := ⟨false, false, false⟩
  have accepts : AcceptsRequest JsonCodec.text halfFilterSet.target.setOption
      halfFilterSet.inputJson := by
    refine ⟨_, halfFilterSet_parse, ?_⟩
    rw [halfFilterSet_fields]
    decide
  obtain ⟨rsp, code⟩ := setAccepted_of_accepts sampleDisk_reads accepts
  obtain ⟨⟨result, disk'⟩, ran⟩ : ∃ out, mainTomlSet JsonCodec.text TomlCodec.text u
    halfFilterSet.target.setOption halfFilterSet.inputJson (sampleDisk {}) = out := ⟨_, rfl⟩
  rw [show result = .ok (0, rsp) from (congrArg Prod.fst ran).symm.trans code] at ran
  have range : NumbersInRange halfFilterRequest (sentPaths halfFilterRequest .filters) := by
    have none : ∀ number ∈ numberPaths, number.1 ∉ sentPaths halfFilterRequest .filters := by
      rw [halfFilterSet_sentPaths]
      decide
    exact fun number known here => absurd here (none number known)
  obtain ⟨⟨bytes, answer, got, parse, same⟩, _⟩ :=
    returns _ _ u u .filters _ _ _ rsp _ ran halfFilterSet_parse range
  -- What the file is read as.
  obtain ⟨_, conf⟩ := mainTomlSet_accepted ran halfFilterSet_parse
  rw [membersBefore_eq sampleDisk_reads, halfFilterSet_requested] at conf
  have plain := (@sampleMembers_readable 4 ⟨true, ["000000"], []⟩
    (by simp [PlainItem, List.infix_cons_iff]) (by simp)).plain
  obtain ⟨data, valid, written⟩ := plain.written TomlCodec.text
  have read := @parseTomlFilters_written _ _ written ⟨.initial u, disk'⟩ rfl
  have gets := @mainTomlGet_eq JsonCodec.text TomlCodec.text u .filters disk' data
    (by rw [conf, Option.bind_some, valid]) _ read
  rw [halfFilter_answer rfl] at gets
  have dumped := (Prod.mk.inj (Except.ok.inj (Prod.mk.inj (gets.symm.trans got)).1)).2
  have list : (Json.arr [.str "000000"]).Proper JsonCodec.text.finite :=
    .arr (by simpa using Json.Proper.str _)
  have proper := (Json.Proper.null.put list ["net_ids"]).put (.bool false) ["filter_enable"]
  rw [← dumped, JsonCodec.text.parse_dump _ proper] at parse
  have enable := same ["filter_enable"] (by rw [halfFilterSet_sentPaths]; decide)
  rw [← Option.some.inj parse] at enable
  cases enable

/-- A request for a server with a user and a certificate of its own. -/
def brokerRequest : Json :=
  Json.null.putAll [
    (["body", "mqtt", "command_topic_template"], .str "gateway/\x7b\x7b .GatewayID \x7d\x7d/command/#"),
    (["body", "mqtt", "event_topic_template"], .str "gateway/\x7b\x7b .GatewayID \x7d\x7d/event/up"),
    (["body", "mqtt", "max_reconnect_interval"], .uint 90),
    (["body", "marshaler"], .str "json"),
    (["body", "mqtt_auth_type"], .str "generic"),
    (["body", "generic", "clean_session"], .bool true),
    (["body", "generic", "client_id"], .str "gateway-7"),
    (["body", "generic", "ip"], .str "tcp://broker.example"),
    (["body", "generic", "password"], .str "quo\"ted"),
    (["body", "generic", "port"], .uint 8883),
    (["body", "generic", "qos"], .uint 1),
    (["body", "generic", "ca_cert"], .str "/etc/ssl/gw/bridge_cafile/ca.pem"),
    (["body", "generic", "tls_cert"], .str ""),
    (["body", "generic", "tls_key"], .str ""),
    (["body", "generic", "username"], .str "user"),
    (["body", "generic", "tls_pass_phrase"], .str "")]

def brokerSet : SetRequest :=
  ⟨.integration, JsonCodec.text.dump brokerRequest, ⟨false, false, false⟩⟩

theorem brokerSet_parse : JsonCodec.text.parse brokerSet.inputJson = some brokerRequest := by
  apply JsonCodec.text.parse_dump
  apply Json.Proper.null.putAll
  simp only [List.forall_mem_cons, Json.Proper.str, Json.Proper.uint, Json.Proper.bool, true_and]
  simp

theorem brokerSet_fields : requestFields brokerRequest brokerSet.target.setOption =
    mqttFields ++ allGenericFields := by
  have generic : authFields brokerRequest = allGenericFields := if_pos rfl
  rw [requestFields, if_neg brokerSet.target.not_all, ← generic]
  rfl

theorem brokerSet_accepts :
    AcceptsRequest JsonCodec.text brokerSet.target.setOption brokerSet.inputJson := by
  refine ⟨brokerRequest, brokerSet_parse, ?_⟩
  rw [brokerSet_fields]
  decide

/-- The members that the request leaves. -/
def brokerMembers : Members :=
  { sampleMembers 4 {} with
    commandTopicTemplate := "gateway/\x7b\x7b .GatewayID \x7d\x7d/command/#"
    eventTopicTemplate := "gateway/\x7b\x7b .GatewayID \x7d\x7d/event/up"
    maxReconnectInterval := 90
    marshaler := "json"
    mqttAuthType := "generic"
    generic := {
      cleanSession := true, clientId := "gateway-7", ip := "tcp" ++ ":" ++ "//broker.example"
      password := "quo\"ted", port := 8883, qos := 1
      caCert := "/etc/ssl/gw/bridge_cafile/ca.pem", username := "user" } }

theorem brokerSet_requested :
    (sampleMembers 4 {}).requested brokerSet.target.setOption brokerRequest = brokerMembers := by
  rw [Members.requested, brokerSet_fields]
  rfl

theorem brokerMembers_returned : ReturnsSent .integration brokerRequest brokerMembers := by
  have texts : ∀ s ∈ brokerMembers.texts, '[' ∉ s.toList := by decide
  have server : KeptServer brokerMembers.generic.ip brokerMembers.generic.port :=
    .inr ⟨by decide, .inr ⟨"tcp", "//broker.example", rfl, by decide, by decide, by decide⟩⟩
  obtain ⟨address, splits, _⟩ := splitServer_kept server
  have readable := @sampleMembers_readable 4 {} (by simp) (by simp)
  refine ⟨?_, readable.udp, ⟨address, splits⟩, ?_, .inl ⟨rfl, server, by decide⟩⟩
  · exact ⟨fun s member => plainText_of_open (texts s member), by decide,
      List.forall_mem_nil _, List.forall_mem_nil _, by decide⟩
  · exact List.all_iff_forall_prop.mp (by decide)

/-- The server comes back with its texts. -/
theorem set_then_get_broker :
    ∃ rsp disk', mainTomlSet JsonCodec.text TomlCodec.text ⟨false, false, false⟩
        brokerSet.target.setOption brokerSet.inputJson (sampleDisk {}) = (.ok (0, rsp), disk') ∧
      Returns JsonCodec.text ⟨true, true, true⟩ TomlCodec.text .integration
        (sentPaths brokerRequest .integration) brokerRequest disk' := by
  obtain ⟨rsp, code⟩ := setAccepted_of_accepts sampleDisk_reads brokerSet_accepts
  obtain ⟨⟨result, disk'⟩, ran⟩ : ∃ out, mainTomlSet JsonCodec.text TomlCodec.text
    ⟨false, false, false⟩ brokerSet.target.setOption brokerSet.inputJson (sampleDisk {}) = out :=
    ⟨_, rfl⟩
  rw [show result = .ok (0, rsp) from (congrArg Prod.fst ran).symm.trans code] at ran
  refine ⟨rsp, disk', ran, set_then_get _ _ _ _ .integration _ _ _ _ _ ran brokerSet_parse ?_ ?_⟩
  · have paths : sentPaths brokerRequest .integration =
        (mqttFields ++ allGenericFields).map RemoteField.path :=
      congrArg (List.map RemoteField.path) brokerSet_fields
    have numbers : ∀ number ∈ numberPaths,
        number.1 ∈ (mqttFields ++ allGenericFields).map RemoteField.path →
        number ∈ [(["mqtt", "max_reconnect_interval"], 2 ^ 32), (["generic", "port"], 2 ^ 32),
          (["generic", "qos"], 2 ^ 16)] := by
      decide
    intro number known here
    rw [paths] at here
    have one := numbers number known here
    simp only [List.mem_cons, List.not_mem_nil, or_false] at one
    rcases one with rfl | rfl | rfl
    · exact ⟨90, rfl, by decide⟩
    · exact ⟨8883, rfl, by decide⟩
    · exact ⟨1, rfl, by decide⟩
  · rw [membersBefore_eq sampleDisk_reads, show Section.integration = brokerSet.target from rfl,
      brokerSet_requested]
    exact brokerMembers_returned

end LorawanFeeds.Cgi
