import Mathlib.Data.List.Infix
import Mathlib.Logic.Function.Basic
import LorawanFeeds.Cgi.BridgeToml

/-!
# Requests for the configuration of the bridge

`main_toml_get` and `main_toml_set` of `cgicpp-toml.cpp`. A request replaces the members of one
section, or of all of them; then the file is written anew from all members. The TOML library prints
the tables to a temporary file, whose lines are edited on the way to the configuration file.
-/
namespace LorawanFeeds.Cgi

open Lib Bridge

/-! ### Reading a request -/

/-- A path below `body`, and how its value is assigned; without a value, the conversion throws. -/
structure RemoteField where
  path : List String
  read : Json → Option (Members → Members)

namespace RemoteField

def text (path : List String) (assign : String → Members → Members) : RemoteField :=
  ⟨path, fun j => j.asString.toOption.map assign⟩

def bool (path : List String) (assign : Bool → Members → Members) : RemoteField :=
  ⟨path, fun j => j.asBool.toOption.map assign⟩

def uint32 (path : List String) (assign : UInt32 → Members → Members) : RemoteField :=
  ⟨path, fun j => j.asUInt32.toOption.map assign⟩

def uint64 (path : List String) (assign : UInt64 → Members → Members) : RemoteField :=
  ⟨path, fun j => j.asUInt64.toOption.map assign⟩

def uint16 (path : List String) (assign : UInt16 → Members → Members) : RemoteField :=
  ⟨path, fun j => j.asUInt16.toOption.map assign⟩

end RemoteField

/-- `get_to` of a `vector<string>`. -/
def asStrings : Json → Option (List String)
  | .arr items => items.mapM fun j => j.asString.toOption
  | _ => none

/-- `get_to` of an `array<string, 2>`: the first two items. -/
def asPair : Json → Option (String × String)
  | .arr (a :: b :: _) => do
    let first ← a.asString.toOption
    let second ← b.asString.toOption
    return (first, second)
  | _ => none

def asPairs : Json → Option (List (String × String))
  | .arr items => items.mapM asPair
  | _ => none

/-- The value at a path below `body`. -/
def inBody (remoteJson : Json) (path : List String) : Option Json :=
  (remoteJson.indexPath ("body" :: path)).toOption

/-- How the value of a field is assigned. -/
def RemoteField.value (remoteJson : Json) (field : RemoteField) : Option (Members → Members) :=
  (inBody remoteJson field.path).bind field.read

/-- The fields of a request, one after the other. -/
def parseRemoteFields (remoteJson : Json) : List RemoteField → TomlProc Unit
  | [] => pure ()
  | field :: fields => do
    assign (← Proc.ofExcept (thrown (field.value remoteJson)))
    parseRemoteFields remoteJson fields

def generalField : RemoteField := .uint32 ["log_level"] fun n m => { m with logLevel := n }

def parseRemoteGeneral (remoteJson : Json) : TomlProc Unit :=
  parseRemoteFields remoteJson [generalField]

def enableField : RemoteField := .bool ["filter_enable"] fun b m => { m with filters.enable := b }

def filterFields : List RemoteField := [
  ⟨["net_ids"], fun j => (asStrings j).map fun ids m => { m with filters.netIds := ids }⟩,
  ⟨["join_euis"], fun j => (asPairs j).map fun euis m => { m with filters.joinEuis := euis }⟩]

def parseRemoteFilters (remoteJson : Json) : TomlProc Unit := do
  parseRemoteFields remoteJson [enableField]
  if (← Proc.get).members.filters.enable = true then parseRemoteFields remoteJson filterFields

def udpFields : List RemoteField := [
  .text ["semtech_udp", "udp_ip"] fun s m => { m with udp.ip := s },
  .uint32 ["semtech_udp", "udp_port"] fun n m => { m with udp.port := n },
  .bool ["semtech_udp", "skip_crc_check"] fun b m => { m with udp.skipCrcCheck := b },
  .bool ["semtech_udp", "fake_rx_time"] fun b m => { m with udp.fakeRxTime := b }]

def bsFields : List RemoteField := [
  .text ["basic_station", "bind_ip"] fun s m => { m with bs.ip := s },
  .uint32 ["basic_station", "bind_port"] fun n m => { m with bs.port := n },
  .text ["basic_station", "ca_cert"] fun s m => { m with bs.caCert := s },
  .uint64 ["basic_station", "frequency_max"] fun n m => { m with bs.frequencyMax := n },
  .uint64 ["basic_station", "frequency_min"] fun n m => { m with bs.frequencyMin := n },
  .uint32 ["basic_station", "ping_interval"] fun n m => { m with bs.pingInterval := n },
  .uint32 ["basic_station", "read_timeout"] fun n m => { m with bs.readTimeout := n },
  .text ["basic_station", "region"] fun s m => { m with bs.region := s },
  .text ["basic_station", "tls_cert"] fun s m => { m with bs.tlsCert := s },
  .text ["basic_station", "tls_key"] fun s m => { m with bs.tlsKey := s },
  .uint32 ["basic_station", "write_timeout"] fun n m => { m with bs.writeTimeout := n }]

def backendTypeField : RemoteField := .text ["backend_type"] fun s m => { m with backendType := s }

def parseRemoteBackend (remoteJson : Json) : TomlProc Unit := do
  parseRemoteFields remoteJson [backendTypeField]
  let type := (← Proc.get).members.backendType
  if type = "semtech_udp" then parseRemoteFields remoteJson udpFields
  else if type = "basic_station" then parseRemoteFields remoteJson bsFields

/-- The entries that stay. -/
def keptEntries (dirPath input : String) (entries : List DirEntry) : List DirEntry :=
  entries.filter fun e => ¬ (e.regular = true ∧ dirPath ++ "/" ++ e.name ≠ input)

/-- `remove_files_from_dir_except_input`. -/
def removeFilesFromDirExceptInput (dirPath input : String) (disk : BridgeDisk) : BridgeDisk :=
  if containsText input dirPath then
    match disk.folders dirPath with
    | some entries =>
      { disk with
        folders := Function.update disk.folders dirPath (some (keptEntries dirPath input entries)) }
    | none => disk
  else disk

/-- What follows the path of a certificate in a request: the other files of its folder go. -/
def keepOnly (dirPath : String) (file : Members → String) : TomlProc Unit := Proc.modify fun p =>
  if file p.members = "" then p
  else { p with disk := removeFilesFromDirExceptInput dirPath (file p.members) p.disk }

def mqttFields : List RemoteField := [
  .text ["mqtt", "command_topic_template"] fun s m => { m with commandTopicTemplate := s },
  .text ["mqtt", "event_topic_template"] fun s m => { m with eventTopicTemplate := s },
  .uint32 ["mqtt", "max_reconnect_interval"] fun n m => { m with maxReconnectInterval := n },
  .text ["marshaler"] fun s m => { m with marshaler := s },
  .text ["mqtt_auth_type"] fun s m => { m with mqttAuthType := s }]

def genericFields : List RemoteField := [
  .bool ["generic", "clean_session"] fun b m => { m with generic.cleanSession := b },
  .text ["generic", "client_id"] fun s m => { m with generic.clientId := s },
  .text ["generic", "ip"] fun s m => { m with generic.ip := s },
  .text ["generic", "password"] fun s m => { m with generic.password := s },
  .uint32 ["generic", "port"] fun n m => { m with generic.port := n },
  .uint16 ["generic", "qos"] fun n m => { m with generic.qos := n },
  .text ["generic", "ca_cert"] fun s m => { m with generic.caCert := s }]

def genericCertField : RemoteField :=
  .text ["generic", "tls_cert"] fun s m => { m with generic.tlsCert := s }

def genericKeyField : RemoteField :=
  .text ["generic", "tls_key"] fun s m => { m with generic.tlsKey := s }

def genericUserFields : List RemoteField := [
  .text ["generic", "username"] fun s m => { m with generic.username := s },
  .text ["generic", "tls_pass_phrase"] fun s m => { m with generic.passPhrase := s }]

def gcpFields : List RemoteField := [
  .text ["gcp_cloud_iot_core", "cloud_region"] fun s m => { m with gcp.cloudRegion := s },
  .text ["gcp_cloud_iot_core", "device_id"] fun s m => { m with gcp.deviceId := s },
  .text ["gcp_cloud_iot_core", "gcp_server"] fun s m => { m with gcp.server := s },
  .uint32 ["gcp_cloud_iot_core", "jwt_expiration"] fun n m => { m with gcp.jwtExpiration := n },
  .text ["gcp_cloud_iot_core", "jwt_key_file"] fun s m => { m with gcp.jwtKeyFile := s },
  .text ["gcp_cloud_iot_core", "project_id"] fun s m => { m with gcp.projectId := s },
  .text ["gcp_cloud_iot_core", "registry_id"] fun s m => { m with gcp.registryId := s }]

def azureFields : List RemoteField := [
  .text ["azure_iot_hub", "device_connection_string"] fun s m =>
    { m with azure.deviceConnectionString := s },
  .text ["azure_iot_hub", "device_id"] fun s m => { m with azure.deviceId := s },
  .text ["azure_iot_hub", "hostname"] fun s m => { m with azure.hostname := s },
  .uint32 ["azure_iot_hub", "sas_token_expiration"] fun n m =>
    { m with azure.sasTokenExpiration := n },
  .text ["azure_iot_hub", "tls_cert"] fun s m => { m with azure.tlsCert := s },
  .text ["azure_iot_hub", "tls_key"] fun s m => { m with azure.tlsKey := s }]

/-- The part of `parse_remote_integration` for `GENERIC`. -/
def parseRemoteGeneric (remoteJson : Json) : TomlProc Unit := do
  parseRemoteFields remoteJson genericFields
  keepOnly bridgeCafilePath fun m => m.generic.caCert
  parseRemoteFields remoteJson [genericCertField]
  keepOnly bridgeCertfilePath fun m => m.generic.tlsCert
  parseRemoteFields remoteJson [genericKeyField]
  keepOnly bridgeKeyfilePath fun m => m.generic.tlsKey
  parseRemoteFields remoteJson genericUserFields

def parseRemoteIntegration (remoteJson : Json) : TomlProc Unit := do
  parseRemoteFields remoteJson mqttFields
  let type := (← Proc.get).members.mqttAuthType
  if type = "generic" then parseRemoteGeneric remoteJson
  else if type = "gcp_cloud_iot_core" then parseRemoteFields remoteJson gcpFields
  else if type = "azure_iot_hub" then parseRemoteFields remoteJson azureFields

/-- `run_parse_json_cb`. An option that is not in the map reads nothing. -/
def runParseJsonCb (remoteJson : Json) (option : String) : TomlProc Unit :=
  if option = "cgicpp-toml-general-set" then parseRemoteGeneral remoteJson
  else if option = "cgicpp-toml-filters-set" then parseRemoteFilters remoteJson
  else if option = "cgicpp-toml-backend-set" then parseRemoteBackend remoteJson
  else if option = "cgicpp-toml-integration-set" then parseRemoteIntegration remoteJson
  else pure ()

/-! ### Writing the file -/

def number (n : UInt32) : TomlValue := .number n.toUInt64.toInt64

def bindText (ip : String) (port : UInt32) : TomlValue := .text (ip ++ ":" ++ decimal port)

def duration (sec : UInt32) : TomlValue := .text (parseJsonSecToString sec)

/-- The tables of `assemble_data_part_1` to `assemble_data_part_5`. -/
def Members.tables (m : Members) : List (String × List (String × TomlValue)) := [
  ("general", [("log_level", number m.logLevel)]),
  ("filters", [("net_ids", .texts m.filters.netIds), ("join_euis", .pairs m.filters.joinEuis)]),
  ("backend.semtech_udp", [
    ("fake_rx_time", .flag m.udp.fakeRxTime), ("skip_crc_check", .flag m.udp.skipCrcCheck),
    ("udp_bind", bindText m.udp.ip m.udp.port)]),
  ("backend", [("type", .text m.backendType)]),
  ("backend.basic_station", [
    ("frequency_max", .number m.bs.frequencyMax.toInt64),
    ("frequency_min", .number m.bs.frequencyMin.toInt64), ("region", .text m.bs.region),
    ("write_timeout", duration m.bs.writeTimeout), ("read_timeout", duration m.bs.readTimeout),
    ("ping_interval", duration m.bs.pingInterval), ("ca_cert", .text m.bs.caCert),
    ("tls_key", .text m.bs.tlsKey), ("tls_cert", .text m.bs.tlsCert),
    ("bind", bindText m.bs.ip m.bs.port)]),
  ("integration.mqtt", [
    ("max_reconnect_interval", duration m.maxReconnectInterval),
    ("command_topic_template", .text m.commandTopicTemplate),
    ("event_topic_template", .text m.eventTopicTemplate)]),
  ("integration.mqtt.auth", [("type", .text m.mqttAuthType)]),
  ("integration", [("marshaler", .text m.marshaler)]),
  ("integration.mqtt.auth.gcp_cloud_iot_core", [
    ("jwt_key_file", .text m.gcp.jwtKeyFile), ("jwt_expiration", duration m.gcp.jwtExpiration),
    ("registry_id", .text m.gcp.registryId), ("cloud_region", .text m.gcp.cloudRegion),
    ("project_id", .text m.gcp.projectId), ("device_id", .text m.gcp.deviceId),
    ("server", .text m.gcp.server)]),
  ("integration.mqtt.auth.azure_iot_hub", [
    ("tls_key", .text m.azure.tlsKey), ("tls_cert", .text m.azure.tlsCert),
    ("hostname", .text m.azure.hostname), ("device_id", .text m.azure.deviceId),
    ("sas_token_expiration", duration m.azure.sasTokenExpiration),
    ("device_connection_string", .text m.azure.deviceConnectionString)]),
  ("integration.mqtt.auth.generic", [
    ("tls_pass_phrase", .text m.generic.passPhrase), ("tls_key", .text m.generic.tlsKey),
    ("tls_cert", .text m.generic.tlsCert), ("ca_cert", .text m.generic.caCert),
    ("client_id", .text m.generic.clientId), ("clean_session", .flag m.generic.cleanSession),
    ("qos", .number m.generic.qos.toUInt64.toInt64), ("password", .text m.generic.password),
    ("username", .text m.generic.username), ("server", bindText m.generic.ip m.generic.port)])]

/-- The header of a table as the library prints it: a key with a dot in it is quoted. -/
def printHeader (key : String) : List Char :=
  if '.' ∈ key.toList then '[' :: (Quoted.writeString key ++ [']']) else '[' :: (key.toList ++ [']'])

def printTable (table : String × List (String × TomlValue)) : List (List Char) :=
  printHeader table.1 :: table.2.map (fun e => (TomlLine.entry e.1 e.2).write) ++ [[]]

/-- The body of the loop of `output_formatted_toml_file`: a line as it is written, if it is. -/
def formatLine (line : List Char) : Option (List Char) :=
  let line := if ['[', '"'] <:+: line ∧ '.' ∈ line then line.filter (· ≠ '"') else line
  let line := if ['[', ']'] <:+: line then '#' :: ' ' :: line else line
  if line = "type = \"\"".toList then none else some line

/-- `output_formatted_toml_file`. -/
def outputFormattedTomlFile (m : Members) : List (List Char) :=
  (m.tables.flatMap printTable).filterMap formatLine

/-- `assemble_data_part_2` clears the lists of a filter that is not enabled. -/
def Members.cleared (m : Members) : Members :=
  if m.filters.enable = false then { m with filters.netIds := [], filters.joinEuis := [] } else m

/-- `update_local_toml_content`. -/
def updateLocalTomlContent : TomlProc Unit := Proc.modify fun p =>
  { members := p.members.cleared
    disk := { p.disk with conf := some (outputFormattedTomlFile p.members.cleared) } }

/-! ### The answer to a request -/

def generateJsonForGeneral (m : Members) (uploadJson : Json) : Json :=
  uploadJson.put ["log_level"] (.uint m.logLevel.toUInt64)

def generateJsonForFilters (m : Members) (uploadJson : Json) : Json :=
  let uploadJson := if m.filters.netIds = [] then uploadJson
    else uploadJson.put ["net_ids"] (.arr (m.filters.netIds.map .str))
  let uploadJson := if m.filters.joinEuis = [] then uploadJson
    else uploadJson.put ["join_euis"]
      (.arr (m.filters.joinEuis.map fun e => .arr [.str e.1, .str e.2]))
  uploadJson.put ["filter_enable"] (.bool m.filters.enable)

def generateJsonForBackend (m : Members) (uploadJson : Json) : Json :=
  if m.backendType = "semtech_udp" then
    uploadJson.putAll [
      (["backend_type"], .str "semtech_udp"),
      (["semtech_udp", "udp_ip"], .str m.udp.ip),
      (["semtech_udp", "udp_port"], .uint m.udp.port.toUInt64),
      (["semtech_udp", "skip_crc_check"], .bool m.udp.skipCrcCheck),
      (["semtech_udp", "fake_rx_time"], .bool m.udp.fakeRxTime)]
  else if m.backendType = "basic_station" then
    uploadJson.putAll [
      (["backend_type"], .str "basic_station"),
      (["basic_station", "bind_ip"], .str m.bs.ip),
      (["basic_station", "bind_port"], .uint m.bs.port.toUInt64),
      (["basic_station", "tls_cert"], .str m.bs.tlsCert),
      (["basic_station", "tls_key"], .str m.bs.tlsKey),
      (["basic_station", "ca_cert"], .str m.bs.caCert),
      (["basic_station", "ping_interval"], .uint m.bs.pingInterval.toUInt64),
      (["basic_station", "write_timeout"], .uint m.bs.writeTimeout.toUInt64),
      (["basic_station", "region"], .str m.bs.region),
      (["basic_station", "read_timeout"], .uint m.bs.readTimeout.toUInt64),
      (["basic_station", "frequency_min"], .uint m.bs.frequencyMin),
      (["basic_station", "frequency_max"], .uint m.bs.frequencyMax)]
  else uploadJson

/-- The part of `generate_json_for_integration` for the kind of authentication. -/
def generateJsonForAuth (m : Members) : List (List String × Json) :=
  if m.mqttAuthType = "generic" then [
    (["mqtt_auth_type"], .str "generic"), (["generic", "ip"], .str m.generic.ip),
    (["generic", "port"], .uint m.generic.port.toUInt64),
    (["generic", "username"], .str m.generic.username),
    (["generic", "password"], .str m.generic.password),
    (["generic", "qos"], .uint m.generic.qos.toUInt64),
    (["generic", "clean_session"], .bool m.generic.cleanSession),
    (["generic", "client_id"], .str m.generic.clientId),
    (["generic", "ca_cert"], .str m.generic.caCert),
    (["generic", "tls_cert"], .str m.generic.tlsCert),
    (["generic", "tls_key"], .str m.generic.tlsKey),
    (["generic", "tls_pass_phrase"], .str m.generic.passPhrase)]
  else if m.mqttAuthType = "gcp_cloud_iot_core" then [
    (["mqtt_auth_type"], .str "gcp_cloud_iot_core"),
    (["gcp_cloud_iot_core", "gcp_server"], .str m.gcp.server),
    (["gcp_cloud_iot_core", "device_id"], .str m.gcp.deviceId),
    (["gcp_cloud_iot_core", "project_id"], .str m.gcp.projectId),
    (["gcp_cloud_iot_core", "cloud_region"], .str m.gcp.cloudRegion),
    (["gcp_cloud_iot_core", "registry_id"], .str m.gcp.registryId),
    (["gcp_cloud_iot_core", "jwt_expiration"], .uint m.gcp.jwtExpiration.toUInt64),
    (["gcp_cloud_iot_core", "jwt_key_file"], .str m.gcp.jwtKeyFile)]
  else if m.mqttAuthType = "azure_iot_hub" then [
    (["mqtt_auth_type"], .str "azure_iot_hub"),
    (["azure_iot_hub", "device_connection_string"], .str m.azure.deviceConnectionString),
    (["azure_iot_hub", "sas_token_expiration"], .uint m.azure.sasTokenExpiration.toUInt64),
    (["azure_iot_hub", "device_id"], .str m.azure.deviceId),
    (["azure_iot_hub", "hostname"], .str m.azure.hostname),
    (["azure_iot_hub", "tls_cert"], .str m.azure.tlsCert),
    (["azure_iot_hub", "tls_key"], .str m.azure.tlsKey)]
  else []

def generateJsonForIntegration (m : Members) (uploadJson : Json) : Json :=
  (uploadJson.putAll [
    (["marshaler"], .str m.marshaler),
    (["mqtt", "event_topic_template"], .str m.eventTopicTemplate),
    (["mqtt", "command_topic_template"], .str m.commandTopicTemplate),
    (["mqtt", "max_reconnect_interval"], .uint m.maxReconnectInterval.toUInt64)]).putAll
    (generateJsonForAuth m)

/-- `run_parse_toml_cb`. -/
def runParseTomlCb (data : Toml) (option : String) : TomlProc Unit :=
  if option = "cgicpp-toml-general-get" then parseTomlGeneral data
  else if option = "cgicpp-toml-filters-get" then parseTomlFilters data
  else if option = "cgicpp-toml-backend-get" then parseTomlBackend data
  else if option = "cgicpp-toml-integration-get" then parseTomlIntegration data
  else pure ()

/-- `run_gen_json_cb`. -/
def runGenJsonCb (option : String) (m : Members) : Json :=
  if option = "cgicpp-toml-general-get" then generateJsonForGeneral m .null
  else if option = "cgicpp-toml-filters-get" then generateJsonForFilters m .null
  else if option = "cgicpp-toml-backend-get" then generateJsonForBackend m .null
  else if option = "cgicpp-toml-integration-get" then generateJsonForIntegration m .null
  else .null

/-! ### The programs -/

/-- `set_local_for_one`. -/
def setLocalForOne (json : JsonText) (data : Toml) (option : String) (inputJson : Bytes) :
    TomlProc Unit := do
  let remoteJson ← Proc.ofExcept (thrown (json.parse inputJson))
  parseTomlForEach data
  runParseJsonCb remoteJson option
  updateLocalTomlContent

/-- `set_local_for_each`. -/
def setLocalForEach (json : JsonText) (data : Toml) (inputJson : Bytes) : TomlProc Unit := do
  parseTomlForEach data
  let remoteJson ← Proc.ofExcept (thrown (json.parse inputJson))
  parseRemoteGeneral remoteJson
  parseRemoteFilters remoteJson
  parseRemoteBackend remoteJson
  parseRemoteIntegration remoteJson
  updateLocalTomlContent

/-- The body of `main_parser_set`. -/
def setLocal (json : JsonText) (data : Toml) (option : String) (inputJson : Bytes) :
    TomlProc Unit :=
  if containsText option "all" then setLocalForEach json data inputJson
  else setLocalForOne json data option inputJson

def parserName : String := "bridge toml file"

/-- `main_parser_set`: the code and the answer. -/
def mainParserSet (json : JsonText) (data : Toml) (option : String) (inputJson : Bytes) :
    TomlProc (Int × String) :=
  Proc.tryCatch (do
    setLocal json data option inputJson
    return (0, "")) (· = .thrown)
    (return (-1, "Failed to update " ++ parserName ++
      " config, please check your json format or option value."))

/-- The answer of `main_parser_get` without exceptions. -/
def getLocal (data : Toml) (option : String) : TomlProc Json := do
  if containsText option "all" then
    parseTomlForEach data
    let m := (← Proc.get).members
    return generateJsonForIntegration m (generateJsonForBackend m (generateJsonForFilters m
      (generateJsonForGeneral m .null)))
  else
    runParseTomlCb data option
    return runGenJsonCb option (← Proc.get).members

/-- The bytes of a text. -/
def textBytes (s : String) : Bytes := s.toUTF8.toList

/-- `main_parser_get`: the code and the answer. -/
def mainParserGet (json : JsonText) (data : Toml) (option : String) : TomlProc (Int × Bytes) :=
  Proc.tryCatch (do
    let uploadJson ← getLocal data option
    return (0, json.dump uploadJson)) (· = .thrown)
    (return (-1, textBytes ("Failed to get" ++ parserName ++
      "config information, please check your local json file.")))

/-- A new object works on the disk. An exception of its constructor is not caught. -/
def withBridgeToml {α : Type} (toml : TomlText) (u : Uninitialised) (use : Toml → TomlProc α) :
    Proc BridgeDisk Fault α := do
  match (← Proc.get).conf.bind toml.parse with
  | none => Proc.raise .thrown
  | some data => Proc.within (fun disk => ⟨.initial u, disk⟩) BridgeToml.disk (use data)

/-- `main_toml_set`. -/
def mainTomlSet (json : JsonText) (toml : TomlText) (u : Uninitialised) (option : String)
    (inputJson : Bytes) : Proc BridgeDisk Fault (Int × String) :=
  withBridgeToml toml u fun data => mainParserSet json data option inputJson

/-- `main_toml_get`. -/
def mainTomlGet (json : JsonText) (toml : TomlText) (u : Uninitialised) (option : String) :
    Proc BridgeDisk Fault (Int × Bytes) :=
  withBridgeToml toml u fun data => mainParserGet json data option

end LorawanFeeds.Cgi
