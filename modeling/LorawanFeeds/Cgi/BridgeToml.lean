import LorawanFeeds.Lib.CText
import LorawanFeeds.Lib.JsonText
import LorawanFeeds.Lib.Proc
import LorawanFeeds.Lib.Toml
import LorawanFeeds.Bridge.Protocol
import LorawanFeeds.Cgi.BridgeTopic

/-!
# The configuration of the bridge

`BridgeToml` of `cgicpp-toml.cpp`: the members that the file `lorabridge.toml` is read into, the
readers of its sections, and the readers of a request. Each reader assigns one member after the
other; what it has assigned before an exception stays assigned.
-/
namespace LorawanFeeds.Cgi

open Lib Bridge CText

/-! ### Members -/

structure Filters where
  enable : Bool := false
  netIds : List String := []
  joinEuis : List (String × String) := []
  deriving DecidableEq, Repr

structure SemtechUdp where
  ip : String := ""
  port : UInt32 := 0
  skipCrcCheck : Bool
  fakeRxTime : Bool
  deriving DecidableEq, Repr

structure BasicStation where
  ip : String := ""
  port : UInt32 := 0
  tlsCert : String := ""
  tlsKey : String := ""
  caCert : String := ""
  pingInterval : UInt32 := 0
  readTimeout : UInt32 := 0
  writeTimeout : UInt32 := 0
  region : String := ""
  frequencyMin : UInt64 := 0
  frequencyMax : UInt64 := 0
  deriving DecidableEq, Repr

structure Generic where
  ip : String := ""
  port : UInt32 := 0
  username : String := ""
  password : String := ""
  qos : UInt16 := 0
  cleanSession : Bool
  clientId : String := ""
  caCert : String := ""
  tlsCert : String := ""
  tlsKey : String := ""
  passPhrase : String := ""
  deriving DecidableEq, Repr

structure Gcp where
  server : String := ""
  deviceId : String := ""
  projectId : String := ""
  cloudRegion : String := ""
  registryId : String := ""
  jwtExpiration : UInt32 := 0
  jwtKeyFile : String := ""
  deriving DecidableEq, Repr

structure Azure where
  deviceConnectionString : String := ""
  sasTokenExpiration : UInt32 := 0
  deviceId : String := ""
  hostname : String := ""
  tlsCert : String := ""
  tlsKey : String := ""
  deriving DecidableEq, Repr

structure Members where
  logLevel : UInt32 := 0
  filters : Filters := {}
  backendType : String := ""
  udp : SemtechUdp
  bs : BasicStation := {}
  marshaler : String := ""
  eventTopicTemplate : String := ""
  commandTopicTemplate : String := ""
  maxReconnectInterval : UInt32 := 0
  mqttAuthType : String := ""
  generic : Generic
  gcp : Gcp := {}
  azure : Azure := {}
  deriving DecidableEq, Repr

/-- The members that the constructor leaves without a value. -/
structure Uninitialised where
  skipCrcCheck : Bool
  fakeRxTime : Bool
  cleanSession : Bool

def Members.initial (u : Uninitialised) : Members where
  udp := { skipCrcCheck := u.skipCrcCheck, fakeRxTime := u.fakeRxTime }
  generic := { cleanSession := u.cleanSession }

/-! ### The disk -/

def bridgeCafilePath : String := "/etc/ssl/gw/bridge_cafile"
def bridgeCertfilePath : String := "/etc/ssl/gw/bridge_certfile"
def bridgeKeyfilePath : String := "/etc/ssl/gw/bridge_keyfile"

/-- An entry of a folder: a regular file with its content, or something else. -/
structure DirEntry where
  name : String
  regular : Bool
  content : Bytes
  deriving DecidableEq, Repr

/-- The lines of `lorabridge.toml`, and the folders that can be opened. -/
structure BridgeDisk where
  conf : Option (List (List Char))
  folders : String → Option (List DirEntry)

/-- An exception of one of the libraries, or a call that C leaves undefined. -/
inductive Fault where
  | thrown
  | undefined
  deriving DecidableEq, Repr

/-- The object of the class, with the disk that its functions work on. -/
structure BridgeToml where
  members : Members
  disk : BridgeDisk

abbrev TomlProc := Proc BridgeToml Fault

def thrown {α : Type} (x : Option α) : Except Fault α := x.elim (.error .thrown) .ok

def undefined {α : Type} (x : Option α) : Except Fault α := x.elim (.error .undefined) .ok

def assign (f : Members → Members) : TomlProc Unit :=
  Proc.modify fun p => { p with members := f p.members }

/-! ### Texts with more than one value in them -/

/-- `ip:port`; nothing is assigned if the text starts with the colon. -/
def splitBind (bind : String) : Except Fault (Option (String × UInt32)) :=
  if bind.toList.head? = some ':' then .ok none
  else do
    let (ip, rest) ← undefined (strtok ':' (cString bind))
    let (port, _) ← undefined (strtok ':' rest)
    let port ← undefined (atoi port)
    return some (String.ofList ip, port.toUInt32)

/-- `strlen`. -/
def strlen (text : List Char) : Nat := (String.ofList text).utf8ByteSize

/-- `server`: a first part that is shorter than an address is a scheme. -/
def splitServer (bind : String) : Except Fault (Option (String × UInt32)) :=
  if bind.toList.head? = some ':' then .ok none
  else do
    let (ip, rest) ← undefined (strtok ':' (cString bind))
    if strlen ip < 7 then
      let (ipPart, rest) ← undefined (strtok ':' rest)
      let (port, _) ← undefined (strtok ':' rest)
      let port ← undefined (atoi port)
      return some (String.ofList ip ++ ":" ++ String.ofList ipPart, port.toUInt32)
    else
      let (port, _) ← undefined (strtok ':' rest)
      let port ← undefined (atoi port)
      return some (String.ofList ip, port.toUInt32)

/-- The next part of a duration: a number up to its unit, as seconds. -/
def durationPart (t : String) (unit : Char) (scale : Int) (rest : List Char) :
    Except Fault (UInt32 × List Char) :=
  if unit ∈ t.toList then do
    let (number, rest) ← undefined (strtok unit rest)
    let number ← undefined (atoi number)
    let seconds ← undefined (toInt (number.toInt * scale))
    return (seconds.toUInt32, rest)
  else .ok (0, rest)

/-- `parse_toml_string_to_sec`. -/
def parseTomlStringToSec (t : String) : Except Fault UInt32 := do
  let (hours, rest) ← durationPart t 'h' 3600 (cString t)
  let (minutes, rest) ← durationPart t 'm' 60 rest
  let (seconds, _) ← durationPart t 's' 1 rest
  return hours + minutes + seconds

/-- `to_string` of an unsigned number. -/
def decimal (n : UInt32) : String := String.ofList (Decimal.writeNat n.toNat)

/-- `parse_json_sec_to_string`. -/
def parseJsonSecToString (sec : UInt32) : String :=
  let hour := sec / 3600
  let min := sec % 3600 / 60
  let second := sec % 3600 % 60
  (if hour > 0 then decimal hour ++ "h" else "") ++
    (if min > 0 ∨ hour > 0 then decimal min ++ "m" else "") ++ decimal second ++ "s"

/-! ### Reading the file -/

/-- A key, and how its value is assigned. -/
structure TomlField where
  key : String
  read : Toml → Except Fault (Members → Members)

namespace TomlField

def text (key : String) (assign : String → Members → Members) : TomlField :=
  ⟨key, fun v => thrown (v.asString.map assign)⟩

def bool (key : String) (assign : Bool → Members → Members) : TomlField :=
  ⟨key, fun v => thrown (v.asBool.map assign)⟩

def uint32 (key : String) (assign : UInt32 → Members → Members) : TomlField :=
  ⟨key, fun v => thrown (v.asUInt32.map assign)⟩

/-- A text that is read as a duration. -/
def duration (key : String) (assign : UInt32 → Members → Members) : TomlField :=
  ⟨key, fun v => do
    let t ← thrown v.asString
    let sec ← parseTomlStringToSec t
    return assign sec⟩

/-- A text that is split in an address and a port. -/
def address (key : String) (split : String → Except Fault (Option (String × UInt32)))
    (assign : String → UInt32 → Members → Members) : TomlField :=
  ⟨key, fun v => do
    let bind ← thrown v.asString
    match ← split bind with
    | some (ip, port) => return assign ip port
    | none => return id⟩

end TomlField

def find (table : Toml) (key : String) : TomlProc Toml := Proc.ofExcept (thrown (table.find key))

/-- The keys of a table, one after the other. -/
def parseFields (table : Toml) : List TomlField → TomlProc Unit
  | [] => pure ()
  | field :: fields => do
    let v ← find table field.key
    assign (← Proc.ofExcept (field.read v))
    parseFields table fields

def parseTomlGeneral (data : Toml) : TomlProc Unit := do
  let general ← find data "general"
  parseFields general [.uint32 "log_level" fun n m => { m with logLevel := n }]

def parseTomlFilters (data : Toml) : TomlProc Unit := do
  let filters ← find data "filters"
  Proc.tryCatch (do
    parseFields filters [
      ⟨"net_ids", fun v => thrown (v.asStrings.map fun ids m => { m with filters.netIds := ids })⟩,
      ⟨"join_euis", fun v =>
        thrown (v.asPairs.map fun euis m => { m with filters.joinEuis := euis })⟩]
    assign fun m => { m with filters.enable := true })
    (· = .thrown) (assign fun m => { m with filters.enable := false })

def parseTomlBackendUdp (backend : Toml) : TomlProc Unit := do
  let semtechUdp ← find backend "semtech_udp"
  parseFields semtechUdp [
    .address "udp_bind" splitBind fun ip port m => { m with udp.ip := ip, udp.port := port },
    .bool "skip_crc_check" fun b m => { m with udp.skipCrcCheck := b },
    .bool "fake_rx_time" fun b m => { m with udp.fakeRxTime := b }]

def parseTomlBackendBs (backend : Toml) : TomlProc Unit := do
  let basicStation ← find backend "basic_station"
  parseFields basicStation [
    .address "bind" splitBind fun ip port m => { m with bs.ip := ip, bs.port := port },
    .text "tls_cert" fun s m => { m with bs.tlsCert := s },
    .text "tls_key" fun s m => { m with bs.tlsKey := s },
    .text "ca_cert" fun s m => { m with bs.caCert := s },
    .duration "ping_interval" fun n m => { m with bs.pingInterval := n },
    .duration "read_timeout" fun n m => { m with bs.readTimeout := n },
    .duration "write_timeout" fun n m => { m with bs.writeTimeout := n },
    .text "region" fun s m => { m with bs.region := s },
    .uint32 "frequency_min" fun n m => { m with bs.frequencyMin := n.toUInt64 },
    .uint32 "frequency_max" fun n m => { m with bs.frequencyMax := n.toUInt64 }]

def parseTomlBackend (data : Toml) : TomlProc Unit := do
  let backend ← find data "backend"
  parseFields backend [.text "type" fun s m => { m with backendType := s }]
  parseTomlBackendUdp backend
  parseTomlBackendBs backend

def parseTomlIntegrationGeneric (auth : Toml) : TomlProc Unit := do
  let generic ← find auth "generic"
  parseFields generic [
    .address "server" splitServer fun ip port m =>
      { m with generic.ip := ip, generic.port := port },
    .text "username" fun s m => { m with generic.username := s },
    .text "password" fun s m => { m with generic.password := s },
    .uint32 "qos" fun n m => { m with generic.qos := n.toUInt16 },
    .bool "clean_session" fun b m => { m with generic.cleanSession := b },
    .text "client_id" fun s m => { m with generic.clientId := s },
    .text "ca_cert" fun s m => { m with generic.caCert := s },
    .text "tls_cert" fun s m => { m with generic.tlsCert := s },
    .text "tls_key" fun s m => { m with generic.tlsKey := s },
    .text "tls_pass_phrase" fun s m => { m with generic.passPhrase := s }]

def parseTomlIntegrationGcp (auth : Toml) : TomlProc Unit := do
  let gcp ← find auth "gcp_cloud_iot_core"
  parseFields gcp [
    .text "server" fun s m => { m with gcp.server := s },
    .text "device_id" fun s m => { m with gcp.deviceId := s },
    .text "project_id" fun s m => { m with gcp.projectId := s },
    .text "cloud_region" fun s m => { m with gcp.cloudRegion := s },
    .text "registry_id" fun s m => { m with gcp.registryId := s },
    .duration "jwt_expiration" fun n m => { m with gcp.jwtExpiration := n },
    .text "jwt_key_file" fun s m => { m with gcp.jwtKeyFile := s }]

def parseTomlIntegrationAzure (auth : Toml) : TomlProc Unit := do
  let azure ← find auth "azure_iot_hub"
  parseFields azure [
    .text "device_connection_string" fun s m => { m with azure.deviceConnectionString := s },
    .duration "sas_token_expiration" fun n m => { m with azure.sasTokenExpiration := n },
    .text "device_id" fun s m => { m with azure.deviceId := s },
    .text "hostname" fun s m => { m with azure.hostname := s },
    .text "tls_cert" fun s m => { m with azure.tlsCert := s },
    .text "tls_key" fun s m => { m with azure.tlsKey := s }]

def parseTomlIntegration (data : Toml) : TomlProc Unit := do
  let integration ← find data "integration"
  parseFields integration [.text "marshaler" fun s m => { m with marshaler := s }]
  let mqtt ← find integration "mqtt"
  parseFields mqtt [
    .text "event_topic_template" fun s m => { m with eventTopicTemplate := s },
    .text "command_topic_template" fun s m => { m with commandTopicTemplate := s },
    .duration "max_reconnect_interval" fun n m => { m with maxReconnectInterval := n }]
  let auth ← find mqtt "auth"
  parseFields auth [.text "type" fun s m => { m with mqttAuthType := s }]
  parseTomlIntegrationGeneric auth
  parseTomlIntegrationAzure auth
  parseTomlIntegrationGcp auth

/-- The readers of `parse_toml_cb_map`, in the order of the map. -/
def parseTomlSections (data : Toml) : TomlProc Unit := do
  parseTomlBackend data
  parseTomlFilters data
  parseTomlGeneral data
  parseTomlIntegration data

/-- `parse_toml_for_each`. The exceptions of all readers end here. -/
def parseTomlForEach (data : Toml) : TomlProc Unit :=
  Proc.tryCatch (parseTomlSections data) (· = .thrown) (pure ())

end LorawanFeeds.Cgi
