import LorawanFeeds.Cgi.BridgeToml

/-!
# The configuration as the bridge reads it

`BridgeToml` of `lora-gateway-bridge.cpp`: the bridge has readers of its own for `lorabridge.toml`,
for the part of the configuration that it needs. Addresses are taken apart by the same code as in
the web interface.
-/
namespace LorawanFeeds.Bridge

open Lib Cgi

structure BridgeConfig where
  backendType : String
  udpIp : String
  udpPort : UInt32
  skipCrcCheck : Bool
  fakeRxTime : Bool
  eventTopicTemplate : String
  commandTopicTemplate : String
  mqttAuthType : String
  genericIp : String
  genericPort : UInt32
  genericUsername : String
  genericPassword : String
  genericQos : UInt8
  genericCleanSession : Bool
  genericClientId : String
  genericCaCert : String
  genericTlsCert : String
  genericTlsKey : String
  genericPassPhrase : String
  deriving DecidableEq, Repr

def tomlTable (table : Toml) (key : String) : Except Cgi.Fault Toml := thrown (table.find key)

/-- `toml::find<std::string>`. -/
def tomlString (table : Toml) (key : String) : Except Cgi.Fault String :=
  thrown ((table.find key).bind Toml.asString)

/-- `toml::find<bool>`. -/
def tomlBool (table : Toml) (key : String) : Except Cgi.Fault Bool :=
  thrown ((table.find key).bind Toml.asBool)

/-- `toml::find<std::uint32_t>`. -/
def tomlUInt32 (table : Toml) (key : String) : Except Cgi.Fault UInt32 :=
  thrown ((table.find key).bind Toml.asUInt32)

/-- The address and the port of a new object, which are empty before. -/
def tomlAddress (split : String → Except Cgi.Fault (Option (String × UInt32))) (table : Toml)
    (key : String) : Except Cgi.Fault (String × UInt32) := do
  let bind ← tomlString table key
  let address ← split bind
  return address.getD ("", 0)

/-- `parse_toml_backend_udp`: the type, the address, and the two flags. -/
def parseTomlBackendUdp (data : Toml) :
    Except Cgi.Fault (String × (String × UInt32) × Bool × Bool) := do
  let backend ← tomlTable data "backend"
  let backendType ← tomlString backend "type"
  let semtechUdp ← tomlTable backend "semtech_udp"
  let udp ← tomlAddress splitBind semtechUdp "udp_bind"
  let skipCrcCheck ← tomlBool semtechUdp "skip_crc_check"
  let fakeRxTime ← tomlBool semtechUdp "fake_rx_time"
  return (backendType, udp, skipCrcCheck, fakeRxTime)

/-- `get_bridge_config_info`, with `parse_toml_integration_generic`. -/
def getBridgeConfigInfo (toml : TomlText) (conf : Option (List (List Char))) :
    Except Cgi.Fault BridgeConfig := do
  let data ← thrown (conf.bind toml.parse)
  let (backendType, udp, skipCrcCheck, fakeRxTime) ← parseTomlBackendUdp data
  let integration ← tomlTable data "integration"
  let mqtt ← tomlTable integration "mqtt"
  let eventTopicTemplate ← tomlString mqtt "event_topic_template"
  let commandTopicTemplate ← tomlString mqtt "command_topic_template"
  let auth ← tomlTable mqtt "auth"
  let mqttAuthType ← tomlString auth "type"
  let generic ← tomlTable auth "generic"
  let server ← tomlAddress splitServer generic "server"
  let username ← tomlString generic "username"
  let password ← tomlString generic "password"
  let qos ← tomlUInt32 generic "qos"
  let cleanSession ← tomlBool generic "clean_session"
  let clientId ← tomlString generic "client_id"
  let caCert ← tomlString generic "ca_cert"
  let tlsCert ← tomlString generic "tls_cert"
  let tlsKey ← tomlString generic "tls_key"
  let passPhrase ← tomlString generic "tls_pass_phrase"
  return {
    backendType := backendType, udpIp := udp.1, udpPort := udp.2
    skipCrcCheck := skipCrcCheck, fakeRxTime := fakeRxTime
    eventTopicTemplate := eventTopicTemplate, commandTopicTemplate := commandTopicTemplate
    mqttAuthType := mqttAuthType, genericIp := server.1, genericPort := server.2
    genericUsername := username, genericPassword := password
    -- The member is a `uint8_t`.
    genericQos := qos.toUInt8
    genericCleanSession := cleanSession, genericClientId := clientId, genericCaCert := caCert
    genericTlsCert := tlsCert, genericTlsKey := tlsKey, genericPassPhrase := passPhrase }

end LorawanFeeds.Bridge
