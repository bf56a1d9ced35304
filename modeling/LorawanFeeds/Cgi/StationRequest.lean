import LorawanFeeds.Cgi.Documents

/-!
# Requests for the station's settings

`LoRaStation` of `cgicpp-station.cpp` as a whole, with `main_station_get` and `main_station_set`. An
option names a section, or all of them; four more options of a set write a file of the
authentication. The settings are written anew after every set that does not throw.
-/
namespace LorawanFeeds.Cgi

open Lib Bridge

/-! ### The sections -/

/-- `rssi_offset`, the one member that is a `double`. -/
def transferRssiOffset (source : Json) (origin place : List String) (target : Json) :
    Except JsonError Json := do
  let value ← source.indexPath (origin ++ ["rssi_offset"])
  let rssiOffset ← value.asDouble
  target.assign (place ++ ["rssi_offset"]) (.float rssiOffset)

/-- The members of a radio. -/
def transferRadio (source : Json) (origin place : List String) (target : Json) :
    Except JsonError Json := do
  let target ← transfer source origin place target
    [("type", .text), ("freq", .uint32), ("antenna_gain", .uint8)]
  let target ← transferRssiOffset source origin place target
  transfer source origin place target [("tx_enable", .bool)]

/-- `parse_radio_common_config`. -/
def parseRadioCommonConfig (localJson uploadJson : Json) : Except JsonError Json :=
  transfer localJson ["radio_conf"] ["radio_common"] uploadJson radioCommonFields

/-- `parse_radio_0_config`. -/
def parseRadio0Config (localJson uploadJson : Json) : Except JsonError Json :=
  transferRadio localJson ["radio_conf", "radio_0"] ["radio_0"] uploadJson

/-- `parse_radio_1_config`. -/
def parseRadio1Config (localJson uploadJson : Json) : Except JsonError Json :=
  transferRadio localJson ["radio_conf", "radio_1"] ["radio_1"] uploadJson

/-- `parse_remote_radio_0_config`. -/
def parseRemoteRadio0Config (remoteJson localJson : Json) : Except JsonError Json :=
  transferRadio remoteJson ["body", "radio_0"] ["radio_conf", "radio_0"] localJson

/-- `parse_remote_radio_1_config`. -/
def parseRemoteRadio1Config (remoteJson localJson : Json) : Except JsonError Json :=
  transferRadio remoteJson ["body", "radio_1"] ["radio_conf", "radio_1"] localJson

/-- `parse_remote_station_config`. -/
def parseRemoteStationConfig (remoteJson localJson : Json) : Except JsonError Json :=
  transfer remoteJson ["body", "station_conf"] ["station_conf"] localJson stationFields

/-! ### Reading -/

/-- `parse_local_for_each`. -/
def stationParseLocalForEach (lib : JsonText) (localJson : Json) : CgiHandler Bytes := do
  let uploadJson ← converted (parseRadioCommonConfig localJson .null)
  let uploadJson ← converted (parseRadio0Config localJson uploadJson)
  let uploadJson ← converted (parseRadio1Config localJson uploadJson)
  let uploadJson ← converted (parseStationConfig localJson uploadJson)
  return lib.dump uploadJson

/-- `parse_local_cb_map`; an option that is not in the map reads nothing. -/
def parseLocalCb (option : String) (localJson : Json) : Except JsonError Json :=
  if option = "cgicpp-bs-radio-common-get" then parseRadioCommonConfig localJson .null
  else if option = "cgicpp-bs-radio0-get" then parseRadio0Config localJson .null
  else if option = "cgicpp-bs-radio1-get" then parseRadio1Config localJson .null
  else if option = "cgicpp-bs-station-get" then parseStationConfig localJson .null
  else .ok .null

/-- `parse_local_for_one`. -/
def stationParseLocalForOne (lib : JsonText) (localJson : Json) (option : String) :
    CgiHandler Bytes := do
  let uploadJson ← converted (parseLocalCb option localJson)
  return lib.dump uploadJson

/-- `main_station_get`. The constructor reads the file outside of any `try` block. -/
def mainStationGet (lib : JsonText) (option : String) : CgiHandler Result := do
  let localJson ← thrownBy (loRaStation lib)
  parserGet "LoRaStation" (stationParseLocalForEach lib localJson)
    (stationParseLocalForOne lib localJson) option

/-! ### The files of the authentication -/

/-- The folder is made if nothing has its name. -/
def makeDir (sys : System) (dir : String) : CgiHandler Unit := Proc.modify fun g =>
  if ¬ g.folders dir ∧ ¬ (g.files dir).isSome ∧ sys.mkdir dir then
    { g with folders := Function.update g.folders dir true }
  else g

/-- A file is written if it has a folder. -/
def writeText (dir path : String) (text : String) : CgiHandler Unit := Proc.modify fun g =>
  if g.folders dir then g.setFile path (some (textBytes text)) else g

/-- A member of `body` that may be missing, written to a file of its own. -/
def parseRemoteText (sys : System) (dir path key : String) (edit : String → String)
    (remoteJson : Json) : CgiHandler Unit := do
  makeDir sys dir
  let body ← converted (remoteJson.index "body")
  if body.contains key then
    let text ← converted (body.index key >>= Json.asString)
    writeText dir path (edit text)

/-- A token without its header gets one. -/
def authorization (key : String) : String :=
  if containsText key "Authorization: " then key else "Authorization: " ++ key

/-- `parse_remote_tc_uri_config`. -/
def parseRemoteTcUriConfig (sys : System) : Json → CgiHandler Unit :=
  parseRemoteText sys "/etc/ssl/gw/tc_uri" tcUri "tc_uri" id

/-- `parse_remote_tc_key_config`. -/
def parseRemoteTcKeyConfig (sys : System) : Json → CgiHandler Unit :=
  parseRemoteText sys "/etc/ssl/gw/tc_token" tcClientToken "tc_key" authorization

/-- `parse_remote_cups_uri_config`. -/
def parseRemoteCupsUriConfig (sys : System) : Json → CgiHandler Unit :=
  parseRemoteText sys "/etc/ssl/gw/cups_boot_uri" cupsUri "cups_uri" id

/-- `parse_remote_cups_key_config`. -/
def parseRemoteCupsKeyConfig (sys : System) : Json → CgiHandler Unit :=
  parseRemoteText sys "/etc/ssl/gw/cups_boot_token" cupsClientToken "cups_key" authorization

/-! ### Writing -/

/-- `set_local_for_each` of the class. -/
def stationSetLocalForEach (lib : JsonText) (inputJson : Bytes) (localJson : Json) :
    CgiHandler Unit := do
  let remoteJson ← parseJson lib inputJson
  let localJson ← converted (parseRemoteRadioCommonConfig remoteJson localJson)
  let localJson ← converted (parseRemoteRadio0Config remoteJson localJson)
  let localJson ← converted (parseRemoteRadio1Config remoteJson localJson)
  let localJson ← converted (parseRemoteStationConfig remoteJson localJson)
  writeJson lib stationConfDefault localJson

/-- `parse_remote_cb_map`: the settings after the callback of the option. -/
def parseRemoteCb (sys : System) (option : String) (remoteJson localJson : Json) :
    CgiHandler Json :=
  if option = "cgicpp-bs-radio-common-set" then
    converted (parseRemoteRadioCommonConfig remoteJson localJson)
  else if option = "cgicpp-bs-radio0-set" then
    converted (parseRemoteRadio0Config remoteJson localJson)
  else if option = "cgicpp-bs-radio1-set" then
    converted (parseRemoteRadio1Config remoteJson localJson)
  else if option = "cgicpp-bs-station-set" then
    converted (parseRemoteStationConfig remoteJson localJson)
  else do
    if option = "cgicpp-bs-tc-uri-set" then parseRemoteTcUriConfig sys remoteJson
    else if option = "cgicpp-bs-tc-key-set" then parseRemoteTcKeyConfig sys remoteJson
    else if option = "cgicpp-bs-cups-uri-set" then parseRemoteCupsUriConfig sys remoteJson
    else if option = "cgicpp-bs-cups-key-set" then parseRemoteCupsKeyConfig sys remoteJson
    return localJson

/-- `set_local_for_one` of the class. -/
def stationSetLocalForOne (lib : JsonText) (sys : System) (inputJson : Bytes) (localJson : Json)
    (option : String) : CgiHandler Unit := do
  let remoteJson ← parseJson lib inputJson
  let localJson ← parseRemoteCb sys option remoteJson localJson
  writeJson lib stationConfDefault localJson

/-- `main_station_set`. Nothing sets `b_has_except`, so that a set without an exception has
succeeded. -/
def mainStationSet (lib : JsonText) (sys : System) (option : String) (inputJson : Bytes) :
    CgiHandler Result := do
  let localJson ← thrownBy (loRaStation lib)
  parserSet "LoRaStation" (stationSetLocalForEach lib inputJson localJson)
    (stationSetLocalForOne lib sys inputJson localJson) option

end LorawanFeeds.Cgi
