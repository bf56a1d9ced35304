import LorawanFeeds.Lib.CText
import LorawanFeeds.Lib.JsonCodec
import LorawanFeeds.Cgi.TomlRequest
import LorawanFeeds.Cgi.WorkMode

/-!
# The requests for small documents

The handlers of `cgicpp-lorawan-region.cpp`, `cgicpp-notification-push.cpp`,
`cgicpp-lorawan-online.cpp`, `cgicpp-lorawan-filter.cpp`, and the one of `cgicpp-lorawan-mode.cpp`
that reads. Each works on one file with a JSON document; what an exception does depends on whether
the `try` block begins before the file is read.
-/
namespace LorawanFeeds.Cgi

open Lib Bridge CText

/-- A handler of the CGI program works on the gateway's files. -/
abbrev CgiHandler := Proc Gateway Fault

/-- The code and the text `rsp` of a handler. -/
abbrev Result := Int × Bytes

def failed (rsp : String) : Result := (-1, textBytes rsp)

/-- The exceptions of the JSON library as exceptions. -/
def thrownBy {α : Type} (x : CgiProc α) : CgiHandler α := Proc.mapFault (fun _ => .thrown) x

def converted {α : Type} (x : Except JsonError α) : CgiHandler α := thrownBy (throwing x)

/-- `json::parse(input_json)`. -/
def parseJson (lib : JsonText) (inputJson : Bytes) : CgiHandler Json :=
  thrownBy (parsed (lib.parse inputJson))

/-- The document of a file. -/
def documentAt (lib : JsonText) (g : Gateway) (path : String) : Option Json :=
  (g.files path).bind lib.read

/-- `json_ifstream.open(path)` and `json_ifstream >> local_json`. -/
def readJson (lib : JsonText) (path : String) : CgiHandler Json := do
  thrownBy (parsed (documentAt lib (← Proc.get) path))

/-- `json_ofstream << local_json.dump(4) << endl`. -/
def writeJson (lib : JsonText) (path : String) (localJson : Json) : CgiHandler Unit :=
  Proc.modify fun g => g.setFile path (some (lib.dump localJson ++ [10]))

section

variable {α : Type} {g : Gateway} {stop : Fault → Gateway → Prop}

theorem ends_converted {x : Except JsonError α} {ok : α → Gateway → Prop}
    (returns : ∀ a, x = .ok a → ok a g) (throws : ∀ e, x = .error e → stop .thrown g) :
    Proc.Ends (converted x) g ok stop := by
  cases x with
  | ok a => exact Proc.ends_mapFault (Proc.ends_pure (returns a rfl))
  | error e => exact Proc.ends_mapFault (Proc.ends_raise (throws e rfl))

theorem ends_parsed {j : Option Json} {ok : Json → Gateway → Prop}
    (returns : ∀ a, j = some a → ok a g) (throws : j = none → stop .thrown g) :
    Proc.Ends (thrownBy (parsed j)) g ok stop := by
  cases j with
  | none => exact Proc.ends_mapFault (Proc.ends_raise (throws rfl))
  | some a => exact Proc.ends_mapFault (Proc.ends_pure (returns a rfl))

theorem ends_readJson {lib : JsonText} {path : String} {ok : Json → Gateway → Prop}
    (returns : ∀ localJson, documentAt lib g path = some localJson → ok localJson g)
    (throws : documentAt lib g path = none → stop .thrown g) :
    Proc.Ends (readJson lib path) g ok stop :=
  Proc.ends_bind (Proc.ends_get (ends_parsed returns throws))

theorem ends_parseJson {lib : JsonText} {inputJson : Bytes} {ok : Json → Gateway → Prop}
    (returns : ∀ remoteJson, lib.parse inputJson = some remoteJson → ok remoteJson g)
    (throws : lib.parse inputJson = none → stop .thrown g) :
    Proc.Ends (parseJson lib inputJson) g ok stop :=
  ends_parsed returns throws

end

/-- A `try` block around the body of a handler. -/
def catching (body : CgiHandler Result) (rsp : String) : CgiHandler Result :=
  Proc.tryCatch body (· = .thrown) (return failed rsp)

/-- `system(cmd)` in the background. -/
def system (cmd : String) : CgiHandler Unit := Proc.modify fun g =>
  { g with services := g.services ++ [cmd] }

/-! ### The region -/

def lorawanRegionConfDefault : String := "/etc/lorawan_region/lorawan_region.conf"
def globalConfSx1250Common : String := "/etc/lora_pkt_fwd/global_conf.json.sx1250"
def globalConfSx1250 : String := "/etc/lora_pkt_fwd/global_conf.json"

/-- The keys of `region_m`. -/
def regionNames : List String := ["CN490", "US915", "EU868"]

/-- The configuration that comes with the gateway for a region. -/
def globalConfOf (region : String) : String := globalConfSx1250Common ++ "." ++ region

def copyCommand (region : String) : String :=
  "cp " ++ globalConfOf region ++ " " ++ globalConfSx1250 ++ " &"

/-- `choose_global_conf_region`. The shell copies in the background. -/
def chooseGlobalConfRegion (region : String) : CgiHandler Unit := system (copyCommand region)

/-- The gateway once the copy has been made, which changes nothing without its source. -/
def Gateway.copyGlobalConf (g : Gateway) (region : String) : Gateway :=
  match g.files (globalConfOf region) with
  | some content => g.setFile globalConfSx1250 (some content)
  | none => g

/-- `main_lorawan_region_get`. -/
def mainLorawanRegionGet (lib : JsonText) : CgiHandler Result :=
  catching (do
    let localJson ← readJson lib lorawanRegionConfDefault
    let region ← converted (localJson.indexPath ["lorawan_region"] >>= Json.asString)
    return (0, lib.dump (Json.null.put ["region"] (.str region))))
    "Failed to get current region info."

/-- The body of `main_lorawan_region_set`. -/
def regionSet (lib : JsonText) (inputJson : Bytes) : CgiHandler Result := do
  let localJson ← readJson lib lorawanRegionConfDefault
  let remoteJson ← parseJson lib inputJson
  let region ← converted (remoteJson.indexPath ["body", "region"] >>= Json.asString)
  if region ∉ regionNames then return failed ("this region option is not exist: " ++ region)
  else
    let localJson ← converted (localJson.assign ["lorawan_region"] (.str region))
    writeJson lib lorawanRegionConfDefault localJson
    chooseGlobalConfRegion region
    return (0, [])

/-- `main_lorawan_region_set`. -/
def mainLorawanRegionSet (lib : JsonText) (inputJson : Bytes) : CgiHandler Result :=
  catching (regionSet lib inputJson) "Failed to set lorawan region."

/-! ### The notification -/

def gwNotifConfDefault : String := "/etc/notification/notification.conf"

/-- `main_notification_push_get`. -/
def mainNotificationPushGet (lib : JsonText) : CgiHandler Result :=
  catching (do
    let localJson ← readJson lib gwNotifConfDefault
    let pushEnable ← converted (localJson.indexPath ["push_enable"] >>= Json.asBool)
    return (0, lib.dump (Json.null.put ["push_enable"] (.bool pushEnable))))
    "Failed to get push enable state."

/-- `main_notification_push_set`. -/
def mainNotificationPushSet (lib : JsonText) (inputJson : Bytes) : CgiHandler Result :=
  catching (do
    let localJson ← readJson lib gwNotifConfDefault
    let remoteJson ← parseJson lib inputJson
    let pushEnable ← converted (remoteJson.indexPath ["body", "push_enable"] >>= Json.asBool)
    let localJson ← converted (localJson.assign ["push_enable"] (.bool pushEnable))
    writeJson lib gwNotifConfDefault localJson
    return (0, []))
    "Failed to set push enable state."

/-! ### The state of the processes -/

/-- `workmode_m`: the process of a work mode. -/
def workmodeProcess (workmode : String) : Option String :=
  if workmode = "PKFD" then some "lora_pkt_fwd"
  else if workmode = "BAST" then some "station"
  else if workmode = "BRDG" then some "lora-gateway-bridge"
  else none

/-- The value of `online`; `running` is `detect_process_state`. -/
def onlineState (running : String → Bool) (workmode : String) : Json :=
  match workmodeProcess workmode with
  | none => .int 0
  | some process => if running process then .int 1 else .int 0

/-- `main_lorawan_online_get`. -/
def mainLorawanOnlineGet (lib : JsonText) (running : String → Bool) : CgiHandler Result :=
  catching (do
    let localJson ← readJson lib lorawanModeConfDefault
    let workmode ← converted (localJson.indexPath ["work_mode"] >>= Json.asString)
    return (0, lib.dump ((Json.null.put ["online"] (onlineState running workmode)).put
      ["work_mode"] (.str workmode))))
    "Failed to get current online info."

/-! ### The work mode, read -/

/-- The files of a station mode: path, type and name. -/
structure FileInfo where
  path : String
  type : String
  name : String

def lnsFileTb : List FileInfo :=
  [⟨tcTrust, "cafile", "tc.trust"⟩, ⟨tcClientCrt, "crtfile", "tc.crt"⟩,
    ⟨tcClientKey, "keyfile", "tc.key"⟩]

def cupsFileTb : List FileInfo :=
  [⟨cupsTrust, "cafile", "cups.trust"⟩, ⟨cupsClientCrt, "crtfile", "cups.crt"⟩,
    ⟨cupsClientKey, "keyfile", "cups.key"⟩]

/-- `isspace` of a byte. -/
def isspaceByte (b : UInt8) : Bool := isspace (Char.ofNat b.toNat)

/-- `ifs >> uri`: the first word. -/
def firstWord (content : Bytes) : Bytes :=
  (content.dropWhile isspaceByte).takeWhile fun b => ¬ isspaceByte b

/-- What follows `Authorization: ` in a file of a token. -/
def tokenOf (content : Bytes) : Bytes :=
  (strstr (textBytes "Authorization: ") content).getD []

/-- A text that is assigned to a member of the answer. It need not be Unicode. -/
abbrev TextEntry := List String × Bytes

def fileEntry (g : Gateway) (mode : String) (p : FileInfo) : TextEntry :=
  (["station", mode, p.type], if (g.files p.path).isSome then textBytes p.name else [])

def uriEntry (g : Gateway) (mode path : String) : TextEntry :=
  (["station", mode, "urifile"], (g.files path).elim [] firstWord)

def tokenEntry (g : Gateway) (mode path : String) : TextEntry :=
  (["station", mode, "token"], (g.files path).elim [] tokenOf)

/-- The name of a certificate that the station has although none has been uploaded. -/
def defaultEntry (g : Gateway) (mode bsTrust trust name : String) : List TextEntry :=
  if (g.files bsTrust).isSome ∧ ¬ (g.files trust).isSome then
    [(["station", mode, "cafile"], textBytes name)]
  else []

/-- `fill_json_for_auth_file`: the assignments, one after the other. -/
def fillJsonForAuthFile (g : Gateway) : List TextEntry :=
  lnsFileTb.map (fileEntry g "LNS") ++
    defaultEntry g "LNS" "/etc/basicstation/tc.trust" tcTrust "tc.trust" ++
    defaultEntry g "CUPS" "/etc/basicstation/cups.trust" cupsTrust "cups.trust" ++
    [uriEntry g "LNS" tcUri, tokenEntry g "LNS" tcClientToken] ++
    cupsFileTb.map (fileEntry g "CUPS") ++
    [uriEntry g "CUPS" cupsUri, tokenEntry g "CUPS" cupsClientToken]

/-- The text as a string of a document. -/
def TextEntry.value (entry : TextEntry) : Option (List String × Json) :=
  (JsonCodec.ofUtf8 entry.2).map fun text => (entry.1, .str text)

/-- `upload_json.dump(4)` of a document with these texts; it throws where one is not UTF-8. -/
def dumpTexts (lib : JsonText) (uploadJson : Json) (entries : List TextEntry) : Option Bytes :=
  (entries.mapM TextEntry.value).map fun fields => lib.dump (uploadJson.putAll fields)

/-- `get_hardware_region_info`. -/
def getHardwareRegionInfo (lib : JsonText) : CgiHandler String := do
  let localJson ← readJson lib lorawanRegionConfDefault
  let currentRegion ← converted (localJson.indexPath ["lorawan_region"] >>= Json.asString)
  return if currentRegion ∈ regionNames then currentRegion else ""

/-- What the document of the mode `BAST` has besides. -/
def bastFields (localJson : Json) (workmode : String) :
    Except JsonError (List (List String × Json)) :=
  if workmode = "BAST" then do
    let stationMode ← localJson.indexPath ["station_mode"] >>= Json.asString
    let authMode ← localJson.indexPath ["auth_mode"] >>= Json.asInt
    return [(["station_mode"], .str stationMode), (["auth_mode"], .int authMode.toInt64)]
  else return []

/-- `main_lorawan_workmode_get`. -/
def mainLorawanWorkmodeGet (lib : JsonText) (mac : Option (Fin 6 → UInt8))
    (running : String → Bool) : CgiHandler Result :=
  catching (do
    let localJson ← readJson lib lorawanModeConfDefault
    let gatewayId := mac.elim "" fun mac => ascii (generateGatewayIdByMac mac)
    let freq ← getHardwareRegionInfo lib
    let workmode ← converted (localJson.indexPath ["work_mode"] >>= Json.asString)
    let fields ← converted (bastFields localJson workmode)
    let uploadJson := Json.null.putAll ([(["gateway_id"], .str gatewayId), (["freq"], .str freq)] ++
      fields ++ [(["work_mode"], .str workmode), (["online"], onlineState running workmode)])
    let rsp ← Proc.ofExcept (thrown (dumpTexts lib uploadJson (fillJsonForAuthFile (← Proc.get))))
    return (0, rsp))
    "Failed to get current work mode info."

/-! ### The filter -/

def lorawanFilterConfDefault : String := "/etc/lorawan_filter/lorawan_filter.conf"

/-- `main_parser_get` of a class: `forEach` and `forOne` leave what `get_upload_json` returns. -/
def parserGet (name : String) (forEach : CgiHandler Bytes) (forOne : String → CgiHandler Bytes)
    (option : String) : CgiHandler Result :=
  catching (do
    let rsp ← if containsText option "all" then forEach else forOne option
    return (0, rsp))
    ("Failed to get" ++ name ++ "config information, please check your local json file.")

/-- `main_parser_set` of a class. -/
def parserSet (name : String) (forEach : CgiHandler Unit) (forOne : String → CgiHandler Unit)
    (option : String) : CgiHandler Result :=
  catching (do
    if containsText option "all" then forEach else forOne option
    return (0, []))
    ("Failed to update " ++ name ++ " config, please check your json format or option value.")

/-- `parse_local_filter_enable`: where the member is missing, the filter is off. -/
def localFilterEnable (localJson : Json) : Bool :=
  match localJson.index "filter_enable" >>= Json.asBool with
  | .ok enable => enable
  | .error _ => false

/-- `parse_local_deveui_white_list`. -/
def localWhiteList (localJson : Json) : Option (List String) :=
  match localJson.get? "white_list" with
  | some list => asStrings list
  | none => some []

/-- `LoRaWANFilter::parse_local_for_each`. -/
def filterParseLocalForEach (lib : JsonText) (localJson : Json) : CgiHandler Bytes := do
  let devEuiVec ← Proc.ofExcept (thrown (localWhiteList localJson))
  return lib.dump ((Json.null.put ["filter_enable"] (.bool (localFilterEnable localJson))).put
    ["white_list"] (.arr (devEuiVec.map .str)))

/-- `parse_remote_deveui_white_list`; a filter that is off keeps its list. -/
def parseRemoteDeveuiWhiteList (remoteJson : Json) (filterEnable : Bool) (localJson : Json) :
    CgiHandler Json :=
  if filterEnable = true then do
    let list ← converted (remoteJson.indexPath ["body", "white_list"])
    let devEuiVec ← Proc.ofExcept (thrown (asStrings list))
    converted (localJson.assign ["white_list"] (.arr (devEuiVec.map .str)))
  else return localJson

/-- `LoRaWANFilter::set_local_for_each`. -/
def filterSetLocalForEach (lib : JsonText) (inputJson : Bytes) (localJson : Json) :
    CgiHandler Unit := do
  let remoteJson ← parseJson lib inputJson
  let filterEnable ← converted (remoteJson.indexPath ["body", "filter_enable"] >>= Json.asBool)
  let localJson ← converted (localJson.assign ["filter_enable"] (.bool filterEnable))
  let localJson ← parseRemoteDeveuiWhiteList remoteJson filterEnable localJson
  writeJson lib lorawanFilterConfDefault localJson

/-- `main_lorawan_filter_get`. The constructor reads the file outside of any `try` block, and the
class has no function for a single option. -/
def mainLorawanFilterGet (lib : JsonText) (option : String) : CgiHandler Result := do
  let localJson ← readJson lib lorawanFilterConfDefault
  parserGet "lorawan filter" (filterParseLocalForEach lib localJson) (fun _ => return []) option

/-- `main_lorawan_filter_set`. -/
def mainLorawanFilterSet (lib : JsonText) (option : String) (inputJson : Bytes) :
    CgiHandler Result := do
  let localJson ← readJson lib lorawanFilterConfDefault
  parserSet "lorawan filter" (filterSetLocalForEach lib inputJson localJson) (fun _ => pure ())
    option

end LorawanFeeds.Cgi
