import Mathlib.Logic.Function.Basic
import LorawanFeeds.Lib.Paths
import LorawanFeeds.Cgi.BridgeTopic
import LorawanFeeds.Cgi.Station

/-!
# The work mode of the gateway

`main_lorawan_workmode_set` of `cgicpp-lorawan-mode.cpp`. For the mode `BAST` it removes all
authentication files of the station, copies those that the requested mode needs from where they
have been uploaded, and then adapts the station's settings; only at its end the mode is recorded.
-/
namespace LorawanFeeds.Cgi

open Lib Bridge

def lorawanModeConfDefault : String := "/etc/lorawan_workmode/lorawan_workmode.conf"

def stationTagPath : String := "/etc/basicstation"

def authLnsTb : List String :=
  ["/etc/basicstation/tc.key", "/etc/basicstation/tc.trust", "/etc/basicstation/tc.uri",
    "/etc/basicstation/tc.crt", "/etc/basicstation/tc-bak.key", "/etc/basicstation/tc-bak.trust",
    "/etc/basicstation/tc-bak.uri", "/etc/basicstation/tc-bak.crt",
    "/etc/basicstation/tc-bak.done"]

def authCupsTb : List String :=
  ["/etc/basicstation/cups.key", "/etc/basicstation/cups.trust", "/etc/basicstation/cups.uri",
    "/etc/basicstation/cups.crt", "/etc/basicstation/cups-bak.key",
    "/etc/basicstation/cups-bak.trust", "/etc/basicstation/cups-bak.uri",
    "/etc/basicstation/cups-bak.crt", "/etc/basicstation/cups-bak.done"]

def tcTrust : String := "/etc/ssl/gw/tc_trust/tc.trust"
def tcClientCrt : String := "/etc/ssl/gw/tc_crt/tc.crt"
def tcClientKey : String := "/etc/ssl/gw/tc_key/tc.key"
def tcUri : String := "/etc/ssl/gw/tc_uri/tc.uri"
def tcClientToken : String := "/etc/ssl/gw/tc_token/tc.key"

def cupsTrust : String := "/etc/ssl/gw/cups_boot_trust/cups.trust"
def cupsClientCrt : String := "/etc/ssl/gw/cups_boot_crt/cups.crt"
def cupsClientKey : String := "/etc/ssl/gw/cups_boot_key/cups.key"
def cupsUri : String := "/etc/ssl/gw/cups_boot_uri/cups.uri"
def cupsClientToken : String := "/etc/ssl/gw/cups_boot_token/cups.key"

/-- `STATION_LNS_MODE`. -/
def stationLnsMode : Int32 := 0

def authNone : Int32 := 0
def authTlsServer : Int32 := 1
def authTlsServerAndClient : Int32 := 2
def authTlsServerAndClientToken : Int32 := 3

/-! ### The gateway's disk -/

/-- What the operating system answers: the devices, whether a folder can be made or is empty and can
be removed, whether a file can be made, and whether all that a path goes through is there. The
program runs in the folder `cwd`. -/
structure System where
  spidev : Option (List String)
  mkdir : String → Bool
  rmdir : String → Bool
  create : String → Bool
  leads : String → Bool
  cwd : Paths.Place

/-- The absolute path of the place that a path leads to. -/
def System.place (sys : System) (path : String) : String :=
  String.ofList ((Paths.resolve sys.cwd path.toList).flatMap ('/' :: ·))

/-- The regular files and the folders by absolute path, the static `err_file_path`, and the calls of
the service script. The station's folder comes with its package. -/
structure Gateway where
  files : String → Option Bytes
  folders : String → Bool
  errFilePath : String := ""
  services : List String := []

abbrev CgiProc := Proc Gateway Exception

def Gateway.setFile (g : Gateway) (path : String) (content : Option Bytes) : Gateway :=
  { g with files := Function.update g.files path content }

@[simp] theorem Gateway.setFile_files_self (g : Gateway) (path : String) (content : Option Bytes) :
    (g.setFile path content).files path = content := by
  simp [Gateway.setFile]

theorem Gateway.setFile_files_of_ne (g : Gateway) {path other : String} (different : other ≠ path)
    (content : Option Bytes) : (g.setFile path content).files other = g.files other := by
  simp [Gateway.setFile, Function.update_of_ne different]

/-- A file or a folder is there. -/
def Gateway.Has (g : Gateway) (path : String) : Prop :=
  (g.files path).isSome = true ∨ g.folders path = true

instance (g : Gateway) (path : String) : Decidable (g.Has path) :=
  inferInstanceAs (Decidable (_ ∨ _))

/-- `access(path, F_OK)` does not fail. -/
def System.Access (sys : System) (g : Gateway) (path : String) : Prop :=
  path ≠ "" ∧ sys.leads path = true ∧ g.Has (sys.place path)

instance (sys : System) (g : Gateway) (path : String) : Decidable (sys.Access g path) :=
  inferInstanceAs (Decidable (_ ∧ _ ∧ _))

/-- `remove(path)`: a file goes, and a folder that is empty. -/
def removeFile (sys : System) (path : String) : CgiProc Unit := Proc.modify fun g =>
  { g.setFile path none with
    folders := Function.update g.folders path (g.folders path && !sys.rmdir path) }

/-- The last part of a path. -/
def basename (path : String) : String :=
  String.ofList ((path.toList.reverse.takeWhile (· ≠ '/')).reverse)

/-- Where `cp` puts a file. -/
def installed (file : String) : String := stationTagPath ++ "/" ++ basename file

/-- The gateway after `cp file /etc/basicstation`. A folder is not copied, and no file is put in the
place of one. -/
def Gateway.install (g : Gateway) (file : String) : Gateway :=
  match g.files file with
  | some content =>
    if g.folders (installed file) then g else g.setFile (installed file) (some content)
  | none => g

def cp (file : String) : CgiProc Unit := Proc.modify fun g => g.install file

/-! ### Authentication -/

def removeAll (sys : System) : List String → CgiProc Unit
  | [] => pure ()
  | path :: rest => do
    -- `remove` of a file that is not there does nothing.
    removeFile sys path
    removeAll sys rest

/-- `station_auth_mode_pre_handle`. -/
def stationAuthModePreHandle (sys : System) : CgiProc Unit := do
  removeAll sys authCupsTb
  removeAll sys authLnsTb

/-- `station_auth_mode_none_handle`. -/
def stationAuthModeNoneHandle (stationMode : Int32) : CgiProc Int := do
  let uriFile := if stationMode = stationLnsMode then tcUri else cupsUri
  if (← Proc.get).Has uriFile then
    cp uriFile
    return 0
  else
    Proc.modify fun g => { g with errFilePath := uriFile }
    return -1

/-- The loop of the other modes: the number of files that are missing. -/
def copyUploaded : List String → CgiProc Nat
  | [] => pure 0
  | file :: rest => do
    if (← Proc.get).Has file then
      cp file
      copyUploaded rest
    else
      Proc.modify fun g => { g with errFilePath := g.errFilePath ++ " " ++ file }
      let missing ← copyUploaded rest
      return missing + 1

def stationAuthModeTlsHandle (lnsFileTb cupFileTb : List String) (stationMode : Int32) :
    CgiProc Int := do
  let missing ← copyUploaded (if stationMode = stationLnsMode then lnsFileTb else cupFileTb)
  return if missing > 0 then -1 else 0

/-- `station_auth_mode_1_handle`. -/
def stationAuthMode1Handle : Int32 → CgiProc Int :=
  stationAuthModeTlsHandle [tcTrust, tcUri] [cupsTrust, cupsUri]

/-- `station_auth_mode_2_handle`. -/
def stationAuthMode2Handle : Int32 → CgiProc Int :=
  stationAuthModeTlsHandle [tcTrust, tcClientCrt, tcClientKey, tcUri]
    [cupsTrust, cupsClientCrt, cupsClientKey, cupsUri]

/-- `station_auth_mode_3_handle`. -/
def stationAuthMode3Handle : Int32 → CgiProc Int :=
  stationAuthModeTlsHandle [tcTrust, tcClientToken, tcUri] [cupsTrust, cupsClientToken, cupsUri]

/-- `station_auth_mode_handle`. Any other mode copies nothing. -/
def stationAuthModeHandle (sys : System) (stationMode authMode : Int32) : CgiProc Int := do
  stationAuthModePreHandle sys
  if authMode = authNone then stationAuthModeNoneHandle stationMode
  else if authMode = authTlsServer then stationAuthMode1Handle stationMode
  else if authMode = authTlsServerAndClient then stationAuthMode2Handle stationMode
  else if authMode = authTlsServerAndClientToken then stationAuthMode3Handle stationMode
  else return 0

/-! ### The station's settings -/

/-- An exception of the JSON library. -/
def throwing {α : Type} (x : Except JsonError α) : CgiProc α := Proc.ofExcept (x.mapError .json)

/-- A text that has to be JSON. -/
def parsed (j : Option Json) : CgiProc Json :=
  match j with
  | some j => pure j
  | none => Proc.raise .parseError

/-- The constructor of `LoRaStation`. -/
def loRaStation (lib : JsonText) : CgiProc Json := do
  parsed (((← Proc.get).files stationConfDefault).bind lib.read)

/-- `js_setting`. -/
def jsSetting (spiPath : String) : Json :=
  ((((Json.null.put ["body", "radio_common", "device"] (.str spiPath)).put
    ["body", "radio_common", "clksrc"] (.int 0)).put
    ["body", "radio_common", "full_duplex"] (.bool false)).put
    ["body", "radio_common", "lorawan_public"] (.bool true)).put
    ["body", "radio_common", "pps"] (.bool false)

/-- `station_adapt_to_spidev_path`. -/
def stationAdaptToSpidevPath (lib : JsonText) (sys : System) : CgiProc Int := do
  match sys.spidev.bind fun names => names.find? fun name => containsText name "spi" with
  | none => return -1
  | some name =>
    let setting := jsSetting ("spi:" ++ "/dev/" ++ name)
    let localJson ← loRaStation lib
    let remoteJson ← parsed (lib.parse (lib.dump setting))
    let localJson ← throwing (parseRemoteRadioCommonConfig remoteJson localJson)
    Proc.modify fun g => g.setFile stationConfDefault (some (lib.dump localJson ++ [10]))
    return 0

/-- The path up to the last slash, if there is one. -/
def dirname (path : String) : Option String :=
  if '/' ∈ path.toList then
    some (String.ofList ((path.toList.reverse.dropWhile (· ≠ '/')).drop 1).reverse)
  else none

/-- The log path as `station_create_log_file` reads it from the settings. -/
def stationLogPath (lib : JsonText) : CgiProc String := do
  let localJson ← loRaStation lib
  let uploadJson ← throwing (parseStationConfig localJson .null)
  let stationConf ← parsed (lib.parse (lib.dump uploadJson))
  if stationConf.contains "station_conf" then
    throwing (stationConf.indexPath ["station_conf", "log_file"] >>= Json.asString)
  else return ""

/-- `mkdir(folder, 0600)`, where nothing has its name. -/
def System.CanMakeDir (sys : System) (g : Gateway) (folder : String) : Prop :=
  sys.mkdir folder = true ∧ ¬ g.Has (sys.place folder)

instance (sys : System) (g : Gateway) (folder : String) : Decidable (sys.CanMakeDir g folder) :=
  inferInstanceAs (Decidable (_ ∧ _))

/-- `open(log_path, O_CREAT | O_RDWR, 0660)`. A file that is there keeps its content, and a folder
is not opened. -/
def openLogFile (sys : System) (logPath : String) : CgiProc Int := do
  if sys.create logPath = true ∧ ¬ (← Proc.get).folders (sys.place logPath) then
    Proc.modify fun g =>
      g.setFile (sys.place logPath) (some ((g.files (sys.place logPath)).getD []))
    return 0
  else return -1

/-- `station_create_log_file`. -/
def stationCreateLogFile (lib : JsonText) (sys : System) : CgiProc Int := do
  let logPath ← stationLogPath lib
  let g ← Proc.get
  if logPath = "" then return -1
  else if sys.Access g logPath then return 0
  else
    match dirname logPath with
    | none => return -1
    | some folder =>
      if sys.Access g folder then openLogFile sys logPath
      else if sys.CanMakeDir g folder then
        Proc.modify fun g =>
          { g with folders := Function.update g.folders (sys.place folder) true }
        openLogFile sys logPath
      else return -1

/-! ### The request -/

def reloadLorawanService : CgiProc Unit := Proc.modify fun g =>
  { g with services := g.services ++ ["/etc/lorawan_scripts/lorawan_mode start &"] }

def shutDownLorawanService : CgiProc Unit := Proc.modify fun g =>
  { g with services := g.services ++ ["/etc/lorawan_scripts/lorawan_mode stop &"] }

/-- The mode is written to its file, and the service starts again. -/
def recordMode (lib : JsonText) (localJson : Json) : CgiProc (Int × String) := do
  Proc.modify fun g => g.setFile lorawanModeConfDefault (some (lib.dump localJson ++ [10]))
  reloadLorawanService
  return (0, "")

/-- The recorded document of the mode `BAST`. -/
def bastJson (stationMode authMode : Int32) : Json :=
  ((Json.null.put ["work_mode"] (.str "BAST")).put ["station_mode"]
    (.str (if stationMode = stationLnsMode then "LNS" else "CUPS"))).put ["auth_mode"]
    (.int authMode.toInt64)

/-- The mode `BAST` once both modes have been read. -/
def setBast (lib : JsonText) (sys : System) (stationMode authMode : Int32) :
    CgiProc (Int × String) := do
  let rc ← stationAuthModeHandle sys stationMode authMode
  if rc = -1 then
    return (-1, "ERROR: Missing required certification documents with station auth mode:" ++
      toString authMode.toInt ++ " err_file_name: " ++ (← Proc.get).errFilePath)
  else
    let rc ← stationAdaptToSpidevPath lib sys
    if rc < 0 then return (-1, "Failed to set spidev path correctly.")
    else
      let rc ← stationCreateLogFile lib sys
      if rc < 0 then return (-1, "Failed to create log file, check your station.conf.")
      else recordMode lib (bastJson stationMode authMode)

/-- The body of `main_lorawan_workmode_set`. -/
def workmodeSet (lib : JsonText) (sys : System) (inputJson : Bytes) : CgiProc (Int × String) := do
  let remoteJson ← parsed (lib.parse inputJson)
  let workmode ← throwing (remoteJson.indexPath ["body", "work_mode"] >>= Json.asString)
  if workmode ∉ ["PKFD", "BAST", "BRDG", "CLOSE", "RESTART"] then
    return (-1, "this work mode option is not exist: " ++ workmode)
  else if workmode = "BAST" then
    let stationMode ← throwing (remoteJson.indexPath ["body", "station_mode"] >>= Json.asInt)
    let authMode ← throwing (remoteJson.indexPath ["body", "auth_mode"] >>= Json.asInt)
    setBast lib sys stationMode authMode
  else if workmode = "CLOSE" then
    shutDownLorawanService
    return (0, "")
  else if workmode = "RESTART" then
    reloadLorawanService
    return (0, "")
  else recordMode lib (Json.null.put ["work_mode"] (.str workmode))

/-- `main_lorawan_workmode_set`. -/
def mainLorawanWorkmodeSet (lib : JsonText) (sys : System) (inputJson : Bytes) :
    CgiProc (Int × String) :=
  Proc.tryCatch (workmodeSet lib sys inputJson) (fun _ => true)
    (return (-1, "Failed to set lorawan work mode."))

end LorawanFeeds.Cgi
