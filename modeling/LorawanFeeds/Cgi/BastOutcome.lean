import LorawanFeeds.Lib.JsonCodec
import LorawanFeeds.Cgi.Authentication

/-!
# The outcome of a change to the mode `BAST`

When a change that fails has kept the authentication files, and when a change that succeeds has
installed a set that can be used.
-/
namespace LorawanFeeds.Cgi

open Lib Bridge Proc

/-! ### A change that fails -/

/-- The tables hold the uploaded files that the mode needs, and nothing else. No file is put in the
place of a folder that stays. -/
def AlreadyInstalled (sys : System) (required : List String) (g : Gateway) : Prop :=
  ∀ path ∈ authTables, ∀ content, g.files path = some content ↔
    blocked sys g path = false ∧
      ∃ file ∈ required, installed file = path ∧ g.files file = some content

theorem Separate.provided_eq_some_iff {required : List String} (separate : Separate required)
    {sys : System} {g : Gateway} {path : String} {content : Bytes} :
    provided sys g required path = some content ↔
      blocked sys g path = false ∧
        ∃ file ∈ required, installed file = path ∧ g.files file = some content := by
  rw [provided, ← separate.copied_eq_some_iff]
  cases blocked sys g path <;> simp

/-- A request that fails has removed the authentication files, unless it is not for the mode `BAST`
or there was nothing to remove. -/
theorem failed_workmode_keeps_authentication (lib : JsonText) (sys : System) (inputJson : Bytes)
    (g g' : Gateway) (rsp : String)
    (failed : mainLorawanWorkmodeSet lib sys inputJson g = (.ok (-1, rsp), g')) :
    ((∀ path ∈ authTables, g'.files path = g.files path) ∧
      g'.files lorawanModeConfDefault = g.files lorawanModeConfDefault) ↔
    ∀ stationMode authMode, BastRequest lib inputJson stationMode authMode →
      AlreadyInstalled sys (requiredFiles stationMode authMode) g := by
  have handled := (mainLorawanWorkmodeSet_ends lib sys inputJson g).of_eq_ok failed
  rcases handled with ⟨stationMode, authMode, request, set⟩ | ⟨other, tables, mode⟩
  · obtain ⟨tables, mode⟩ := set.failed rfl
    have separate := separate_requiredFiles stationMode authMode
    constructor
    · rintro ⟨kept, -⟩ stationMode' authMode' request'
      obtain ⟨rfl, rfl⟩ := request.unique request'
      intro path member content
      rw [← kept path member, tables path member]
      exact separate.provided_eq_some_iff
    · intro already
      refine ⟨fun path member => ?_, mode⟩
      rw [tables path member]
      apply Option.ext
      intro content
      rw [separate.provided_eq_some_iff]
      exact (already stationMode authMode request path member content).symm
  · constructor
    · intro _ stationMode authMode request
      exact absurd request (other stationMode authMode)
    · intro _
      exact ⟨tables, mode rfl⟩

/-- A request whose files have not all been uploaded fails, and leaves what it could copy. -/
theorem bast_fails_of_missing {lib : JsonText} {inputJson : Bytes} {stationMode authMode : Int32}
    (request : BastRequest lib inputJson stationMode authMode) {file : String}
    (needed : file ∈ requiredFiles stationMode authMode) (sys : System) {g : Gateway}
    (missing : ¬ g.Has file) :
    ∃ rsp g', mainLorawanWorkmodeSet lib sys inputJson g = (.ok (-1, rsp), g') ∧
      ∀ path ∈ authTables,
        g'.files path = provided sys g (requiredFiles stationMode authMode) path := by
  obtain ⟨⟨rc, rsp⟩, g', returned, handled⟩ :=
    (mainLorawanWorkmodeSet_ends lib sys inputJson g).returns
  rcases handled with ⟨stationMode', authMode', request', set⟩ | ⟨other, _⟩
  · obtain ⟨rfl, rfl⟩ := request'.unique request
    have failed : rc = -1 := by
      exact set.code.resolve_left fun zero => missing (set.complete zero file needed)
    subst failed
    exact ⟨rsp, g', returned, (set.failed rfl).1⟩
  · exact absurd request (other stationMode authMode)

/-- A request for the mode `BAST` with the server of the network (`LNS`). -/
def lnsRequest (authMode : UInt64) : Json :=
  ((Json.null.put ["body", "work_mode"] (.str "BAST")).put ["body", "station_mode"] (.uint 0)).put
    ["body", "auth_mode"] (.uint authMode)

theorem bastRequest_of_lns (authMode : UInt64) :
    BastRequest JsonCodec.text (JsonCodec.text.dump (lnsRequest authMode)) stationLnsMode
      authMode.toUInt32.toInt32 := by
  refine ⟨lnsRequest authMode, JsonCodec.text.parse_dump _ ?_, rfl, rfl, rfl⟩
  exact ((Json.Proper.null.put (.str _) _).put (.uint _) _).put (.uint _) _

/-- Where the operating system grants everything. -/
def willing : System :=
  ⟨some ["spidev0.0"], fun _ => true, fun _ => true, fun _ => true, fun _ => true, []⟩

def gatewayWith (files : List (String × Bytes)) : Gateway :=
  ⟨fun path => files.lookup path, fun path => path ∈ ["/etc/basicstation", "/tmp"], "", []⟩

/-- The installed URI is gone after a request for which none has been uploaded. -/
theorem failed_workmode_removes_uri :
    ¬ ∀ (lib : JsonText) (sys : System) (inputJson : Bytes) (g g' : Gateway) (rsp : String),
      mainLorawanWorkmodeSet lib sys inputJson g = (.ok (-1, rsp), g') →
      (∀ path ∈ authTables, g'.files path = g.files path) ∧
        g'.files lorawanModeConfDefault = g.files lorawanModeConfDefault := by
  intro keeps
  obtain ⟨rsp, g', returned, tables⟩ := bast_fails_of_missing (bastRequest_of_lns 0)
    (by decide : tcUri ∈ requiredFiles stationLnsMode 0) willing
    (by decide : ¬ (gatewayWith [("/etc/basicstation/tc.uri", [119])]).Has tcUri)
  have member : "/etc/basicstation/tc.uri" ∈ authTables := by simp [authTables, authLnsTb]
  have kept := (keeps _ _ _ _ _ _ returned).1 _ member
  rw [tables _ member] at kept
  exact absurd kept (by decide)

theorem ends_throwing_ok {α : Type} {x : Except JsonError α} {a : α} (read : x = .ok a)
    {g : Gateway} {ok : α → Gateway → Prop} {stop : Exception → Gateway → Prop} (h : ok a g) :
    Ends (throwing x) g ok stop := by
  subst read
  exact ends_pure h

/-- A request for the mode `BAST` is left to what comes after the reading of its modes. -/
theorem mainLorawanWorkmodeSet_of_bast {lib : JsonText} {sys : System} {inputJson : Bytes}
    {stationMode authMode : Int32} (request : BastRequest lib inputJson stationMode authMode)
    {g : Gateway} {ok : Int × String → Gateway → Prop}
    (set : Ends (setBast lib sys stationMode authMode) g ok fun _ _ => False) :
    Ends (mainLorawanWorkmodeSet lib sys inputJson) g ok fun _ _ => False := by
  obtain ⟨j, parse, mode, station, auth⟩ := request
  apply ends_tryCatch
  apply ends_bind
  rw [parse]
  apply ends_pure
  apply ends_bind
  apply ends_throwing_ok mode
  rw [if_neg (by simp), if_pos rfl]
  apply ends_bind
  apply ends_throwing_ok station
  apply ends_bind
  apply ends_throwing_ok auth
  exact set.imp (fun _ _ done => done) fun _ _ stop => stop.elim

/-- Without a device the change fails once the files have been copied. -/
theorem bast_fails_without_device {lib : JsonText} {inputJson : Bytes} {stationMode authMode : Int32}
    (request : BastRequest lib inputJson stationMode authMode) {sys : System}
    (without : sys.spidev = none) {g : Gateway}
    (complete : ∀ file ∈ requiredFiles stationMode authMode, g.Has file) :
    ∃ g', mainLorawanWorkmodeSet lib sys inputJson g =
      (.ok (-1, "Failed to set spidev path correctly."), g') := by
  have set : Ends (setBast lib sys stationMode authMode) g
      (fun answer _ => answer = (-1, "Failed to set spidev path correctly."))
      fun _ _ => False := by
    refine ends_bind ((stationAuthModeHandle_ends sys _ _ g).imp ?_ fun _ _ stop => stop)
    intro rc g₁ authenticated
    rw [authenticated.complete.mpr complete, if_neg (by decide), stationAdaptToSpidevPath, without]
    apply ends_bind
    apply ends_pure
    exact ends_pure rfl
  obtain ⟨answer, g', returned, rfl⟩ := (mainLorawanWorkmodeSet_of_bast request set).returns
  exact ⟨g', returned⟩

/-- The installed files are those that have been uploaded, and the device is missing. -/
theorem failed_workmode_keeps_authentication_uploaded :
    let g := gatewayWith [(tcUri, [119]), (tcTrust, [67]), ("/etc/basicstation/tc.uri", [119]),
      ("/etc/basicstation/tc.trust", [67])]
    ∃ g', mainLorawanWorkmodeSet JsonCodec.text { willing with spidev := none }
        (JsonCodec.text.dump (lnsRequest 1)) g = (.ok (-1, "Failed to set spidev path correctly."), g') ∧
      (∀ path ∈ authTables, g'.files path = g.files path) ∧
      g'.files lorawanModeConfDefault = g.files lorawanModeConfDefault := by
  intro g
  have complete : ∀ file ∈ requiredFiles stationLnsMode (1 : UInt64).toUInt32.toInt32,
      g.Has file := by
    decide
  obtain ⟨g', returned⟩ := bast_fails_without_device (bastRequest_of_lns 1)
    (rfl : { willing with spidev := none }.spidev = none) complete
  refine ⟨g', returned, (failed_workmode_keeps_authentication _ _ _ _ _ _ returned).mpr ?_⟩
  intro stationMode authMode request path member content
  obtain ⟨rfl, rfl⟩ := request.unique (bastRequest_of_lns 1)
  have same : ∀ path ∈ authTables, g.files path = provided { willing with spidev := none } g
      (requiredFiles stationLnsMode (1 : UInt64).toUInt32.toInt32) path := by
    decide
  rw [same path member]
  exact (separate_requiredFiles _ _).provided_eq_some_iff

/-! ### A change that succeeds -/

/-- What a change to the mode `BAST` is for: a mode that is defined is recorded, and the tables hold
its files as they have been uploaded, and nothing else. -/
structure UsableAuthentication (lib : JsonText) (stationMode authMode : Int32) (g g' : Gateway) :
    Prop where
  defined : authMode ∈ [authNone, authTlsServer, authTlsServerAndClient, authTlsServerAndClientToken]
  recorded :
    g'.files lorawanModeConfDefault = some (lib.dump (bastJson stationMode authMode) ++ [10])
  required : ∀ file ∈ requiredFiles stationMode authMode,
    (g.files file).isSome = true ∧ g'.files (installed file) = g.files file
  others : ∀ path ∈ authTables, path ∉ (requiredFiles stationMode authMode).map installed →
    g'.files path = none

theorem Settings.unique {lib : JsonText} {g : Gateway} {j j' : Json} (first : Settings lib g j)
    (second : Settings lib g j') : j = j' := by
  obtain ⟨text, here, read⟩ := first
  obtain ⟨text', here', read'⟩ := second
  cases here.symm.trans here'
  exact Option.some.inj (read.symm.trans read')

theorem LogFile.unique {lib : JsonText} {g : Gateway} {log log' : String}
    (first : LogFile lib g log) (second : LogFile lib g log') : log = log' := by
  obtain ⟨j, settings, named⟩ := first
  obtain ⟨j', settings', named'⟩ := second
  cases settings.unique settings'
  cases named.symm.trans named'
  rfl

/-- The file of a mode is what is copied to its place. -/
theorem Separate.copied_installed {required : List String} (separate : Separate required)
    (files : String → Option Bytes) {file : String} (member : file ∈ required) :
    copied files required (installed file) = files file := by
  apply Option.ext
  intro content
  rw [separate.copied_eq_some_iff]
  constructor
  · rintro ⟨other, inside, same, there⟩
    rwa [← List.inj_on_of_nodup_map separate.apart inside member same]
  · exact fun there => ⟨file, member, rfl, there⟩

/-- What the station needs is there as files, no folder is in the way of one, and the log file is none
of the files that the mode does not need. -/
structure Installable (lib : JsonText) (sys : System) (stationMode authMode : Int32) (g : Gateway) :
    Prop where
  defined : authMode ∈ [authNone, authTlsServer, authTlsServerAndClient, authTlsServerAndClientToken]
  uploaded : ∀ file ∈ requiredFiles stationMode authMode,
    (g.files file).isSome = true ∧ blocked sys g (installed file) = false
  log : ∀ log, LogFile lib g log → sys.place log ∈ authTables →
    sys.place log ∈ (requiredFiles stationMode authMode).map installed ∨
      blocked sys g (sys.place log) = true

/-- A change that succeeds is usable if the mode is a defined one, its files are files, and the path
of the log file leads to none of the files that this mode does not need. -/
theorem successful_bast_is_usable (lib : JsonText) (sys : System) (inputJson : Bytes)
    (g g' : Gateway) (rsp : String) (stationMode authMode : Int32)
    (request : BastRequest lib inputJson stationMode authMode)
    (succeeded : mainLorawanWorkmodeSet lib sys inputJson g = (.ok (0, rsp), g')) :
    UsableAuthentication lib stationMode authMode g g' ↔
      Installable lib sys stationMode authMode g := by
  have handled := (mainLorawanWorkmodeSet_ends lib sys inputJson g).of_eq_ok succeeded
  rcases handled with ⟨stationMode', authMode', request', set⟩ | ⟨other, _⟩
  · obtain ⟨rfl, rfl⟩ := request'.unique request
    have separate := separate_requiredFiles stationMode' authMode'
    obtain ⟨log, named, tables⟩ := set.installed rfl
    dsimp only at tables
    have unneeded (path : String)
        (outside : path ∉ (requiredFiles stationMode' authMode').map installed) :
        provided sys g (requiredFiles stationMode' authMode') path = none := by
      rw [provided, copied_eq_none, ite_self]
      intro file member same
      exact outside (same ▸ List.mem_map_of_mem member)
    constructor
    · intro usable
      refine ⟨usable.defined, fun file member => ?_, fun log' named' member => ?_⟩
      · obtain ⟨there, same⟩ := usable.required file member
        refine ⟨there, ?_⟩
        cases stays : blocked sys g (installed file) with
        | false => rfl
        | true =>
          -- Nothing comes to the place of the folder.
          rw [tables _ (separate.tables file member), provided, if_pos stays, stays] at same
          rw [← same] at there
          simp at there
      · cases named.unique named'
        by_cases inside : sys.place log ∈ (requiredFiles stationMode' authMode').map installed
        · exact .inl inside
        · right
          have absent := usable.others _ member inside
          rw [tables _ member, unneeded _ inside] at absent
          simpa using absent
    · intro installable
      refine ⟨installable.defined, set.recorded rfl, ?_, ?_⟩
      · intro file member
        obtain ⟨there, free⟩ := installable.uploaded file member
        refine ⟨there, ?_⟩
        obtain ⟨content, here⟩ := Option.isSome_iff_exists.mp there
        rw [tables _ (separate.tables file member), provided, free,
          separate.copied_installed g.files member, here]
        simp
      · intro path member outside
        rw [tables path member, unneeded path outside]
        by_cases here : path = sys.place log
        · subst here
          rw [(installable.log log named member).resolve_left outside]
          simp
        · simp [here]
  · exact absurd request (other stationMode authMode)

/-! ### Changes that succeed -/

/-- Settings of a station. -/
def stationSettings : Json :=
  (((((Json.null.put ["station_conf", "routerid"] (.str "")).put
    ["station_conf", "radio_init"] (.str "")).put
    ["station_conf", "log_file"] (.str "/tmp/station.log")).put
    ["station_conf", "log_level"] (.str "DEBUG")).put
    ["station_conf", "log_size"] (.uint 10000000)).put ["station_conf", "log_rotate"] (.uint 3)

/-- The part of the settings for a device. -/
def radioCommon (spiPath : String) : Json :=
  ((((Json.null.put ["device"] (.str spiPath)).put ["clksrc"] (.uint 0)).put
    ["full_duplex"] (.bool false)).put ["lorawan_public"] (.bool true)).put ["pps"] (.bool false)

theorem stationSettings_proper : stationSettings.Proper JsonCodec.text.finite :=
  (((((Json.Proper.null.put (.str _) _).put (.str _) _).put (.str _) _).put (.str _) _).put
    (.uint _) _).put (.uint _) _

theorem radioCommon_proper (spiPath : String) :
    (radioCommon spiPath).Proper JsonCodec.text.finite :=
  ((((Json.Proper.null.put (.str _) _).put (.uint _) _).put (.bool _) _).put (.bool _) _).put
    (.bool _) _

/-- The clock source is written as a signed integer, and is read as an unsigned one. -/
theorem parse_jsSetting (spiPath : String) :
    JsonCodec.text.parse (JsonCodec.text.dump (jsSetting spiPath)) =
      some (Json.null.put ["body", "radio_common"] (radioCommon spiPath)) := by
  have signed : jsSetting spiPath = .obj [("body", .obj [("radio_common", .obj [("clksrc", .int 0),
      ("device", .str spiPath), ("full_duplex", .bool false), ("lorawan_public", .bool true),
      ("pps", .bool false)])])] := rfl
  have unsigned : Json.null.put ["body", "radio_common"] (radioCommon spiPath) =
      .obj [("body", .obj [("radio_common", .obj [("clksrc", .uint 0), ("device", .str spiPath),
        ("full_duplex", .bool false), ("lorawan_public", .bool true), ("pps", .bool false)])])] :=
    rfl
  have written : JsonCodec.text.dump (jsSetting spiPath) =
      JsonCodec.text.dump (Json.null.put ["body", "radio_common"] (radioCommon spiPath)) := by
    simp [JsonCodec.text, JsonCodec.writeBytes, signed, unsigned, JsonCodec.write,
      JsonCodec.writeFields]
  rw [written]
  exact JsonCodec.text.parse_dump _ (Json.Proper.null.put (radioCommon_proper spiPath) _)

/-- The settings once a device has been written to them. -/
def adaptedSettings (spiPath : String) : Json :=
  stationSettings.put ["radio_conf"] (radioCommon spiPath)

theorem parseRemoteRadioCommonConfig_stationSettings (spiPath : String) :
    parseRemoteRadioCommonConfig (Json.null.put ["body", "radio_common"] (radioCommon spiPath))
      stationSettings = .ok (adaptedSettings spiPath) := rfl

theorem parseStationConfig_adaptedSettings (spiPath : String) :
    parseStationConfig (adaptedSettings spiPath) .null = .ok stationSettings := rfl

theorem stationAdaptToSpidevPath_succeeds {g : Gateway}
    (settings : Settings JsonCodec.text g stationSettings) :
    Ends (stationAdaptToSpidevPath JsonCodec.text willing) g
      (fun rc g' => rc = 0 ∧ g'.folders = g.folders ∧
        ∃ spiPath, Settings JsonCodec.text g' (adaptedSettings spiPath)) fun _ _ => False := by
  obtain ⟨text, here, read⟩ := settings
  have found : (willing.spidev.bind fun names => names.find? fun name => containsText name "spi") =
      some "spidev0.0" := by
    decide
  rw [stationAdaptToSpidevPath, found]
  apply ends_bind
  apply ends_bind
  apply ends_get
  rw [here, Option.bind_some, read]
  apply ends_pure
  apply ends_bind
  rw [parse_jsSetting]
  apply ends_pure
  apply ends_bind
  apply ends_throwing_ok (parseRemoteRadioCommonConfig_stationSettings _)
  apply ends_bind
  apply ends_modify
  apply ends_pure
  have proper := stationSettings_proper.put (radioCommon_proper ("spi:" ++ "/dev/" ++ "spidev0.0"))
    ["radio_conf"]
  exact ⟨rfl, rfl, _, _, g.setFile_files_self stationConfDefault _,
    JsonCodec.text.read_dump_endl _ proper⟩

theorem openLogFile_willing {g : Gateway} {logPath : String}
    (noFolder : g.folders (willing.place logPath) = false) :
    Ends (openLogFile willing logPath) g (fun rc _ => rc = 0) fun _ _ => False := by
  apply ends_bind
  apply ends_get
  rw [if_pos ⟨rfl, by simp [noFolder]⟩]
  apply ends_bind
  apply ends_modify
  exact ends_pure rfl

theorem stationCreateLogFile_succeeds {g : Gateway} {spiPath : String}
    (settings : Settings JsonCodec.text g (adaptedSettings spiPath)) :
    Ends (stationCreateLogFile JsonCodec.text willing) g (fun rc _ => rc = 0)
      fun _ _ => False := by
  obtain ⟨text, here, read⟩ := settings
  have logPath : Ends (stationLogPath JsonCodec.text) g
      (fun log g' => g' = g ∧ log = "/tmp/station.log") fun _ _ => False := by
    apply ends_bind
    apply ends_bind
    apply ends_get
    rw [here, Option.bind_some, read]
    apply ends_pure
    apply ends_bind
    apply ends_throwing_ok (parseStationConfig_adaptedSettings spiPath)
    apply ends_bind
    rw [JsonCodec.text.parse_dump _ stationSettings_proper]
    apply ends_pure
    rw [if_pos (by decide)]
    exact ends_throwing_ok (rfl : _ = Except.ok "/tmp/station.log") ⟨rfl, rfl⟩
  refine ends_bind (logPath.imp ?_ fun _ _ stop => stop)
  rintro _ g ⟨rfl, rfl⟩
  apply ends_bind
  apply ends_get
  have folder : dirname "/tmp/station.log" = some "/tmp" := by decide
  rw [if_neg (by decide), folder]
  split
  · exact ends_pure rfl
  next absent =>
    have noFolder : g.folders (willing.place "/tmp/station.log") = false := by
      rw [← Bool.not_eq_true]
      exact fun here => absent ⟨by decide, rfl, .inr here⟩
    dsimp only
    split
    · exact openLogFile_willing noFolder
    next without =>
      have room : willing.CanMakeDir g "/tmp" := ⟨rfl, fun has => without ⟨by decide, rfl, has⟩⟩
      rw [if_pos room]
      apply ends_bind
      apply ends_modify
      apply openLogFile_willing
      have apart : willing.place "/tmp/station.log" ≠ willing.place "/tmp" := by decide
      rw [← noFolder]
      exact Function.update_of_ne apart true g.folders

/-- With the settings above, a request succeeds if its files have been uploaded. -/
theorem lnsRequest_succeeds {g : Gateway} {authMode : UInt64}
    (settings : Settings JsonCodec.text g stationSettings)
    (complete : ∀ file ∈ requiredFiles stationLnsMode authMode.toUInt32.toInt32,
      g.Has file) :
    ∃ rsp g', mainLorawanWorkmodeSet JsonCodec.text willing
      (JsonCodec.text.dump (lnsRequest authMode)) g = (.ok (0, rsp), g') := by
  have set : Ends (setBast JsonCodec.text willing stationLnsMode authMode.toUInt32.toInt32) g
      (fun answer _ => answer.1 = 0) fun _ _ => False := by
    refine ends_bind ((stationAuthModeHandle_ends _ _ _ g).imp ?_ fun _ _ stop => stop)
    intro rc g₁ authenticated
    rw [authenticated.complete.mpr complete, if_neg (by decide)]
    have settings₁ : Settings JsonCodec.text g₁ stationSettings := by
      obtain ⟨text, here, read⟩ := settings
      exact ⟨text, (authenticated.others _ settings_not_in_tables).trans here, read⟩
    refine ends_bind ((stationAdaptToSpidevPath_succeeds settings₁).imp ?_ fun _ _ stop => stop)
    rintro _ g₂ ⟨rfl, _, spiPath, settings₂⟩
    rw [if_neg (by decide)]
    refine ends_bind ((stationCreateLogFile_succeeds settings₂).imp ?_ fun _ _ stop => stop)
    rintro _ g₃ rfl
    rw [if_neg (by decide)]
    apply ends_bind
    apply ends_modify
    apply ends_bind
    apply ends_modify
    exact ends_pure rfl
  obtain ⟨⟨rc, rsp⟩, g', returned, zero⟩ :=
    (mainLorawanWorkmodeSet_of_bast (bastRequest_of_lns authMode) set).returns
  cases zero
  exact ⟨rsp, g', returned⟩

/-- A mode that is not defined is recorded, and the station has no file. -/
theorem undefined_mode_succeeds :
    ¬ ∀ (lib : JsonText) (sys : System) (inputJson : Bytes) (g g' : Gateway) (rsp : String)
      (stationMode authMode : Int32), BastRequest lib inputJson stationMode authMode →
      mainLorawanWorkmodeSet lib sys inputJson g = (.ok (0, rsp), g') →
      UsableAuthentication lib stationMode authMode g g' := by
  intro usable
  let g := gatewayWith [(stationConfDefault, JsonCodec.text.dump stationSettings)]
  have settings : Settings JsonCodec.text g stationSettings :=
    ⟨_, by simp [g, gatewayWith], JsonCodec.text.read_dump _ stationSettings_proper⟩
  have complete : ∀ file ∈ requiredFiles stationLnsMode (7 : UInt64).toUInt32.toInt32,
      g.Has file := by
    have none : requiredFiles stationLnsMode (7 : UInt64).toUInt32.toInt32 = [] := by decide
    rw [none]
    exact fun _ member => nomatch member
  obtain ⟨rsp, g', returned⟩ := lnsRequest_succeeds settings complete
  have defined := (usable _ _ _ _ _ _ _ _ (bastRequest_of_lns 7) returned).defined
  exact absurd defined (by decide)

/-- With an uploaded URI and no authentication, the station has the URI. -/
theorem successful_bast_is_usable_uri :
    let g := gatewayWith [(stationConfDefault, JsonCodec.text.dump stationSettings), (tcUri, [119])]
    ∃ rsp g', mainLorawanWorkmodeSet JsonCodec.text willing (JsonCodec.text.dump (lnsRequest 0)) g =
        (.ok (0, rsp), g') ∧
      UsableAuthentication JsonCodec.text stationLnsMode authNone g g' := by
  intro g
  have settings : Settings JsonCodec.text g stationSettings :=
    ⟨_, by simp [g, gatewayWith], JsonCodec.text.read_dump _ stationSettings_proper⟩
  have complete : ∀ file ∈ requiredFiles stationLnsMode (0 : UInt64).toUInt32.toInt32,
      g.Has file := by
    have uri : requiredFiles stationLnsMode (0 : UInt64).toUInt32.toInt32 = [tcUri] := by decide
    rw [uri]
    simp [g, gatewayWith, Gateway.Has, List.lookup_cons, stationConfDefault, tcUri]
  obtain ⟨rsp, g', returned⟩ := lnsRequest_succeeds settings complete
  refine ⟨rsp, g', returned,
    (successful_bast_is_usable _ _ _ _ _ _ _ _ (bastRequest_of_lns 0) returned).mpr
      ⟨by decide, by decide, ?_⟩⟩
  rintro log ⟨j, settings', named⟩ member
  cases settings.unique settings'
  cases named
  exact absurd member (by decide)

end LorawanFeeds.Cgi
