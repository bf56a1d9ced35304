import Mathlib.Data.List.Nodup
import LorawanFeeds.Cgi.WorkMode

/-!
# The station's authentication files

What a change to the mode `BAST` leaves of the files of the two tables. They are all removed before
anything is checked; so after a change that fails, they are whatever could be copied.
-/
namespace LorawanFeeds.Cgi

open Lib Bridge Proc

def authTables : List String := authLnsTb ++ authCupsTb

/-- The uploaded files that a mode needs. -/
def requiredFiles (stationMode authMode : Int32) : List String :=
  let lns := stationMode = stationLnsMode
  if authMode = authNone then [if lns then tcUri else cupsUri]
  else if authMode = authTlsServer then if lns then [tcTrust, tcUri] else [cupsTrust, cupsUri]
  else if authMode = authTlsServerAndClient then
    if lns then [tcTrust, tcClientCrt, tcClientKey, tcUri]
    else [cupsTrust, cupsClientCrt, cupsClientKey, cupsUri]
  else if authMode = authTlsServerAndClientToken then
    if lns then [tcTrust, tcClientToken, tcUri] else [cupsTrust, cupsClientToken, cupsUri]
  else []

/-- What is copied to a path: the uploaded file that belongs there, if there is one. -/
def copied (files : String → Option Bytes) (required : List String) (path : String) :
    Option Bytes :=
  (required.find? fun file => installed file = path).bind files

/-- The files of a mode go to different places, all of them in the tables, and no upload is there. -/
structure Separate (required : List String) : Prop where
  apart : (required.map installed).Nodup
  tables : ∀ file ∈ required, installed file ∈ authTables
  uploads : ∀ file ∈ required, file ∉ authTables

theorem Separate.sublist {few many : List String} (sub : few.Sublist many) (separate : Separate many) :
    Separate few :=
  ⟨separate.apart.sublist (sub.map installed), fun file member => separate.tables file
    (sub.subset member), fun file member => separate.uploads file (sub.subset member)⟩

/-- The places of the uploaded files. -/
theorem installed_eq :
    installed tcTrust = "/etc/basicstation/tc.trust" ∧
    installed tcClientCrt = "/etc/basicstation/tc.crt" ∧
    installed tcClientKey = "/etc/basicstation/tc.key" ∧
    installed tcUri = "/etc/basicstation/tc.uri" ∧
    installed tcClientToken = "/etc/basicstation/tc.key" ∧
    installed cupsTrust = "/etc/basicstation/cups.trust" ∧
    installed cupsClientCrt = "/etc/basicstation/cups.crt" ∧
    installed cupsClientKey = "/etc/basicstation/cups.key" ∧
    installed cupsUri = "/etc/basicstation/cups.uri" ∧
    installed cupsClientToken = "/etc/basicstation/cups.key" := by
  decide

theorem separate_lns : Separate [tcTrust, tcClientCrt, tcClientKey, tcUri] := by
  obtain ⟨trust, crt, key, uri, -⟩ := installed_eq
  constructor
  · simp [trust, crt, key, uri]
  · simp [trust, crt, key, uri, authTables, authLnsTb]
  · simp [authTables, authLnsTb, authCupsTb, tcTrust, tcClientCrt, tcClientKey, tcUri]

theorem separate_lns_token : Separate [tcTrust, tcClientToken, tcUri] := by
  obtain ⟨trust, -, -, uri, token, -⟩ := installed_eq
  constructor
  · simp [trust, token, uri]
  · simp [trust, token, uri, authTables, authLnsTb]
  · simp [authTables, authLnsTb, authCupsTb, tcTrust, tcClientToken, tcUri]

theorem separate_cups : Separate [cupsTrust, cupsClientCrt, cupsClientKey, cupsUri] := by
  obtain ⟨-, -, -, -, -, trust, crt, key, uri, -⟩ := installed_eq
  constructor
  · simp [trust, crt, key, uri]
  · simp [trust, crt, key, uri, authTables, authCupsTb]
  · simp [authTables, authLnsTb, authCupsTb, cupsTrust, cupsClientCrt, cupsClientKey, cupsUri]

theorem separate_cups_token : Separate [cupsTrust, cupsClientToken, cupsUri] := by
  obtain ⟨-, -, -, -, -, trust, -, -, uri, token⟩ := installed_eq
  constructor
  · simp [trust, token, uri]
  · simp [trust, token, uri, authTables, authCupsTb]
  · simp [authTables, authLnsTb, authCupsTb, cupsTrust, cupsClientToken, cupsUri]

theorem separate_requiredFiles (stationMode authMode : Int32) :
    Separate (requiredFiles stationMode authMode) := by
  have trustUri {a b c d : String} : [a, d].Sublist [a, b, c, d] := by simp
  have uri {a b c d : String} : [d].Sublist [a, b, c, d] := by simp
  simp only [requiredFiles]
  split
  · split
    · exact separate_lns.sublist uri
    · exact separate_cups.sublist uri
  · split
    · split
      · exact separate_lns.sublist trustUri
      · exact separate_cups.sublist trustUri
    · split
      · split
        · exact separate_lns
        · exact separate_cups
      · split
        · split
          · exact separate_lns_token
          · exact separate_cups_token
        · exact separate_lns.sublist (List.nil_sublist _)

/-! ### Copying -/

/-- An upload is not changed by what is installed. -/
theorem Separate.installed_ne {required : List String} (separate : Separate required)
    {file other : String} (here : file ∈ required) (there : other ∈ required) :
    installed file ≠ other := by
  intro same
  exact separate.uploads other there (same ▸ separate.tables file here)

theorem copied_congr {files files' : String → Option Bytes} {required : List String}
    (same : ∀ file ∈ required, files file = files' file) (path : String) :
    copied files required path = copied files' required path := by
  rw [copied, copied]
  cases found : required.find? fun file => installed file = path with
  | none => rfl
  | some file => exact same file (List.mem_of_find?_eq_some found)

theorem copied_cons (files : String → Option Bytes) (file : String) (required : List String)
    (path : String) :
    copied files (file :: required) path =
      if installed file = path then files file else copied files required path := by
  simp only [copied, List.find?_cons]
  split <;> simp_all

theorem copied_eq_none {files : String → Option Bytes} {required : List String} {path : String}
    (other : ∀ file ∈ required, installed file ≠ path) : copied files required path = none := by
  rw [copied, List.find?_eq_none.mpr]
  · rfl
  · intro file member
    simpa using other file member

theorem Separate.copied_eq_some_iff {required : List String} (separate : Separate required)
    {files : String → Option Bytes} {path : String} {content : Bytes} :
    copied files required path = some content ↔
      ∃ file ∈ required, installed file = path ∧ files file = some content := by
  rw [copied, Option.bind_eq_some_iff]
  constructor
  · rintro ⟨file, found, there⟩
    exact ⟨file, List.mem_of_find?_eq_some found, by simpa using List.find?_some found, there⟩
  · rintro ⟨file, member, rfl, there⟩
    refine ⟨file, ?_, there⟩
    cases found : required.find? fun other => installed other = installed file with
    | none => simpa using List.find?_eq_none.mp found file member
    | some other =>
      have same : installed other = installed file := by simpa using List.find?_some found
      rw [List.inj_on_of_nodup_map separate.apart (List.mem_of_find?_eq_some found) member same]

/-- A folder at the place of a file is in the way. -/
def installable (g : Gateway) (required : List String) (path : String) : Option Bytes :=
  if g.folders path then none else copied g.files required path

/-- A single copy. -/
theorem install_files (g : Gateway) (file path : String) :
    (g.install file).files path = (installable g [file] path).or (g.files path) := by
  rw [Gateway.install, installable, copied_cons]
  cases content : g.files file with
  | none =>
    dsimp only
    split
    · rfl
    · split <;> rfl
  | some bytes =>
    dsimp only
    by_cases here : installed file = path
    · subst here
      by_cases blocked : g.folders (installed file) = true
      · rw [if_pos blocked, if_pos blocked]
        rfl
      · rw [if_neg blocked, if_neg blocked, if_pos rfl, Gateway.setFile_files_self]
        rfl
    · have kept : (if g.folders (installed file) then g
          else g.setFile (installed file) (some bytes)).files path = g.files path := by
        split
        · rfl
        · exact g.setFile_files_of_ne (Ne.symm here) _
      rw [kept, if_neg here]
      split <;> rfl

theorem install_folders (g : Gateway) (file : String) : (g.install file).folders = g.folders := by
  rw [Gateway.install]
  split
  · split <;> rfl
  · rfl

/-- The last of several copies to a place does not matter, since there is only one. -/
theorem installable_cons (g : Gateway) {file : String} {required : List String}
    (first : ∀ other ∈ required, installed other ≠ installed file) (path : String)
    (before : Option Bytes) :
    (installable g required path).or ((installable g [file] path).or before) =
      (installable g (file :: required) path).or before := by
  rw [installable, installable, installable, copied_cons, copied_cons]
  split
  · rfl
  · by_cases here : installed file = path
    · subst here
      rw [if_pos rfl, if_pos rfl, copied_eq_none first, Option.none_or]
    · rw [if_neg here, if_neg here]
      rfl

/-- A file that is not there is not installed. -/
theorem installable_missing {g : Gateway} {file : String} (missing : ¬ g.Has file) (path : String) :
    installable g [file] path = none := by
  rw [Gateway.Has, not_or, Option.not_isSome_iff_eq_none] at missing
  rw [installable, copied_cons, missing.1]
  split
  · rfl
  · split <;> rfl

/-- What copying does: each file that is there is installed, and nothing else changes. -/
theorem copyUploaded_ends (required : List String) (separate : Separate required) (g : Gateway) :
    Ends (copyUploaded required) g
      (fun missing g' => (∀ path, g'.files path = (installable g required path).or (g.files path)) ∧
        g'.folders = g.folders ∧ (missing = 0 ↔ ∀ file ∈ required, g.Has file))
      fun _ _ => False := by
  induction required generalizing g with
  | nil =>
    refine ends_pure ⟨fun path => ?_, rfl, by simp⟩
    rw [installable]
    split <;> rfl
  | cons file required ih =>
    have later : Separate required := separate.sublist (List.sublist_cons_self ..)
    have first : ∀ other ∈ required, installed other ≠ installed file := by
      intro other member same
      exact (List.nodup_cons.mp separate.apart).1 (same ▸ List.mem_map_of_mem member)
    apply ends_bind
    apply ends_get
    by_cases there : g.Has file
    · rw [if_pos there]
      apply ends_bind
      apply ends_modify
      have files₁ := install_files g file
      have folders₁ := install_folders g file
      generalize g.install file = g₁ at files₁ folders₁
      -- No upload is at a place of the tables, so that the later copies find what was there.
      have uploads : ∀ other ∈ required, g₁.files other = g.files other := by
        intro other member
        have different := separate.installed_ne (List.mem_cons_self ..)
          (List.mem_cons_of_mem file member)
        rw [files₁ other, installable, copied_cons, if_neg different]
        split <;> rfl
      refine (ih later g₁).imp ?_ fun _ _ stop => stop
      rintro missing g' ⟨files, folders, count⟩
      refine ⟨fun path => ?_, folders.trans folders₁, ?_⟩
      · have same : installable g₁ required path = installable g required path := by
          rw [installable, installable, folders₁, copied_congr uploads]
        rw [files path, files₁ path, same, installable_cons g first]
      · rw [count, List.forall_mem_cons, and_iff_right there]
        refine forall₂_congr fun other member => ?_
        rw [Gateway.Has, Gateway.Has, uploads other member, folders₁]
    · rw [if_neg there]
      apply ends_bind
      apply ends_modify
      apply ends_bind
      refine (ih later _).imp ?_ fun _ _ stop => stop
      rintro missing g' ⟨files, folders, count⟩
      apply ends_pure
      refine ⟨fun path => ?_, folders, by simp [there]⟩
      rw [files path, ← installable_cons g first, installable_missing there]
      rfl

/-- What the functions for the modes do with the files they need. -/
structure Installs (required : List String) (g : Gateway) (rc : Int) (g' : Gateway) : Prop where
  files : ∀ path, g'.files path = (installable g required path).or (g.files path)
  folders : g'.folders = g.folders
  complete : rc = 0 ↔ ∀ file ∈ required, g.Has file
  code : rc = 0 ∨ rc = -1

theorem stationAuthModeNoneHandle_ends (stationMode : Int32) (g : Gateway) :
    Ends (stationAuthModeNoneHandle stationMode) g
      (Installs [if stationMode = stationLnsMode then tcUri else cupsUri] g) fun _ _ => False := by
  rw [stationAuthModeNoneHandle]
  generalize (if stationMode = stationLnsMode then tcUri else cupsUri) = uriFile
  apply ends_bind
  apply ends_get
  split
  next there =>
    apply ends_bind
    apply ends_modify
    apply ends_pure
    exact ⟨install_files g uriFile, install_folders g uriFile, by simp [there], .inl rfl⟩
  next missing =>
    apply ends_bind
    apply ends_modify
    apply ends_pure
    refine ⟨fun path => ?_, rfl, by simp [missing], .inr rfl⟩
    rw [installable_missing missing]
    rfl

theorem stationAuthModeTlsHandle_ends {lns cups : List String} {stationMode : Int32}
    (separate : Separate (if stationMode = stationLnsMode then lns else cups)) (g : Gateway) :
    Ends (stationAuthModeTlsHandle lns cups stationMode) g
      (Installs (if stationMode = stationLnsMode then lns else cups) g) fun _ _ => False := by
  refine ends_bind ((copyUploaded_ends _ separate g).imp ?_ fun _ _ stop => stop)
  rintro missing g' ⟨files, folders, count⟩
  apply ends_pure
  cases missing with
  | zero => exact ⟨files, folders, by simpa using count, .inl rfl⟩
  | succ n => exact ⟨files, folders, by simpa using count, .inr rfl⟩

/-- A folder that is not empty stays. -/
def blocked (sys : System) (g : Gateway) (path : String) : Bool := g.folders path && !sys.rmdir path

theorem removeAll_ends (sys : System) (paths : List String) (g : Gateway) :
    Ends (removeAll sys paths) g
      (fun _ g' =>
        (∀ path, g'.folders path = if path ∈ paths then blocked sys g path else g.folders path) ∧
        ∀ path, g'.files path = if path ∈ paths then none else g.files path)
      fun _ _ => False := by
  induction paths generalizing g with
  | nil => exact ends_pure ⟨fun path => by simp, fun path => by simp⟩
  | cons first paths ih =>
    apply ends_bind
    apply ends_modify
    refine (ih _).imp ?_ fun _ _ stop => stop
    rintro _ g' ⟨folders, files⟩
    refine ⟨fun path => ?_, fun path => ?_⟩
    · rw [folders path]
      by_cases here : path = first
      · simp [here, blocked]
      · simp [here, blocked]
    · rw [files path]
      by_cases here : path = first
      · simp [here]
      · simp [here, g.setFile_files_of_ne here]

/-- What the tables hold after the copies: a folder that has stayed is no file. -/
def provided (sys : System) (g : Gateway) (required : List String) (path : String) : Option Bytes :=
  if blocked sys g path then none else copied g.files required path

/-- What `station_auth_mode_handle` leaves of the tables: the copies, and nothing else. -/
structure Authenticated (sys : System) (required : List String) (g : Gateway) (rc : Int)
    (g' : Gateway) : Prop where
  tables : ∀ path ∈ authTables, g'.files path = provided sys g required path
  others : ∀ path, path ∉ authTables → g'.files path = g.files path
  folders : ∀ path ∈ authTables, g'.folders path = blocked sys g path
  complete : rc = 0 ↔ ∀ file ∈ required, g.Has file
  code : rc = 0 ∨ rc = -1

theorem stationAuthModePreHandle_ends (sys : System) (g : Gateway) :
    Ends (stationAuthModePreHandle sys) g
      (fun _ g' =>
        (∀ path, g'.folders path = if path ∈ authTables then blocked sys g path
          else g.folders path) ∧
        ∀ path, g'.files path = if path ∈ authTables then none else g.files path)
      fun _ _ => False := by
  refine ends_bind ((removeAll_ends sys authCupsTb g).imp ?_ fun _ _ stop => stop)
  rintro _ g₁ ⟨folders₁, files₁⟩
  refine (removeAll_ends sys authLnsTb g₁).imp ?_ fun _ _ stop => stop
  rintro _ g₂ ⟨folders₂, files₂⟩
  refine ⟨fun path => ?_, fun path => ?_⟩
  · rw [folders₂ path, blocked, folders₁ path]
    by_cases lns : path ∈ authLnsTb <;> by_cases cups : path ∈ authCupsTb <;>
      simp [authTables, lns, cups, blocked]
  · rw [files₂ path, files₁ path]
    by_cases lns : path ∈ authLnsTb <;> simp [authTables, lns]

/-- Installing into empty tables. -/
theorem Installs.authenticated {sys : System} {required : List String} (separate : Separate required)
    {g cleared g' : Gateway} {rc : Int}
    (folders : ∀ path, cleared.folders path = if path ∈ authTables then blocked sys g path
      else g.folders path)
    (files : ∀ path, cleared.files path = if path ∈ authTables then none else g.files path)
    (installs : Installs required cleared rc g') : Authenticated sys required g rc g' := by
  have uploads : ∀ file ∈ required, cleared.files file = g.files file := by
    intro file member
    rw [files file, if_neg (separate.uploads file member)]
  constructor
  · intro path member
    rw [installs.files path, files path, if_pos member, Option.or_none, installable, provided,
      folders path, if_pos member, copied_congr uploads]
  · intro path outside
    rw [installs.files path, files path, if_neg outside, installable, copied_eq_none, ite_self]
    · rfl
    · intro file member same
      exact outside (same ▸ separate.tables file member)
  · intro path member
    rw [installs.folders, folders path, if_pos member]
  · rw [installs.complete]
    refine forall₂_congr fun file member => ?_
    rw [Gateway.Has, Gateway.Has, uploads file member, folders file,
      if_neg (separate.uploads file member)]
  · exact installs.code

theorem stationAuthModeHandle_ends (sys : System) (stationMode authMode : Int32) (g : Gateway) :
    Ends (stationAuthModeHandle sys stationMode authMode) g
      (Authenticated sys (requiredFiles stationMode authMode) g) fun _ _ => False := by
  have separate := separate_requiredFiles stationMode authMode
  refine ends_bind ((stationAuthModePreHandle_ends sys g).imp ?_ fun _ _ stop => stop)
  rintro _ cleared ⟨folders, files⟩
  have installing : Ends (if authMode = authNone then stationAuthModeNoneHandle stationMode
      else if authMode = authTlsServer then stationAuthMode1Handle stationMode
      else if authMode = authTlsServerAndClient then stationAuthMode2Handle stationMode
      else if authMode = authTlsServerAndClientToken then stationAuthMode3Handle stationMode
      else pure 0) cleared (Installs (requiredFiles stationMode authMode) cleared)
      fun _ _ => False := by
    simp only [requiredFiles] at separate ⊢
    split
    · exact stationAuthModeNoneHandle_ends stationMode cleared
    next notNone =>
      rw [if_neg notNone] at separate
      split
      next one =>
        rw [if_pos one] at separate
        exact stationAuthModeTlsHandle_ends separate cleared
      next notOne =>
        rw [if_neg notOne] at separate
        split
        next two =>
          rw [if_pos two] at separate
          exact stationAuthModeTlsHandle_ends separate cleared
        next notTwo =>
          rw [if_neg notTwo] at separate
          split
          next three =>
            rw [if_pos three] at separate
            exact stationAuthModeTlsHandle_ends separate cleared
          next =>
            apply ends_pure
            refine ⟨fun path => ?_, rfl, by simp, .inl rfl⟩
            rw [installable]
            split <;> rfl
  refine installing.imp ?_ fun _ _ stop => stop
  intro rc g' installs
  exact installs.authenticated separate folders files

/-! ### The steps after the authentication -/

section

variable (lib : JsonText) (sys : System) (g : Gateway)

theorem ends_throwing {α : Type} {x : Except JsonError α} {ok : α → Gateway → Prop}
    {stop : Exception → Gateway → Prop} (returns : ∀ a, x = .ok a → ok a g)
    (throws : (∀ a, x ≠ .ok a) → ∀ e, stop e g) : Ends (throwing x) g ok stop := by
  cases x with
  | error e => exact ends_raise (throws (by simp) _)
  | ok a => exact ends_pure (returns a rfl)

theorem throwing_ends {α : Type} (x : Except JsonError α) :
    Ends (throwing x) g (fun a g' => g' = g ∧ x = .ok a) fun _ g' => g' = g :=
  ends_throwing g (fun _ read => ⟨rfl, read⟩) fun _ _ => rfl

theorem parsed_ends (x : Option Json) :
    Ends (parsed x) g (fun j g' => g' = g ∧ x = some j) fun _ g' => g' = g := by
  cases x with
  | none => exact ends_raise rfl
  | some j => exact ends_pure ⟨rfl, rfl⟩

/-- The document of the station's settings. -/
def Settings (j : Json) : Prop := ∃ text, g.files stationConfDefault = some text ∧ lib.read text = some j

theorem loRaStation_ends :
    Ends (loRaStation lib) g (fun j g' => g' = g ∧ Settings lib g j) fun _ g' => g' = g := by
  apply ends_bind
  apply ends_get
  refine (parsed_ends g _).imp ?_ fun _ _ stop => stop
  rintro j g' ⟨same, read⟩
  obtain ⟨text, here, read⟩ := Option.bind_eq_some_iff.mp read
  exact ⟨same, text, here, read⟩

/-- The log file that the station's settings name. -/
def LogFile (log : String) : Prop :=
  ∃ j, Settings lib g j ∧ j.lookup ["station_conf", "log_file"] = some (.str log)

/-- The device is written to the settings; the name of the log file stays. -/
theorem stationAdaptToSpidevPath_ends :
    Ends (stationAdaptToSpidevPath lib sys) g
      (fun rc g' => g'.folders = g.folders ∧
        (∀ path, path ≠ stationConfDefault → g'.files path = g.files path) ∧
        (rc = 0 ∧ (∀ log, LogFile lib g' log → LogFile lib g log) ∨ rc = -1 ∧ g' = g))
      fun _ g' => g' = g := by
  rw [stationAdaptToSpidevPath]
  split
  · exact ends_pure ⟨rfl, fun _ _ => rfl, .inr ⟨rfl, rfl⟩⟩
  next name _ =>
    refine ends_bind ((loRaStation_ends lib g).imp ?_ fun _ _ stop => stop)
    rintro localJson _ ⟨rfl, settings⟩
    refine ends_bind ((parsed_ends _ _).imp ?_ fun _ _ stop => stop)
    rintro remoteJson _ ⟨rfl, _⟩
    refine ends_bind ((throwing_ends _ _).imp ?_ fun _ _ stop => stop)
    rintro newJson g ⟨rfl, transferred⟩
    apply ends_bind
    apply ends_modify
    apply ends_pure
    refine ⟨rfl, ?_, .inl ⟨rfl, ?_⟩⟩
    · intro path other
      exact g.setFile_files_of_ne other _
    · rintro log ⟨j, ⟨text, here, read⟩, named⟩
      obtain ⟨oldText, oldHere, oldRead⟩ := settings
      have proper := transfer_proper (lib.read_proper _ _ oldRead) transferred
      have written : text = lib.dump newJson ++ [10] := by
        rw [Gateway.setFile_files_self] at here
        exact (Option.some.inj here).symm
      have same : j = newJson := by
        rw [written, lib.read_dump_endl newJson proper] at read
        exact (Option.some.inj read).symm
      refine ⟨localJson, ⟨oldText, oldHere, oldRead⟩, ?_⟩
      rw [← named, same, transfer_lookup_of_apart transferred]
      intro field member
      exact .inl (by decide)

theorem stationLogPath_ends :
    Ends (stationLogPath lib) g (fun log g' => g' = g ∧ LogFile lib g log) fun _ g' => g' = g := by
  refine ends_bind ((loRaStation_ends lib g).imp ?_ fun _ _ stop => stop)
  rintro localJson _ ⟨rfl, settings⟩
  refine ends_bind ((throwing_ends _ _).imp ?_ fun _ _ stop => stop)
  rintro uploadJson _ ⟨rfl, transferred⟩
  refine ends_bind ((parsed_ends _ _).imp ?_ fun _ _ stop => stop)
  rintro stationConf g ⟨rfl, reparsed⟩
  -- What has been collected is written and read once more.
  have same : stationConf = uploadJson := by
    rw [lib.parse_dump uploadJson (transfer_proper .null transferred)] at reparsed
    exact (Option.some.inj reparsed).symm
  subst same
  obtain ⟨v, converted, collected⟩ := transfer_lookup_self transferred (by decide)
    (by simp [stationFields] : ("log_file", FieldType.text) ∈ stationFields)
  obtain ⟨log, rfl, named⟩ := FieldType.convert_text_ok converted
  have present : stationConf.contains "station_conf" = true := by
    obtain ⟨member, there, _⟩ := Option.bind_eq_some_iff.mp collected
    rw [Json.contains, there, Option.isSome_some]
  rw [if_pos present]
  refine (throwing_ends _ _).imp ?_ fun _ _ stop => stop
  rintro path _ ⟨rfl, read⟩
  obtain ⟨j, indexed, isText⟩ := except_bind_eq_ok.mp read
  have collected : stationConf.lookup ["station_conf", "log_file"] = some (.str log) := collected
  rw [Json.eq_of_indexPath_eq_ok indexed, collected] at isText
  cases isText
  exact ⟨rfl, localJson, settings, named⟩

/-- A file that is opened is there, or it is made. -/
theorem openLogFile_ends (logPath : String) :
    Ends (openLogFile sys logPath) g
      (fun rc g' => (rc = -1 ∧ g'.files = g.files) ∨ rc = 0 ∧
        g.folders (sys.place logPath) = false ∧
        g'.files = Function.update g.files (sys.place logPath)
          (some ((g.files (sys.place logPath)).getD [])))
      fun _ _ => False := by
  apply ends_bind
  apply ends_get
  split
  next opened =>
    apply ends_bind
    apply ends_modify
    exact ends_pure (.inr ⟨rfl, Bool.eq_false_iff.mpr opened.2, rfl⟩)
  · exact ends_pure (.inl ⟨rfl, rfl⟩)

/-- The log file is made where it is not there; nothing else becomes a file. -/
theorem stationCreateLogFile_ends :
    Ends (stationCreateLogFile lib sys) g
      (fun rc g' => (rc = -1 ∧ g'.files = g.files) ∨ rc = 0 ∧ ∃ log, LogFile lib g log ∧
        g'.files = if g.Has (sys.place log) then g.files
          else Function.update g.files (sys.place log) (some []))
      fun _ g' => g'.files = g.files := by
  refine ends_bind ((stationLogPath_ends lib g).imp ?_ fun _ _ stop => by rw [stop])
  rintro log g ⟨rfl, named⟩
  apply ends_bind
  apply ends_get
  -- A new folder is no file, and whatever is there is not a folder once the file is open.
  have opened {g₁ : Gateway} (files : g₁.files = g.files)
      (folders : ∀ path, g.folders path = true → g₁.folders path = true) :
      Ends (openLogFile sys log) g₁
        (fun rc g' => (rc = -1 ∧ g'.files = g.files) ∨ rc = 0 ∧ ∃ log, LogFile lib g log ∧
          g'.files = if g.Has (sys.place log) then g.files
            else Function.update g.files (sys.place log) (some []))
        fun _ g' => g'.files = g.files := by
    refine (openLogFile_ends sys g₁ log).imp ?_ fun _ _ stop => stop.elim
    rintro rc g' (⟨failed, same⟩ | ⟨zero, noFolder, made⟩)
    · exact .inl ⟨failed, same.trans files⟩
    · refine .inr ⟨zero, log, named, ?_⟩
      rw [made, files]
      split
      next there =>
        rcases there with file | folder
        · obtain ⟨content, here⟩ := Option.isSome_iff_exists.mp file
          rw [here, Option.getD_some, ← here, Function.update_eq_self]
        · rw [folders _ folder] at noFolder
          cases noFolder
      next absent =>
        rw [Gateway.Has, not_or, Option.not_isSome_iff_eq_none] at absent
        rw [absent.1]
        rfl
  split
  · exact ends_pure (.inl ⟨rfl, rfl⟩)
  · split
    next there => exact ends_pure (.inr ⟨rfl, log, named, by rw [if_pos there.2.2]⟩)
    next absent =>
      split
      · exact ends_pure (.inl ⟨rfl, rfl⟩)
      next folder _ =>
        split
        · exact opened rfl fun _ here => here
        · split
          · apply ends_bind
            apply ends_modify
            refine opened rfl fun path here => ?_
            dsimp only
            rw [Function.update_apply]
            split
            · rfl
            · exact here
          · exact ends_pure (.inl ⟨rfl, rfl⟩)

end

/-! ### The whole request -/

/-- What the mode `BAST` does to the files: with the code -1, the tables are what has been copied;
with the code 0, so they are but for a log file that has been made, and the mode is recorded. -/
structure BastSet (lib : JsonText) (sys : System) (stationMode authMode : Int32) (g : Gateway)
    (rc : Int) (g' : Gateway) : Prop where
  code : rc = 0 ∨ rc = -1
  failed : rc = -1 → (∀ path ∈ authTables,
      g'.files path = provided sys g (requiredFiles stationMode authMode) path) ∧
    g'.files lorawanModeConfDefault = g.files lorawanModeConfDefault
  complete : rc = 0 → ∀ file ∈ requiredFiles stationMode authMode, g.Has file
  recorded : rc = 0 →
    g'.files lorawanModeConfDefault = some (lib.dump (bastJson stationMode authMode) ++ [10])
  installed : rc = 0 → ∃ log, LogFile lib g log ∧ ∀ path ∈ authTables,
    let copy := provided sys g (requiredFiles stationMode authMode) path
    g'.files path = if path = sys.place log ∧ copy = none ∧ blocked sys g path = false then some []
      else copy

theorem mode_not_in_tables : lorawanModeConfDefault ∉ authTables := by
  simp [lorawanModeConfDefault, authTables, authLnsTb, authCupsTb]

theorem settings_not_in_tables : stationConfDefault ∉ authTables := by
  simp [stationConfDefault, authTables, authLnsTb, authCupsTb]

/-- The last step: the log file may have been made, and the mode is recorded. -/
theorem bastSet_of_recorded {lib : JsonText} {sys : System} {stationMode authMode : Int32}
    {g g₁ g₂ g' : Gateway} {log : String}
    (authenticated : Authenticated sys (requiredFiles stationMode authMode) g 0 g₁)
    (folders₂ : g₂.folders = g₁.folders)
    (files₂ : ∀ path, path ≠ stationConfDefault → g₂.files path = g₁.files path)
    (named : LogFile lib g₁ log)
    (recorded : g'.files lorawanModeConfDefault =
      some (lib.dump (bastJson stationMode authMode) ++ [10]))
    (files : ∀ path, path ≠ lorawanModeConfDefault → g'.files path =
      (if g₂.Has (sys.place log) then g₂.files
        else Function.update g₂.files (sys.place log) (some [])) path) :
    BastSet lib sys stationMode authMode g 0 g' := by
  refine ⟨.inl rfl, by simp, fun _ => authenticated.complete.mp rfl, fun _ => recorded, fun _ =>
    ⟨log, ?_, ?_⟩⟩
  · obtain ⟨j, ⟨text, here, read⟩, there⟩ := named
    rw [authenticated.others _ settings_not_in_tables] at here
    exact ⟨j, ⟨text, here, read⟩, there⟩
  · intro path member
    have tables (path : String) (member : path ∈ authTables) :
        g₂.files path = provided sys g (requiredFiles stationMode authMode) path := by
      rw [files₂ path (fun equal => settings_not_in_tables (equal ▸ member))]
      exact authenticated.tables path member
    rw [files path (fun equal => mode_not_in_tables (equal ▸ member))]
    dsimp only
    by_cases here : path = sys.place log
    · subst here
      have now := tables _ member
      have folder := (congrFun folders₂ _).trans (authenticated.folders _ member)
      have has : g₂.Has (sys.place log) ↔
          (provided sys g (requiredFiles stationMode authMode) (sys.place log)).isSome = true ∨
            blocked sys g (sys.place log) = true := by
        rw [Gateway.Has, now, folder]
      by_cases there : g₂.Has (sys.place log)
      · rw [if_pos there, now, if_neg]
        rintro ⟨-, none, free⟩
        rw [has, none, free] at there
        simp at there
      · rw [if_neg there, Function.update_self, if_pos]
        rw [has, not_or, Option.not_isSome_iff_eq_none, Bool.not_eq_true] at there
        exact ⟨rfl, there⟩
    · have kept : (if g₂.Has (sys.place log) then g₂.files
          else Function.update g₂.files (sys.place log) (some [])) path = g₂.files path := by
        split
        · rfl
        · exact Function.update_of_ne here _ _
      simp [kept, here, tables path member]

theorem setBast_ends (lib : JsonText) (sys : System) (stationMode authMode : Int32) (g : Gateway) :
    Ends (setBast lib sys stationMode authMode) g
      (fun answer g' => BastSet lib sys stationMode authMode g answer.1 g')
      fun _ g' => BastSet lib sys stationMode authMode g (-1) g' := by
  -- A failure leaves the tables as they are after the authentication.
  have fails {g₁ g' : Gateway} {rc : Int}
      (authenticated : Authenticated sys (requiredFiles stationMode authMode) g rc g₁)
      (same : ∀ path, path ≠ stationConfDefault → g'.files path = g₁.files path) :
      BastSet lib sys stationMode authMode g (-1) g' := by
    refine ⟨.inr rfl, fun _ => ⟨?_, ?_⟩, by simp, by simp, by simp⟩
    · intro path member
      rw [same path (fun equal => settings_not_in_tables (equal ▸ member))]
      exact authenticated.tables path member
    · rw [same _ (by decide)]
      exact authenticated.others _ mode_not_in_tables
  refine ends_bind ((stationAuthModeHandle_ends sys stationMode authMode g).imp ?_
    fun _ _ stop => stop.elim)
  intro rc g₁ authenticated
  split
  · apply ends_bind
    apply ends_get
    exact ends_pure (fails authenticated fun _ _ => rfl)
  next found =>
    have zero : rc = 0 := authenticated.code.resolve_right found
    refine ends_bind ((stationAdaptToSpidevPath_ends lib sys g₁).imp ?_ ?_)
    · rintro rc g₂ ⟨folders₂, files₂, adapted⟩
      -- Only the settings of the station have changed since then.
      split
      · exact ends_pure (fails authenticated files₂)
      next notNegative =>
        have log₂ : ∀ log, LogFile lib g₂ log → LogFile lib g₁ log := by
          rcases adapted with ⟨_, named⟩ | ⟨rfl, _⟩
          · exact named
          · exact absurd (by decide) notNegative
        refine ends_bind ((stationCreateLogFile_ends lib sys g₂).imp ?_ ?_)
        · rintro rc g₃ (⟨rfl, files₃⟩ | ⟨rfl, log, named, files₃⟩)
          · rw [if_pos (by decide)]
            exact ends_pure (fails authenticated fun path other => by rw [files₃, files₂ path other])
          · rw [if_neg (by decide)]
            apply ends_bind
            apply ends_modify
            apply ends_bind
            apply ends_modify
            apply ends_pure
            rw [zero] at authenticated
            apply bastSet_of_recorded authenticated folders₂ files₂ (log₂ log named)
            · exact g₃.setFile_files_self lorawanModeConfDefault _
            · intro path other
              exact (g₃.setFile_files_of_ne other _).trans (congrFun files₃ path)
        · intro _ g₃ files₃
          exact fails authenticated fun path other => by rw [files₃, files₂ path other]
    · rintro _ _ rfl
      exact fails authenticated fun _ _ => rfl

/-- The request asks for the mode `BAST`, with two integers for the modes of the station. -/
def BastRequest (lib : JsonText) (inputJson : Bytes) (stationMode authMode : Int32) : Prop :=
  ∃ j, lib.parse inputJson = some j ∧
    (j.indexPath ["body", "work_mode"] >>= Json.asString) = .ok "BAST" ∧
    (j.indexPath ["body", "station_mode"] >>= Json.asInt) = .ok stationMode ∧
    (j.indexPath ["body", "auth_mode"] >>= Json.asInt) = .ok authMode

theorem BastRequest.unique {lib : JsonText} {inputJson : Bytes} {a b c d : Int32}
    (first : BastRequest lib inputJson a b) (second : BastRequest lib inputJson c d) :
    a = c ∧ b = d := by
  obtain ⟨j, parse, _, station, auth⟩ := first
  obtain ⟨j', parse', _, station', auth'⟩ := second
  cases parse.symm.trans parse'
  exact ⟨Except.ok.inj (station.symm.trans station'), Except.ok.inj (auth.symm.trans auth')⟩

/-- What any request does: the mode `BAST`, or nothing to the tables. -/
def Handled (lib : JsonText) (sys : System) (inputJson : Bytes) (g : Gateway) (rc : Int)
    (g' : Gateway) : Prop :=
  (∃ stationMode authMode, BastRequest lib inputJson stationMode authMode ∧
    BastSet lib sys stationMode authMode g rc g') ∨
  (∀ stationMode authMode, ¬ BastRequest lib inputJson stationMode authMode) ∧
    (∀ path ∈ authTables, g'.files path = g.files path) ∧
    (rc = -1 → g'.files lorawanModeConfDefault = g.files lorawanModeConfDefault)

theorem workmodeSet_ends (lib : JsonText) (sys : System) (inputJson : Bytes) (g : Gateway) :
    Ends (workmodeSet lib sys inputJson) g
      (fun answer g' => Handled lib sys inputJson g answer.1 g')
      fun _ g' => Handled lib sys inputJson g (-1) g' := by
  have untouched {g' : Gateway} {rc : Int} (files : g'.files = g.files)
      (other : ∀ stationMode authMode, ¬ BastRequest lib inputJson stationMode authMode) :
      Handled lib sys inputJson g rc g' :=
    .inr ⟨other, fun path _ => congrFun files path, fun _ => congrFun files _⟩
  cases parse : lib.parse inputJson with
  | none =>
    apply ends_bind
    rw [parse]
    apply ends_raise
    apply untouched rfl
    rintro stationMode authMode ⟨j, here, _⟩
    rw [parse] at here
    cases here
  | some remoteJson =>
    apply ends_bind
    rw [parse]
    apply ends_pure
    -- Any request that is not for this mode, or without its two integers.
    have other (missing : ∀ stationMode authMode,
        ¬ ((remoteJson.indexPath ["body", "work_mode"] >>= Json.asString) = .ok "BAST" ∧
          (remoteJson.indexPath ["body", "station_mode"] >>= Json.asInt) = .ok stationMode ∧
          (remoteJson.indexPath ["body", "auth_mode"] >>= Json.asInt) = .ok authMode))
        (stationMode authMode : Int32) : ¬ BastRequest lib inputJson stationMode authMode := by
      rintro ⟨j, here, modes⟩
      cases parse.symm.trans here
      exact missing stationMode authMode modes
    apply ends_bind
    refine ends_throwing g ?_ fun throws _ =>
      untouched rfl (other fun _ _ modes => throws _ modes.1)
    intro workmode mode
    have otherMode (different : workmode ≠ "BAST") :
        ∀ stationMode authMode, ¬ BastRequest lib inputJson stationMode authMode :=
      other fun _ _ modes => different (Except.ok.inj (mode.symm.trans modes.1))
    split
    next unknown =>
      exact ends_pure (untouched rfl (otherMode fun same => unknown (by simp [same])))
    · split
      next bast =>
        subst bast
        apply ends_bind
        refine ends_throwing g ?_ fun throws _ =>
          untouched rfl (other fun _ _ modes => throws _ modes.2.1)
        intro stationMode station
        apply ends_bind
        refine ends_throwing g ?_ fun throws _ =>
          untouched rfl (other fun _ _ modes => throws _ modes.2.2)
        intro authMode auth
        have request : BastRequest lib inputJson stationMode authMode :=
          ⟨remoteJson, parse, mode, station, auth⟩
        refine (setBast_ends lib sys stationMode authMode g).imp ?_ ?_
        · intro _ _ set
          exact .inl ⟨_, _, request, set⟩
        · intro _ _ set
          exact .inl ⟨_, _, request, set⟩
      next notBast =>
        split
        · apply ends_bind
          apply ends_modify
          exact ends_pure (untouched rfl (otherMode notBast))
        · split
          · apply ends_bind
            apply ends_modify
            exact ends_pure (untouched rfl (otherMode notBast))
          · apply ends_bind
            apply ends_modify
            apply ends_bind
            apply ends_modify
            apply ends_pure
            refine .inr ⟨otherMode notBast, ?_, by simp⟩
            -- The other modes are recorded in a file that is in no table.
            intro path member
            have different : path ≠ lorawanModeConfDefault := fun same =>
              mode_not_in_tables (same ▸ member)
            exact g.setFile_files_of_ne different _

/-- What the work mode request does, with its exceptions caught. -/
theorem mainLorawanWorkmodeSet_ends (lib : JsonText) (sys : System) (inputJson : Bytes)
    (g : Gateway) :
    Ends (mainLorawanWorkmodeSet lib sys inputJson) g
      (fun answer g' => Handled lib sys inputJson g answer.1 g') fun _ _ => False := by
  apply ends_tryCatch
  refine (workmodeSet_ends lib sys inputJson g).imp (fun _ _ handled => handled) ?_
  intro _ g' handled
  rw [if_pos rfl]
  exact ends_pure handled

end LorawanFeeds.Cgi
