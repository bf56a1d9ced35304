import LorawanFeeds.Lib.JsonCodec
import LorawanFeeds.Lib.TomlCodec
import LorawanFeeds.Cgi.TomlSet

/-!
# Requests that fail, and files that are damaged

When a request that is not accepted has removed nothing, and what becomes of a file that is valid
TOML but has not all keys of the configuration.
-/
namespace LorawanFeeds.Cgi

open Lib Bridge Proc

/-! ### What the removals leave -/

def certificateFolders : List String := [bridgeCafilePath, bridgeCertfilePath, bridgeKeyfilePath]

/-- There is a file that has to go: the folder can be opened, the path is one in it, and there is
another regular file. -/
def Removes (disk : BridgeDisk) (folder path : String) : Prop :=
  path ≠ "" ∧ containsText path folder ∧ ∃ entries, disk.folders folder = some entries ∧
    ∃ e ∈ entries, e.regular = true ∧ folder ++ "/" ++ e.name ≠ path

theorem removeOthers_folders_of_ne (disk : BridgeDisk) (certificate : String × String)
    {folder : String} (other : folder ≠ certificate.1) :
    (removeOthers disk certificate).folders folder = disk.folders folder := by
  rw [removeOthers]
  split
  · rfl
  · rw [removeFilesFromDirExceptInput]
    split
    · split
      · exact Function.update_of_ne other _ _
      · rfl
    · rfl

theorem removeOthers_conf (disk : BridgeDisk) (certificate : String × String) :
    (removeOthers disk certificate).conf = disk.conf := by
  rw [removeOthers]
  split
  · rfl
  · rw [removeFilesFromDirExceptInput]
    split
    · split <;> rfl
    · rfl

theorem removeOthers_folders_self (disk : BridgeDisk) (folder path : String) :
    (removeOthers disk (folder, path)).folders folder = disk.folders folder ↔
      ¬ Removes disk folder path := by
  rw [removeOthers]
  by_cases empty : path = ""
  · simp [empty, Removes]
  · rw [if_neg empty, removeFilesFromDirExceptInput]
    by_cases inside : containsText path folder
    · rw [if_pos inside]
      cases opened : disk.folders folder with
      | none => simp [Removes, opened]
      | some entries =>
        simp only [Function.update_self, Option.some.injEq, keptEntries, List.filter_eq_self,
          decide_eq_true_eq]
        constructor
        · rintro kept ⟨_, _, entries', there, e, member, gone⟩
          cases opened.symm.trans there
          exact kept e member gone
        · intro kept e member gone
          exact kept ⟨empty, inside, entries, opened, e, member, gone⟩
    · simp [inside, Removes]

theorem foldl_removeOthers_conf (certificates : List (String × String)) (disk : BridgeDisk) :
    (certificates.foldl removeOthers disk).conf = disk.conf := by
  induction certificates generalizing disk with
  | nil => rfl
  | cons certificate certificates ih =>
    rw [List.foldl_cons, ih, removeOthers_conf]

theorem foldl_removeOthers_folders_of_notMem (certificates : List (String × String))
    (disk : BridgeDisk) {folder : String} (other : folder ∉ certificates.map Prod.fst) :
    (certificates.foldl removeOthers disk).folders folder = disk.folders folder := by
  induction certificates generalizing disk with
  | nil => rfl
  | cons certificate certificates ih =>
    rw [List.map_cons, List.mem_cons, not_or] at other
    rw [List.foldl_cons, ih _ other.2, removeOthers_folders_of_ne disk certificate other.1]

/-- Nothing is removed if no certificate has a file to remove in its own folder. -/
theorem foldl_removeOthers_folders (certificates : List (String × String)) (disk : BridgeDisk)
    (apart : (certificates.map Prod.fst).Nodup) :
    (∀ folder ∈ certificates.map Prod.fst,
      (certificates.foldl removeOthers disk).folders folder = disk.folders folder) ↔
    ∀ certificate ∈ certificates, ¬ Removes disk certificate.1 certificate.2 := by
  induction certificates generalizing disk with
  | nil => simp
  | cons certificate certificates ih =>
    obtain ⟨folder, path⟩ := certificate
    rw [List.map_cons, List.nodup_cons] at apart
    have later (other : String) (member : other ∈ certificates.map Prod.fst) :
        (removeOthers disk (folder, path)).folders other = disk.folders other :=
      removeOthers_folders_of_ne disk _ fun same => apart.1 (same ▸ member)
    have unchanged : (∀ c ∈ certificates, ¬ Removes (removeOthers disk (folder, path)) c.1 c.2) ↔
        ∀ c ∈ certificates, ¬ Removes disk c.1 c.2 := by
      refine forall₂_congr fun c member => ?_
      rw [Removes, Removes, later c.1 (List.mem_map_of_mem member)]
    rw [List.forall_mem_cons, List.map_cons, List.forall_mem_cons, ← unchanged, ← ih _ apart.2,
      ← removeOthers_folders_self, List.foldl_cons,
      foldl_removeOthers_folders_of_notMem _ _ apart.1]
    refine and_congr Iff.rfl (forall₂_congr fun other member => ?_)
    rw [later other member]

/-! ### The certificates of a request -/

theorem certificateStage_folders (remoteJson : Json) (fields : List RemoteField)
    (folder key : String) {rest : List (String × String)} {folders : List String}
    (sub : (rest.map Prod.fst).Sublist folders) :
    ((certificateStage remoteJson fields folder key rest).map Prod.fst).Sublist
      (folder :: folders) := by
  rw [certificateStage]
  split
  · exact sub.cons_cons folder
  · exact List.nil_sublist _

theorem certificatesOf_folders (json : JsonText) (option : String) (inputJson : Bytes) :
    ((certificatesOf json option inputJson).map Prod.fst).Sublist certificateFolders := by
  have integration (remoteJson : Json) :
      ((integrationCertificates remoteJson).map Prod.fst).Sublist certificateFolders := by
    rw [integrationCertificates]
    split
    · exact certificateStage_folders _ _ _ _ (certificateStage_folders _ _ _ _
        (certificateStage_folders _ _ _ _ (List.nil_sublist _)))
    · exact List.nil_sublist _
  rw [certificatesOf]
  cases json.parse inputJson with
  | none => exact List.nil_sublist _
  | some remoteJson =>
    rw [Option.elim_some, requestCertificates]
    split
    · split
      · exact integration remoteJson
      · exact List.nil_sublist _
    · split
      · exact integration remoteJson
      · exact List.nil_sublist _

theorem certificateFolders_nodup : certificateFolders.Nodup := by
  simp [certificateFolders, bridgeCafilePath, bridgeCertfilePath, bridgeKeyfilePath]

/-! ### A request that fails -/

/-- A request that fails has changed nothing, unless a certificate before the field that it fails at
has had other files removed. -/
theorem failed_set_changes_nothing (json : JsonText) (toml : TomlText) (u : Uninitialised)
    (option : String) (inputJson : Bytes) (disk disk' : BridgeDisk) (rsp : String)
    (failed : mainTomlSet json toml u option inputJson disk = (.ok (-1, rsp), disk')) :
    (disk'.conf = disk.conf ∧
      ∀ folder ∈ certificateFolders, disk'.folders folder = disk.folders folder) ↔
    ∀ certificate ∈ certificatesOf json option inputJson,
      ¬ Removes disk certificate.1 certificate.2 := by
  have sub := certificatesOf_folders json option inputJson
  have apart := certificateFolders_nodup.sublist sub
  obtain ⟨data, valid⟩ := conf_of_mainTomlSet failed
  rcases (mainTomlSet_ends json u option inputJson valid).of_eq_ok failed with
    ⟨zero, _⟩ | ⟨_, _, rfl⟩
  · cases zero
  · rw [foldl_removeOthers_conf, ← foldl_removeOthers_folders _ disk apart]
    constructor
    · rintro ⟨-, kept⟩ folder member
      exact kept folder (sub.subset member)
    · intro kept
      refine ⟨rfl, fun folder _ => ?_⟩
      by_cases touched : folder ∈ (certificatesOf json option inputJson).map Prod.fst
      · exact kept folder touched
      · exact foldl_removeOthers_folders_of_notMem _ _ touched

/-! ### A damaged file -/

/-- With a file that is valid TOML but damaged, a request is rejected only for reasons of its own. -/
theorem damaged_outcome (json : JsonText) {toml : TomlText} {u : Uninitialised} (option : String)
    (inputJson : Bytes) {disk : BridgeDisk} {data : Toml}
    (valid : disk.conf.bind toml.parse = some data)
    (damaged : (parseTomlSections data ⟨.initial u, disk⟩).1 = .error .thrown) :
    ∃ rc rsp disk', mainTomlSet json toml u option inputJson disk = (.ok (rc, rsp), disk') ∧
      (rc = 0 ∧ AcceptsRequest json option inputJson ∨
        rc = -1 ∧ ¬ AcceptsRequest json option inputJson ∧
          disk' = (certificatesOf json option inputJson).foldl removeOthers disk) := by
  have read : (parseTomlForEach data ⟨.initial u, disk⟩).1 = .ok () := by
    cases ran : parseTomlSections data ⟨.initial u, disk⟩ with
    | mk result p =>
      rw [ran] at damaged
      cases damaged
      simp [parseTomlForEach, Proc.tryCatch, ran]
  have returns : Ends (mainTomlSet json toml u option inputJson) disk _ fun _ _ => False :=
    (mainTomlSet_ends json u option inputJson valid).imp (fun _ _ done => done) (by simp [read])
  obtain ⟨⟨rc, rsp⟩, disk', returned, outcome⟩ := returns.returns
  refine ⟨rc, rsp, disk', returned, ?_⟩
  rcases outcome with ⟨zero, remoteJson, _, parse, _, accepts, _⟩ | rejected
  · exact .inl ⟨zero, remoteJson, parse, accepts⟩
  · exact .inr rejected

/-- The file is kept only by a request that is rejected: any other is written together with what
has been read up to the damage. -/
theorem damaged_file_kept (json : JsonText) (toml : TomlText) (u : Uninitialised)
    (option : String) (inputJson : Bytes) (disk : BridgeDisk) (data : Toml)
    (valid : disk.conf.bind toml.parse = some data)
    (damaged : (parseTomlSections data ⟨.initial u, disk⟩).1 = .error .thrown) :
    ((∃ rsp, (mainTomlSet json toml u option inputJson disk).1 = .ok (-1, rsp)) ∧
      (mainTomlSet json toml u option inputJson disk).2.conf = disk.conf) ↔
    ¬ AcceptsRequest json option inputJson := by
  obtain ⟨rc, rsp, disk', returned, outcome⟩ := damaged_outcome json option inputJson valid damaged
  rw [returned]
  rcases outcome with ⟨rfl, accepts⟩ | ⟨rfl, rejected, rfl⟩
  · constructor
    · rintro ⟨⟨_, code⟩, _⟩
      cases code
    · intro rejected
      exact absurd accepts rejected
  · constructor
    · intro _
      exact rejected
    · intro _
      exact ⟨⟨rsp, rfl⟩, foldl_removeOthers_conf _ _⟩

/-- A file with nothing but the level of the log. -/
def damagedLines : List TomlLine := [.header ["general"], .entry "log_level" (.number 4)]

def damagedDisk (folders : String → Option (List DirEntry)) : BridgeDisk :=
  ⟨some (damagedLines.map TomlLine.write), folders⟩

def damagedData : Toml := .table [("general", .table [("log_level", .integer 4)])]

theorem damagedDisk_valid (folders : String → Option (List DirEntry)) :
    (damagedDisk folders).conf.bind TomlCodec.text.parse = some damagedData := by
  have formed : TomlLine.WellFormed damagedLines := by
    constructor
    · decide
    · decide
    · decide
    · simp [damagedLines]
  exact TomlCodec.text.parse_lines damagedLines formed

theorem damagedData_damaged (u : Uninitialised) (disk : BridgeDisk) :
    (parseTomlSections damagedData ⟨.initial u, disk⟩).1 = .error .thrown := rfl

def levelRequest : Json := Json.null.put ["body", "log_level"] (.uint 5)

/-- A request for the level of the log is written, and with it an empty configuration. -/
theorem damaged_file_not_kept :
    ¬ ∀ (json : JsonText) (toml : TomlText) (u : Uninitialised) (option : String)
      (inputJson : Bytes) (disk : BridgeDisk) (data : Toml),
      disk.conf.bind toml.parse = some data →
      (parseTomlSections data ⟨.initial u, disk⟩).1 = .error .thrown →
      (∃ rsp, (mainTomlSet json toml u option inputJson disk).1 = .ok (-1, rsp)) ∧
        (mainTomlSet json toml u option inputJson disk).2.conf = disk.conf := by
  intro kept
  let u : Uninitialised := ⟨false, false, false⟩
  have valid := damagedDisk_valid fun _ => none
  have damaged := damagedData_damaged u (damagedDisk fun _ => none)
  obtain ⟨rc, rsp, disk', returned, outcome⟩ := damaged_outcome JsonCodec.text
    "cgicpp-toml-general-set" (JsonCodec.text.dump levelRequest) valid damaged
  obtain ⟨⟨_, code⟩, _⟩ := kept _ _ _ _ _ _ _ valid damaged
  rw [returned] at code
  rcases outcome with ⟨rfl, _⟩ | ⟨_, rejected, _⟩
  · cases code
  · refine rejected ⟨levelRequest, JsonCodec.text.parse_dump _ ?_, ?_⟩
    · exact Json.Proper.null.put (.uint _) _
    · rw [requestFields, if_neg (by simp [containsText, List.infix_cons_iff])]
      decide

/-- A request that names the level of the log wrongly. -/
def misspeltRequest : Json := Json.null.put ["body", "loglevel"] (.uint 5)

theorem misspeltRequest_rejected :
    ¬ AcceptsRequest JsonCodec.text "cgicpp-toml-general-set"
      (JsonCodec.text.dump misspeltRequest) := by
  rintro ⟨remoteJson, parse, accepts⟩
  have proper : misspeltRequest.Proper JsonCodec.text.finite := Json.Proper.null.put (.uint _) _
  rw [JsonCodec.text.parse_dump _ proper] at parse
  cases parse
  rw [requestFields, if_neg (by simp [containsText, List.infix_cons_iff])] at accepts
  revert accepts
  decide

/-- The request is JSON, but lacks the field that the section reads. -/
theorem damaged_file_kept_misspelt :
    let run := mainTomlSet JsonCodec.text TomlCodec.text ⟨false, false, false⟩
      "cgicpp-toml-general-set" (JsonCodec.text.dump misspeltRequest) (damagedDisk fun _ => none)
    (∃ rsp, run.1 = .ok (-1, rsp)) ∧ run.2.conf = (damagedDisk fun _ => none).conf := by
  apply (damaged_file_kept _ _ _ _ _ _ _ (damagedDisk_valid _) (damagedData_damaged _ _)).mpr
  exact misspeltRequest_rejected

/-! ### Certificates that are lost -/

/-- A request for the authentication with certificates that ends after the first of them. -/
def certificateRequest (path : String) : Json :=
  (((((((((((Json.null.put ["body", "mqtt", "command_topic_template"] (.str "")).put
    ["body", "mqtt", "event_topic_template"] (.str "")).put
    ["body", "mqtt", "max_reconnect_interval"] (.uint 60)).put
    ["body", "marshaler"] (.str "json")).put ["body", "mqtt_auth_type"] (.str "generic")).put
    ["body", "generic", "clean_session"] (.bool true)).put
    ["body", "generic", "client_id"] (.str "")).put
    ["body", "generic", "ip"] (.str "10.0.0.1")).put ["body", "generic", "password"] (.str "")).put
    ["body", "generic", "port"] (.uint 1883)).put ["body", "generic", "qos"] (.uint 0)).put
    ["body", "generic", "ca_cert"] (.str path)

theorem certificateRequest_proper (path : String) :
    (certificateRequest path).Proper JsonCodec.text.finite :=
  (((((((((((Json.Proper.null.put (.str _) _).put (.str _) _).put (.uint _) _).put (.str _) _).put
    (.str _) _).put (.bool _) _).put (.str _) _).put (.str _) _).put (.str _) _).put
    (.uint _) _).put (.uint _) _).put (.str _) _

theorem certificateRequest_rejected (path : String) :
    ¬ AcceptsRequest JsonCodec.text "cgicpp-toml-integration-set"
      (JsonCodec.text.dump (certificateRequest path)) := by
  rintro ⟨remoteJson, parse, accepts⟩
  rw [JsonCodec.text.parse_dump _ (certificateRequest_proper path)] at parse
  cases parse
  have generic : authFields (certificateRequest path) =
      genericFields ++ [genericCertField] ++ [genericKeyField] ++ genericUserFields := if_pos rfl
  rw [requestFields, if_neg (by simp [containsText, List.infix_cons_iff]), sectionFields,
    if_neg (by decide), if_neg (by decide), if_neg (by decide), if_pos rfl, generic] at accepts
  have missing := accepts genericCertField (by simp)
  cases missing

theorem certificateRequest_certificates (path : String) :
    certificatesOf JsonCodec.text "cgicpp-toml-integration-set"
      (JsonCodec.text.dump (certificateRequest path)) = [(bridgeCafilePath, path)] := by
  rw [certificatesOf, JsonCodec.text.parse_dump _ (certificateRequest_proper path),
    Option.elim_some, requestCertificates, if_neg (by simp [containsText, List.infix_cons_iff]),
    if_pos rfl]
  rfl

/-- A folder with an old certificate. -/
def oldCertificate (folder : String) : Option (List DirEntry) :=
  if folder = bridgeCafilePath then some [⟨"old.pem", true, []⟩] else none

theorem oldCertificate_there : (damagedDisk oldCertificate).folders bridgeCafilePath =
    some [⟨"old.pem", true, []⟩] := by
  simp [damagedDisk, oldCertificate]

/-- The old certificate is gone, though the request has failed. -/
theorem failed_set_removes_certificate :
    ¬ ∀ (json : JsonText) (toml : TomlText) (u : Uninitialised) (option : String)
      (inputJson : Bytes) (disk disk' : BridgeDisk) (rsp : String),
      mainTomlSet json toml u option inputJson disk = (.ok (-1, rsp), disk') →
      disk'.conf = disk.conf ∧
        ∀ folder ∈ certificateFolders, disk'.folders folder = disk.folders folder := by
  intro kept
  let path := bridgeCafilePath ++ "/new.pem"
  obtain ⟨rc, rsp, disk', returned, outcome⟩ := damaged_outcome JsonCodec.text
    "cgicpp-toml-integration-set" (JsonCodec.text.dump (certificateRequest path))
    (damagedDisk_valid oldCertificate) (damagedData_damaged ⟨false, false, false⟩ _)
  rcases outcome with ⟨_, accepts⟩ | ⟨rfl, _, left⟩
  · exact certificateRequest_rejected path accepts
  · have same := (kept _ _ _ _ _ _ _ _ returned).2 bridgeCafilePath (by simp [certificateFolders])
    rw [left, certificateRequest_certificates, List.foldl_cons, List.foldl_nil] at same
    have removes : Removes (damagedDisk oldCertificate) bridgeCafilePath path := by
      refine ⟨by decide, ?_, _, oldCertificate_there, _, List.mem_singleton_self _, rfl, by decide⟩
      rw [containsText, String.toList_append]
      exact (List.prefix_append _ _).isInfix
    exact (removeOthers_folders_self _ _ _).mp same removes

/-- A request that names the certificate in place fails, and keeps it. -/
theorem failed_set_changes_nothing_same_file :
    ∃ rsp disk', mainTomlSet JsonCodec.text TomlCodec.text ⟨false, false, false⟩
        "cgicpp-toml-integration-set"
        (JsonCodec.text.dump (certificateRequest (bridgeCafilePath ++ "/old.pem")))
        (damagedDisk oldCertificate) = (.ok (-1, rsp), disk') ∧
      disk'.conf = (damagedDisk oldCertificate).conf ∧
      ∀ folder ∈ certificateFolders,
        disk'.folders folder = (damagedDisk oldCertificate).folders folder := by
  obtain ⟨rc, rsp, disk', returned, outcome⟩ := damaged_outcome JsonCodec.text
    "cgicpp-toml-integration-set"
    (JsonCodec.text.dump (certificateRequest (bridgeCafilePath ++ "/old.pem")))
    (damagedDisk_valid oldCertificate) (damagedData_damaged ⟨false, false, false⟩ _)
  rcases outcome with ⟨_, accepts⟩ | ⟨rfl, _, _⟩
  · exact absurd accepts (certificateRequest_rejected _)
  · refine ⟨rsp, disk', returned,
      (failed_set_changes_nothing _ _ _ _ _ _ _ _ returned).mpr ?_⟩
    rw [certificateRequest_certificates]
    rintro _ member ⟨_, _, entries, opened, e, inside, _, other⟩
    obtain rfl := List.mem_singleton.mp member
    rw [oldCertificate_there] at opened
    cases opened
    obtain rfl := List.mem_singleton.mp inside
    exact other (by decide)

end LorawanFeeds.Cgi
