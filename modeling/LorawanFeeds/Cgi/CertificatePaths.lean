import Mathlib.Data.List.Nodup
import LorawanFeeds.Lib.Paths
import LorawanFeeds.Cgi.TomlAtomicity

/-!
# The certificate in use

`remove_files_from_dir_except_input` looks for the folder anywhere in the path, and compares the
path with the folder, a slash and the name. Which spellings of a path keep the file it leads to.
-/
namespace LorawanFeeds.Cgi

open Lib Bridge Proc Paths

/-- An entry of a folder. -/
def Present (disk : BridgeDisk) (folder : String) (e : DirEntry) : Prop :=
  ∃ entries, disk.folders folder = some entries ∧ e ∈ entries

/-- What goes when a certificate is read. -/
def Goes (folder own : String) (e : DirEntry) : Prop :=
  own ≠ "" ∧ containsText own folder ∧ e.regular = true ∧ folder ++ "/" ++ e.name ≠ own

theorem present_removeOthers {disk : BridgeDisk} {folder own : String} {e : DirEntry} :
    Present (removeOthers disk (folder, own)) folder e ↔
      Present disk folder e ∧ ¬ Goes folder own e := by
  rw [removeOthers]
  by_cases empty : own = ""
  · simp [empty, Goes]
  · rw [if_neg empty, removeFilesFromDirExceptInput]
    by_cases inside : containsText own folder
    · rw [if_pos inside]
      cases opened : disk.folders folder with
      | none => simp [Present, opened]
      | some entries =>
        simp only [Present, Goes, Function.update_self, opened, Option.some.injEq, keptEntries,
          exists_eq_left', List.mem_filter, decide_eq_true_eq, ne_eq, empty, not_false_eq_true,
          inside, true_and]
    · simp [inside, Goes]

/-- A folder is cleaned up for its own certificate, and for no other. -/
theorem foldl_removeOthers_own {certificates : List (String × String)} (disk : BridgeDisk)
    (apart : (certificates.map Prod.fst).Nodup) {folder own : String}
    (member : (folder, own) ∈ certificates) :
    ∃ before : BridgeDisk, before.folders folder = disk.folders folder ∧
      (certificates.foldl removeOthers disk).folders folder =
        (removeOthers before (folder, own)).folders folder := by
  induction certificates generalizing disk with
  | nil => cases member
  | cons certificate certificates ih =>
    rw [List.map_cons, List.nodup_cons] at apart
    rw [List.foldl_cons]
    rcases List.mem_cons.mp member with rfl | later
    · exact ⟨disk, rfl, foldl_removeOthers_folders_of_notMem _ _ apart.1⟩
    · have other : folder ≠ certificate.1 := by
        intro same
        exact apart.1 (same ▸ List.mem_map_of_mem (f := Prod.fst) later)
      obtain ⟨before, same, cleaned⟩ := ih (removeOthers disk certificate) apart.2 later
      exact ⟨before, same.trans (removeOthers_folders_of_ne disk certificate other), cleaned⟩

section

variable {certificates : List (String × String)} (disk : BridgeDisk)
variable (apart : (certificates.map Prod.fst).Nodup) {folder own : String}
variable (member : (folder, own) ∈ certificates)

include apart member

theorem present_foldl_iff (e : DirEntry) :
    Present (certificates.foldl removeOthers disk) folder e ↔
      Present disk folder e ∧ ¬ Goes folder own e := by
  obtain ⟨before, same, cleaned⟩ := foldl_removeOthers_own disk apart member
  have kept := @present_removeOthers before folder own e
  rwa [Present, ← cleaned, Present, same] at kept

theorem foldl_folders_own_iff :
    (certificates.foldl removeOthers disk).folders folder = disk.folders folder ↔
      ¬ Removes disk folder own := by
  obtain ⟨before, same, cleaned⟩ := foldl_removeOthers_own disk apart member
  have kept := removeOthers_folders_self before folder own
  rwa [← cleaned, Removes, same] at kept

end

/-! ### What a clean-up has to leave -/

/-- A path leads to an entry of a folder. -/
def Denotes (cwd : Place) (path folder : String) (e : DirEntry) : Prop :=
  path ≠ "" ∧ resolve cwd path.toList = resolve cwd folder.toList ++ [e.name.toList]

/-- A path leads to something in the folder or below it. -/
def LiesIn (cwd : Place) (path folder : String) : Prop :=
  path ≠ "" ∧ Below (resolve cwd folder.toList) (resolve cwd path.toList)

/-- Whatever a path of the request leads to is still there, and a folder that its own path does not
lie in has all its files. -/
structure Spared (cwd : Place) (certificates : List (String × String)) (disk disk' : BridgeDisk) :
    Prop where
  denoted : ∀ certificate ∈ certificates, ∀ folder ∈ certificateFolders, ∀ e,
    Denotes cwd certificate.2 folder e → Present disk folder e → Present disk' folder e
  outside : ∀ certificate ∈ certificates, ¬ LiesIn cwd certificate.2 certificate.1 →
    disk'.folders certificate.1 = disk.folders certificate.1

/-- Where a folder's own path has the name of the folder in it, every regular file of the folder
that a path of the request leads to is that path's, letter by letter, and if another file has to go,
the path does lie in the folder. -/
structure SpelledOut (cwd : Place) (certificates : List (String × String)) (disk : BridgeDisk) :
    Prop where
  file : ∀ own ∈ certificates, own.2 ≠ "" → containsText own.2 own.1 → ∀ e,
    Present disk own.1 e → e.regular = true →
    ∀ certificate ∈ certificates, Denotes cwd certificate.2 own.1 e →
      own.1 ++ "/" ++ e.name = own.2
  inside : ∀ own ∈ certificates, Removes disk own.1 own.2 → LiesIn cwd own.2 own.1

/-- The clean-up for a request with a certificate for each folder. -/
theorem spared_iff (cwd : Place) {certificates : List (String × String)} (disk : BridgeDisk)
    (folders : certificates.map Prod.fst = certificateFolders) :
    Spared cwd certificates disk (certificates.foldl removeOthers disk) ↔
      SpelledOut cwd certificates disk := by
  have apart : (certificates.map Prod.fst).Nodup := by
    rw [folders]
    exact certificateFolders_nodup
  constructor
  · intro spared
    constructor
    · intro own member some inside e there regular certificate other denotes
      have still := spared.denoted certificate other own.1
        (folders ▸ List.mem_map_of_mem member) e denotes there
      obtain ⟨-, kept⟩ := (present_foldl_iff disk apart member e).mp still
      by_contra different
      exact kept ⟨some, inside, regular, different⟩
    · intro own member removes
      by_contra elsewhere
      exact (foldl_folders_own_iff disk apart member).mp
        (spared.outside own member elsewhere) removes
  · intro spelled
    constructor
    · intro certificate other folder known e denotes there
      rw [← folders, List.mem_map] at known
      obtain ⟨own, member, rfl⟩ := known
      refine (present_foldl_iff disk apart member e).mpr ⟨there, ?_⟩
      rintro ⟨some, inside, regular, different⟩
      exact different
        (spelled.file own member some inside e there regular certificate other denotes)
    · intro certificate member elsewhere
      apply (foldl_folders_own_iff disk apart member).mpr
      intro removes
      exact elsewhere (spelled.inside certificate member removes)

/-! ### Requests -/

/-- The certificates of a request for generic authentication, each with its folder. -/
def genericPaths (remoteJson : Json) : List (String × String) := [
  (bridgeCafilePath, (textAt remoteJson ["generic", "ca_cert"]).getD ""),
  (bridgeCertfilePath, (textAt remoteJson ["generic", "tls_cert"]).getD ""),
  (bridgeKeyfilePath, (textAt remoteJson ["generic", "tls_key"]).getD "")]

theorem genericPaths_nodup (remoteJson : Json) : ((genericPaths remoteJson).map Prod.fst).Nodup :=
  certificateFolders_nodup

/-- A request that is accepted gets as far as its last certificate. -/
theorem requestCertificates_generic {remoteJson : Json} {option : String}
    (integration : option = "cgicpp-toml-integration-set" ∨ containsText option "all")
    (generic : textAt remoteJson ["mqtt_auth_type"] = some "generic")
    (accepts : Accepts remoteJson (requestFields remoteJson option)) :
    requestCertificates remoteJson option = genericPaths remoteJson := by
  have whole (accepts : Accepts remoteJson (mqttFields ++ authFields remoteJson)) :
      integrationCertificates remoteJson = genericPaths remoteJson := by
    rw [authFields, if_pos generic] at accepts
    simp only [accepts_append] at accepts
    obtain ⟨mqtt, ⟨⟨first, second⟩, third⟩, _⟩ := accepts
    rw [integrationCertificates, if_pos ⟨mqtt, generic⟩, genericCertificates, certificateStage,
      if_pos first, certificateStage, if_pos second, certificateStage, if_pos third, genericPaths]
  rw [requestFields] at accepts
  rw [requestCertificates]
  by_cases all : containsText option "all"
  · rw [if_pos all] at accepts ⊢
    obtain ⟨before, rest⟩ := (accepts_append remoteJson _ _).mp accepts
    rw [if_pos before, whole rest]
  · rw [if_neg all] at accepts ⊢
    obtain rfl := integration.resolve_right all
    rw [if_pos rfl]
    exact whole accepts

/-- What an accepted request leaves in the folders. -/
theorem mainTomlSet_folders {json : JsonText} {toml : TomlText} {u : Uninitialised}
    {option : String} {inputJson : Bytes} {disk disk' : BridgeDisk} {rsp : String}
    {remoteJson : Json}
    (returned : mainTomlSet json toml u option inputJson disk = (.ok (0, rsp), disk'))
    (parsed : json.parse inputJson = some remoteJson)
    (integration : option = "cgicpp-toml-integration-set" ∨ containsText option "all")
    (generic : textAt remoteJson ["mqtt_auth_type"] = some "generic") :
    disk'.folders = ((genericPaths remoteJson).foldl removeOthers disk).folders := by
  obtain ⟨data, valid⟩ := conf_of_mainTomlSet returned
  rcases (mainTomlSet_ends json u option inputJson valid).of_eq_ok returned with
    ⟨_, request, _, same, _, accepts, rfl⟩ | ⟨code, _⟩
  · obtain rfl := Option.some.inj (parsed.symm.trans same)
    rw [← requestCertificates_generic integration generic accepts]
  · cases code

/-! ### Paths as they are built -/

/-- The folders are three different places. -/
theorem resolve_certificateFolders_nodup (cwd : Place) :
    (certificateFolders.map fun folder => resolve cwd folder.toList).Nodup := by
  have places : certificateFolders.map (fun folder => resolve cwd folder.toList) =
      [["etc", "ssl", "gw", "bridge_cafile"], ["etc", "ssl", "gw", "bridge_certfile"],
        ["etc", "ssl", "gw", "bridge_keyfile"]].map (List.map String.toList) := rfl
  rw [places]
  decide

/-- A path that is the folder, a slash and a name, as the clean-up builds it, is spelled out. -/
theorem spelledOut_of_plain (cwd : Place) {certificates : List (String × String)}
    (disk : BridgeDisk) (folders : certificates.map Prod.fst = certificateFolders)
    (plain : ∀ certificate ∈ certificates, ∃ name : String, Plain name.toList ∧
      certificate.2 = certificate.1 ++ "/" ++ name) :
    SpelledOut cwd certificates disk := by
  have leads (certificate : String × String) (member : certificate ∈ certificates) :
      ∃ name : String, certificate.2 = certificate.1 ++ "/" ++ name ∧
        resolve cwd certificate.2.toList = resolve cwd certificate.1.toList ++ [name.toList] := by
    obtain ⟨name, whole, same⟩ := plain certificate member
    have known : certificate.1 ∈ certificateFolders := folders ▸ List.mem_map_of_mem member
    have some : certificate.1.toList ≠ [] := by
      intro empty
      rw [certificateFolders, String.toList_eq_nil_iff.mp empty] at known
      simp [bridgeCafilePath, bridgeCertfilePath, bridgeKeyfilePath] at known
    have parts : certificate.2.toList = certificate.1.toList ++ '/' :: name.toList := by
      simp [same]
    refine ⟨name, same, ?_⟩
    rw [parts, resolve_append cwd some whole]
  constructor
  · rintro own member - - e - - certificate other ⟨-, denotes⟩
    obtain ⟨name, same, place⟩ := leads certificate other
    obtain ⟨place, name'⟩ := List.append_inj' (place.symm.trans denotes) rfl
    have folder : certificate.1 = own.1 :=
      List.inj_on_of_nodup_map (resolve_certificateFolders_nodup cwd)
        (folders ▸ List.mem_map_of_mem other) (folders ▸ List.mem_map_of_mem member) place
    obtain rfl : certificate = own :=
      List.inj_on_of_nodup_map (folders ▸ certificateFolders_nodup) other member folder
    rw [same, String.toList_injective (List.cons.inj name').1]
  · rintro own member ⟨some, -⟩
    obtain ⟨name, -, place⟩ := leads own member
    refine ⟨some, ?_⟩
    rw [place]
    exact below_append _ _

/-! ### Certificates that are lost -/

/-- A request for the authentication with certificates, with all its fields. -/
def completeRequest (caCert : String) : Json :=
  ((((certificateRequest caCert).put ["body", "generic", "tls_cert"]
    (.str "/etc/ssl/gw/bridge_certfile/tls.pem")).put ["body", "generic", "tls_key"]
    (.str "/etc/ssl/gw/bridge_keyfile/tls.key")).put ["body", "generic", "username"] (.str "")).put
    ["body", "generic", "tls_pass_phrase"] (.str "")

theorem completeRequest_proper (caCert : String) :
    (completeRequest caCert).Proper JsonCodec.text.finite :=
  ((((certificateRequest_proper caCert).put (.str _) _).put (.str _) _).put (.str _) _).put
    (.str _) _

theorem completeRequest_generic (caCert : String) :
    textAt (completeRequest caCert) ["mqtt_auth_type"] = some "generic" := rfl

/-- The file of `oldCertificate`, as the clean-up spells it, and with a slash twice. -/
def oldSpellings : List String :=
  ["/etc/ssl/gw/bridge_cafile/old.pem", "/etc/ssl/gw/bridge_cafile//old.pem"]

theorem completeRequest_paths : ∀ caCert ∈ oldSpellings, genericPaths (completeRequest caCert) =
    [(bridgeCafilePath, caCert), (bridgeCertfilePath, "/etc/ssl/gw/bridge_certfile/tls.pem"),
      (bridgeKeyfilePath, "/etc/ssl/gw/bridge_keyfile/tls.key")] := by
  decide +kernel

theorem completeRequest_fields : ∀ caCert ∈ oldSpellings, ((mqttFields ++ (genericFields ++
    [genericCertField] ++ [genericKeyField] ++ genericUserFields)).all fun field =>
      (field.value (completeRequest caCert)).isSome) = true := by
  decide +kernel

theorem completeRequest_accepts {caCert : String} (known : caCert ∈ oldSpellings) :
    Accepts (completeRequest caCert)
      (requestFields (completeRequest caCert) "cgicpp-toml-integration-set") := by
  rw [requestFields, if_neg (by simp [containsText, List.infix_cons_iff]), sectionFields,
    if_neg (by decide), if_neg (by decide), if_neg (by decide), if_pos rfl, authFields,
    if_pos (completeRequest_generic caCert)]
  exact List.all_eq_true.mp (completeRequest_fields caCert known)

theorem completeRequest_returns {caCert : String} (known : caCert ∈ oldSpellings)
    (folders : String → Option (List DirEntry)) :
    ∃ rsp disk', mainTomlSet JsonCodec.text TomlCodec.text ⟨false, false, false⟩
      "cgicpp-toml-integration-set" (JsonCodec.text.dump (completeRequest caCert))
      (damagedDisk folders) = (.ok (0, rsp), disk') := by
  obtain ⟨rc, rsp, disk', returned, outcome⟩ := damaged_outcome JsonCodec.text
    "cgicpp-toml-integration-set" (JsonCodec.text.dump (completeRequest caCert))
    (damagedDisk_valid folders) (damagedData_damaged ⟨false, false, false⟩ _)
  rcases outcome with ⟨rfl, _⟩ | ⟨_, rejected, _⟩
  · exact ⟨rsp, disk', returned⟩
  · exact absurd ⟨_, JsonCodec.text.parse_dump _ (completeRequest_proper caCert),
      completeRequest_accepts known⟩ rejected

/-- The files that the paths of an accepted request lead to are spared when the paths are spelled
out. -/
theorem certificates_spared_iff (json : JsonText) (toml : TomlText) (u : Uninitialised)
    (option : String) (inputJson : Bytes) (disk disk' : BridgeDisk) (rsp : String)
    (remoteJson : Json) (cwd : Place)
    (returned : mainTomlSet json toml u option inputJson disk = (.ok (0, rsp), disk'))
    (parsed : json.parse inputJson = some remoteJson)
    (integration : option = "cgicpp-toml-integration-set" ∨ containsText option "all")
    (generic : textAt remoteJson ["mqtt_auth_type"] = some "generic") :
    Spared cwd (genericPaths remoteJson) disk disk' ↔
      SpelledOut cwd (genericPaths remoteJson) disk := by
  have folders := mainTomlSet_folders returned parsed integration generic
  rw [← spared_iff cwd disk rfl]
  constructor
  · rintro ⟨denoted, outside⟩
    simp only [Present, folders] at denoted outside
    exact ⟨denoted, outside⟩
  · rintro ⟨denoted, outside⟩
    constructor
    · simpa only [Present, folders] using denoted
    · simpa only [folders] using outside

/-- The path of the certificate in place, with a slash twice: the file is removed. -/
theorem certificates_not_spared :
    ¬ ∀ (json : JsonText) (toml : TomlText) (u : Uninitialised) (option : String)
      (inputJson : Bytes) (disk disk' : BridgeDisk) (rsp : String) (remoteJson : Json)
      (cwd : Place),
      mainTomlSet json toml u option inputJson disk = (.ok (0, rsp), disk') →
      json.parse inputJson = some remoteJson →
      option = "cgicpp-toml-integration-set" ∨ containsText option "all" →
      textAt remoteJson ["mqtt_auth_type"] = some "generic" →
      Spared cwd (genericPaths remoteJson) disk disk' := by
  intro spared
  let path := "/etc/ssl/gw/bridge_cafile//old.pem"
  have known : path ∈ oldSpellings := by simp [oldSpellings, path]
  have leads : Denotes [] path bridgeCafilePath ⟨"old.pem", true, []⟩ :=
    ⟨by decide, by decide +kernel⟩
  have parsed := JsonCodec.text.parse_dump _ (completeRequest_proper path)
  have generic := completeRequest_generic path
  have own : (bridgeCafilePath, path) ∈ genericPaths (completeRequest path) := by
    simp [completeRequest_paths path known]
  obtain ⟨rsp, disk', returned⟩ := completeRequest_returns known oldCertificate
  have still := (spared _ _ _ _ _ _ _ _ _ [] returned parsed (.inl rfl) generic).denoted _ own
    bridgeCafilePath (by simp [certificateFolders]) _ leads
    ⟨_, oldCertificate_there, List.mem_singleton_self _⟩
  rw [Present, mainTomlSet_folders returned parsed (.inl rfl) generic] at still
  obtain ⟨-, kept⟩ := (present_foldl_iff _ (genericPaths_nodup _) own _).mp still
  exact kept ⟨by decide, by decide +kernel, rfl, by decide⟩

/-- Paths that are built as the clean-up builds them. -/
theorem certificates_spared_plain :
    ∃ rsp disk', mainTomlSet JsonCodec.text TomlCodec.text ⟨false, false, false⟩
        "cgicpp-toml-integration-set"
        (JsonCodec.text.dump (completeRequest "/etc/ssl/gw/bridge_cafile/old.pem"))
        (damagedDisk oldCertificate) = (.ok (0, rsp), disk') ∧
      Spared [] (genericPaths (completeRequest "/etc/ssl/gw/bridge_cafile/old.pem"))
        (damagedDisk oldCertificate) disk' := by
  obtain ⟨rsp, disk', returned⟩ :=
    completeRequest_returns (List.mem_cons_self : _ ∈ oldSpellings) oldCertificate
  refine ⟨rsp, disk', returned, ?_⟩
  apply (certificates_spared_iff _ _ _ _ _ _ _ _ _ _ returned
    (JsonCodec.text.parse_dump _ (completeRequest_proper _)) (.inl rfl)
    (completeRequest_generic _)).mpr
  apply spelledOut_of_plain [] _ rfl
  rw [completeRequest_paths _ List.mem_cons_self]
  simp only [List.forall_mem_cons, List.not_mem_nil, false_implies, implies_true, and_true]
  refine ⟨⟨"old.pem", ?_, by decide +kernel⟩, ⟨"tls.pem", ?_, by decide +kernel⟩, "tls.key", ?_,
    by decide +kernel⟩
  all_goals constructor <;> decide

end LorawanFeeds.Cgi
