import LorawanFeeds.Cgi.TomlRequest

/-!
# What a request does to the configuration of the bridge

A request is read field by field; it is rejected at the first field that is missing or has another
type. The file is written after that, but files of certificates are removed in between.
-/
namespace LorawanFeeds.Cgi

open Lib Bridge Proc

/-! ### The fields of a request -/

/-- Every field is there, with a value of its type. -/
def Accepts (remoteJson : Json) (fields : List RemoteField) : Prop :=
  ∀ field ∈ fields, (field.value remoteJson).isSome = true

instance (remoteJson : Json) (fields : List RemoteField) : Decidable (Accepts remoteJson fields) :=
  inferInstanceAs (Decidable (∀ field ∈ fields, _))

/-- The members after the assignments of a request. -/
def applyFields (remoteJson : Json) (fields : List RemoteField) (m : Members) : Members :=
  fields.foldl (fun m field => ((field.value remoteJson).getD id) m) m

/-- A text of the request. -/
def textAt (remoteJson : Json) (path : List String) : Option String :=
  (inBody remoteJson path).bind fun j => j.asString.toOption

def boolAt (remoteJson : Json) (path : List String) : Option Bool :=
  (inBody remoteJson path).bind fun j => j.asBool.toOption

section

variable (remoteJson : Json)

theorem accepts_append (first second : List RemoteField) :
    Accepts remoteJson (first ++ second) ↔ Accepts remoteJson first ∧ Accepts remoteJson second := by
  simp only [Accepts, List.forall_mem_append]

theorem applyFields_append (first second : List RemoteField) (m : Members) :
    applyFields remoteJson (first ++ second) m =
      applyFields remoteJson second (applyFields remoteJson first m) := by
  simp only [applyFields, List.foldl_append]

/-- The fields are assigned, or one of them is not accepted; the disk stays. -/
theorem parseRemoteFields_ends (fields : List RemoteField) (p : BridgeToml) :
    Ends (parseRemoteFields remoteJson fields) p
      (fun _ p' => Accepts remoteJson fields ∧
        p' = { p with members := applyFields remoteJson fields p.members })
      fun e p' => e = .thrown ∧ ¬ Accepts remoteJson fields ∧ p'.disk = p.disk := by
  induction fields generalizing p with
  | nil => exact ends_pure ⟨by simp [Accepts], rfl⟩
  | cons field fields ih =>
    apply ends_bind
    cases value : field.value remoteJson with
    | none =>
      apply ends_raise
      refine ⟨rfl, fun accepts => ?_, rfl⟩
      simpa [value] using accepts field (by simp)
    | some f =>
      apply ends_pure
      apply ends_bind
      apply ends_modify
      refine (ih _).imp ?_ ?_
      · rintro _ p' ⟨accepts, rfl⟩
        refine ⟨?_, ?_⟩
        · intro other member
          rcases List.mem_cons.mp member with rfl | later
          · rw [value, Option.isSome_some]
          · exact accepts other later
        · simp [applyFields, value]
      · rintro _ p' ⟨rfl, rejects, disk⟩
        exact ⟨rfl, fun accepts => rejects fun other member => accepts other (by simp [member]), disk⟩

/-- The fields that a request for the filters has to have. -/
def filtersFields : List RemoteField :=
  enableField :: if boolAt remoteJson ["filter_enable"] = some true then filterFields else []

def backendFields : List RemoteField :=
  backendTypeField :: if textAt remoteJson ["backend_type"] = some "semtech_udp" then udpFields
    else if textAt remoteJson ["backend_type"] = some "basic_station" then bsFields else []

def authFields : List RemoteField :=
  if textAt remoteJson ["mqtt_auth_type"] = some "generic" then
    genericFields ++ [genericCertField] ++ [genericKeyField] ++ genericUserFields
  else if textAt remoteJson ["mqtt_auth_type"] = some "gcp_cloud_iot_core" then gcpFields
  else if textAt remoteJson ["mqtt_auth_type"] = some "azure_iot_hub" then azureFields else []

/-- The fields that a request for one section has to have. -/
def sectionFields (option : String) : List RemoteField :=
  if option = "cgicpp-toml-general-set" then [generalField]
  else if option = "cgicpp-toml-filters-set" then filtersFields remoteJson
  else if option = "cgicpp-toml-backend-set" then backendFields remoteJson
  else if option = "cgicpp-toml-integration-set" then mqttFields ++ authFields remoteJson
  else []

/-- The fields that a request has to have. -/
def requestFields (option : String) : List RemoteField :=
  if containsText option "all" then
    [generalField] ++ filtersFields remoteJson ++ backendFields remoteJson ++
      (mqttFields ++ authFields remoteJson)
  else sectionFields remoteJson option

/-! ### The removals of a request -/

/-- `keepOnly` on the disk. -/
def removeOthers (disk : BridgeDisk) (certificate : String × String) : BridgeDisk :=
  if certificate.2 = "" then disk
  else removeFilesFromDirExceptInput certificate.1 certificate.2 disk

/-- A certificate that is read if the fields before it are accepted, and those after it. -/
def certificateStage (fields : List RemoteField) (folder key : String)
    (rest : List (String × String)) : List (String × String) :=
  if Accepts remoteJson fields then (folder, (textAt remoteJson ["generic", key]).getD "") :: rest
  else []

/-- The certificates that are read before the first field that is not accepted, each with its
folder. -/
def genericCertificates : List (String × String) :=
  certificateStage remoteJson genericFields bridgeCafilePath "ca_cert"
    (certificateStage remoteJson [genericCertField] bridgeCertfilePath "tls_cert"
      (certificateStage remoteJson [genericKeyField] bridgeKeyfilePath "tls_key" []))

def integrationCertificates : List (String × String) :=
  if Accepts remoteJson mqttFields ∧ textAt remoteJson ["mqtt_auth_type"] = some "generic" then
    genericCertificates remoteJson
  else []

/-- The certificates of a request. -/
def requestCertificates (option : String) : List (String × String) :=
  if containsText option "all" then
    if Accepts remoteJson ([generalField] ++ filtersFields remoteJson ++ backendFields remoteJson)
    then integrationCertificates remoteJson else []
  else if option = "cgicpp-toml-integration-set" then integrationCertificates remoteJson
  else []

end

/-- A reader of a request: it assigns its fields, or it throws because one is not accepted. On the
way it keeps only the certificates. -/
def Reads (x : TomlProc Unit) (remoteJson : Json) (fields : List RemoteField)
    (certificates : List (String × String)) (p : BridgeToml) : Prop :=
  Ends x p
    (fun _ p' => Accepts remoteJson fields ∧
      p' = { members := applyFields remoteJson fields p.members
             disk := certificates.foldl removeOthers p.disk })
    fun e p' => e = .thrown ∧ ¬ Accepts remoteJson fields ∧
      p'.disk = certificates.foldl removeOthers p.disk

section

variable {remoteJson : Json} {first second : List RemoteField}
variable {certificates : List (String × String)} {next : TomlProc Unit} {p : BridgeToml}

theorem reads_nothing : Reads (pure ()) remoteJson [] [] p := ends_pure ⟨by simp [Accepts], rfl⟩

theorem reads_fields : Reads (parseRemoteFields remoteJson first) remoteJson first [] p :=
  (parseRemoteFields_ends remoteJson first p).imp (fun _ _ ok => ok) fun _ _ stop => stop

/-- A reader after another one. -/
theorem reads_bind {x : TomlProc Unit} {before : List (String × String)}
    (start : Reads x remoteJson first before p)
    (rest : Accepts remoteJson first → Reads next remoteJson second certificates
      { members := applyFields remoteJson first p.members
        disk := before.foldl removeOthers p.disk }) :
    Reads (do x; next) remoteJson (first ++ second)
      (before ++ if Accepts remoteJson first then certificates else []) p := by
  refine ends_bind (start.imp ?_ ?_)
  · rintro _ _ ⟨accepts, rfl⟩
    rw [if_pos accepts, List.foldl_append]
    refine (rest accepts).imp ?_ ?_
    · rintro _ _ ⟨more, rfl⟩
      rw [accepts_append, applyFields_append]
      exact ⟨⟨accepts, more⟩, rfl⟩
    · rintro _ _ ⟨rfl, rejects, disk⟩
      rw [accepts_append]
      exact ⟨rfl, fun both => rejects both.2, disk⟩
  · rintro _ _ ⟨rfl, rejects, disk⟩
    rw [if_neg rejects, List.append_nil, accepts_append]
    exact ⟨rfl, fun both => rejects both.1, disk⟩

/-- The removal after a certificate, in terms of what the request says. -/
theorem reads_keepOnly {folder path : String} {file : Members → String}
    (named : file p.members = path)
    (rest : Reads next remoteJson second certificates
      { p with disk := removeOthers p.disk (folder, path) }) :
    Reads (do keepOnly folder file; next) remoteJson second ((folder, path) :: certificates) p := by
  apply ends_bind
  apply ends_modify
  have removed : (if file p.members = "" then p
      else { p with disk := removeFilesFromDirExceptInput folder (file p.members) p.disk }) =
      { p with disk := removeOthers p.disk (folder, path) } := by
    rw [named, removeOthers]
    split <;> rfl
  rw [removed]
  exact rest

/-- One certificate: its fields, and the removal of the other files. -/
theorem reads_stage {folder key : String} {file : Members → String}
    (named : Accepts remoteJson first → ∀ m,
      file (applyFields remoteJson first m) = (textAt remoteJson ["generic", key]).getD "")
    (rest : ∀ p, Reads next remoteJson second certificates p) :
    Reads (do parseRemoteFields remoteJson first; keepOnly folder file; next) remoteJson
      (first ++ second) (certificateStage remoteJson first folder key certificates) p :=
  reads_bind reads_fields fun accepts => reads_keepOnly (named accepts _) (rest _)

end

/-! ### The readers -/

theorem text_value (remoteJson : Json) (path : List String) (f : String → Members → Members) :
    (RemoteField.text path f).value remoteJson = (textAt remoteJson path).map f := by
  simp only [RemoteField.value, RemoteField.text, textAt, Option.map_bind]
  rfl

theorem bool_value (remoteJson : Json) (path : List String) (f : Bool → Members → Members) :
    (RemoteField.bool path f).value remoteJson = (boolAt remoteJson path).map f := by
  simp only [RemoteField.value, RemoteField.bool, boolAt, Option.map_bind]
  rfl

/-- A text that is read last is assigned last. -/
theorem text_applied {remoteJson : Json} {fields init : List RemoteField} {path : List String}
    {f : String → Members → Members} (last : fields = init ++ [.text path f])
    (accepts : Accepts remoteJson fields) (m : Members) :
    ∃ s, textAt remoteJson path = some s ∧
      applyFields remoteJson fields m = f s (applyFields remoteJson init m) := by
  subst last
  have there := accepts (.text path f) (by simp)
  rw [text_value, Option.isSome_map] at there
  obtain ⟨s, read⟩ := Option.isSome_iff_exists.mp there
  refine ⟨s, read, ?_⟩
  rw [applyFields_append]
  simp [applyFields, text_value, read]

theorem bool_applied {remoteJson : Json} {field : RemoteField} {path : List String}
    {f : Bool → Members → Members} (only : field = .bool path f)
    (accepts : Accepts remoteJson [field]) (m : Members) :
    ∃ b, boolAt remoteJson path = some b ∧ applyFields remoteJson [field] m = f b m := by
  subst only
  have there := accepts (.bool path f) (by simp)
  rw [bool_value, Option.isSome_map] at there
  obtain ⟨b, read⟩ := Option.isSome_iff_exists.mp there
  refine ⟨b, read, ?_⟩
  simp [applyFields, bool_value, read]

section

variable (remoteJson : Json) (p : BridgeToml)

theorem parseRemoteFilters_reads :
    Reads (parseRemoteFilters remoteJson) remoteJson (filtersFields remoteJson) [] p := by
  rw [← ite_self (c := Accepts remoteJson [enableField]) ([] : List (String × String)),
    filtersFields, ← List.singleton_append]
  refine reads_bind reads_fields fun accepts => ?_
  obtain ⟨b, read, applied⟩ := bool_applied rfl accepts p.members
  rw [read]
  apply ends_bind
  apply ends_get
  have enabled : (applyFields remoteJson [enableField] p.members).filters.enable = b :=
    congrArg (fun m => m.filters.enable) applied
  cases b with
  | true =>
    rw [if_pos enabled, if_pos rfl]
    exact reads_fields
  | false =>
    rw [if_neg (by simp [enabled]), if_neg (by simp)]
    exact reads_nothing

theorem parseRemoteBackend_reads :
    Reads (parseRemoteBackend remoteJson) remoteJson (backendFields remoteJson) [] p := by
  rw [← ite_self (c := Accepts remoteJson [backendTypeField]) ([] : List (String × String)),
    backendFields, ← List.singleton_append]
  refine reads_bind reads_fields fun accepts => ?_
  obtain ⟨type, read, applied⟩ := @text_applied _ _ [] _ _ rfl accepts p.members
  rw [read]
  apply ends_bind
  apply ends_get
  have assigned : (applyFields remoteJson [backendTypeField] p.members).backendType = type :=
    congrArg Members.backendType applied
  simp only [assigned, Option.some.injEq]
  split
  · exact reads_fields
  · split
    · exact reads_fields
    · exact reads_nothing

theorem parseRemoteGeneric_reads :
    Reads (parseRemoteGeneric remoteJson) remoteJson
      (genericFields ++ [genericCertField] ++ [genericKeyField] ++ genericUserFields)
      (genericCertificates remoteJson) p := by
  rw [List.append_assoc, List.append_assoc]
  refine reads_stage ?_ fun p => ?_
  · intro accepts m
    obtain ⟨s, read, applied⟩ := @text_applied _ _ (genericFields.take 6) _ _ rfl accepts m
    rw [read]
    exact congrArg (fun m => m.generic.caCert) applied
  refine reads_stage ?_ fun p => ?_
  · intro accepts m
    obtain ⟨s, read, applied⟩ := @text_applied _ _ [] _ _ rfl accepts m
    rw [read]
    exact congrArg (fun m => m.generic.tlsCert) applied
  refine reads_stage ?_ fun p => reads_fields
  intro accepts m
  obtain ⟨s, read, applied⟩ := @text_applied _ _ [] _ _ rfl accepts m
  rw [read]
  exact congrArg (fun m => m.generic.tlsKey) applied

theorem parseRemoteIntegration_reads :
    Reads (parseRemoteIntegration remoteJson) remoteJson (mqttFields ++ authFields remoteJson)
      (integrationCertificates remoteJson) p := by
  rw [integrationCertificates, ite_and]
  refine reads_bind reads_fields fun accepts => ?_
  obtain ⟨type, read, applied⟩ := @text_applied _ _ (mqttFields.take 4) _ _ rfl accepts p.members
  rw [authFields, read]
  apply ends_bind
  apply ends_get
  have assigned : (applyFields remoteJson mqttFields p.members).mqttAuthType = type :=
    congrArg Members.mqttAuthType applied
  simp only [assigned, Option.some.injEq]
  split
  · exact parseRemoteGeneric_reads remoteJson _
  · split
    · exact reads_fields
    · split
      · exact reads_fields
      · exact reads_nothing

theorem runParseJsonCb_reads (option : String) :
    Reads (runParseJsonCb remoteJson option) remoteJson (sectionFields remoteJson option)
      (if option = "cgicpp-toml-integration-set" then integrationCertificates remoteJson else [])
      p := by
  rw [runParseJsonCb, sectionFields]
  split
  next general =>
    rw [if_neg (by simp [general])]
    exact reads_fields
  · split
    next filters =>
      rw [if_neg (by simp [filters])]
      exact parseRemoteFilters_reads remoteJson p
    · split
      next backend =>
        rw [if_neg (by simp [backend])]
        exact parseRemoteBackend_reads remoteJson p
      · split
        next integration => exact parseRemoteIntegration_reads remoteJson p
        next => exact reads_nothing

/-- The four readers of a request for all sections. -/
theorem parseRemoteAll_reads :
    Reads (do
      parseRemoteGeneral remoteJson
      parseRemoteFilters remoteJson
      parseRemoteBackend remoteJson
      parseRemoteIntegration remoteJson) remoteJson
      ([generalField] ++ (filtersFields remoteJson ++ (backendFields remoteJson ++
        (mqttFields ++ authFields remoteJson))))
      (if Accepts remoteJson [generalField] then
        if Accepts remoteJson (filtersFields remoteJson) then
          if Accepts remoteJson (backendFields remoteJson) then integrationCertificates remoteJson
          else []
        else []
      else []) p := by
  refine reads_bind reads_fields fun _ => ?_
  refine reads_bind (parseRemoteFilters_reads remoteJson _) fun _ => ?_
  refine reads_bind (parseRemoteBackend_reads remoteJson _) fun _ => ?_
  exact parseRemoteIntegration_reads remoteJson _

end

/-! ### Reading the file leaves the disk -/

def KeepsDisk {α : Type} (x : TomlProc α) : Prop :=
  ∀ p, Ends x p (fun _ p' => p'.disk = p.disk) fun _ p' => p'.disk = p.disk

section

variable {α β : Type}

theorem keepsDisk_assign (f : Members → Members) : KeepsDisk (assign f) := fun _ => ends_modify rfl

theorem keepsDisk_ofExcept (x : Except Fault α) : KeepsDisk (Proc.ofExcept x) := fun _ =>
  ends_ofExcept (fun _ _ => rfl) fun _ _ => rfl

theorem keepsDisk_bind {x : TomlProc α} {f : α → TomlProc β} (first : KeepsDisk x)
    (rest : ∀ a, KeepsDisk (f a)) : KeepsDisk (x >>= f) := by
  intro p
  refine ends_bind ((first p).imp ?_ fun _ _ same => same)
  intro a p' same
  exact (rest a p').imp (fun _ _ later => later.trans same) fun _ _ later => later.trans same

theorem keepsDisk_tryCatch {x handler : TomlProc α} {caught : Fault → Bool} (body : KeepsDisk x)
    (after : KeepsDisk handler) : KeepsDisk (Proc.tryCatch x caught handler) := by
  intro p
  refine ends_tryCatch ((body p).imp (fun _ _ same => same) ?_)
  intro e p' same
  split
  · exact (after p').imp (fun _ _ later => later.trans same) fun _ _ later => later.trans same
  · exact same

theorem keepsDisk_find (table : Toml) (key : String) : KeepsDisk (find table key) :=
  keepsDisk_ofExcept _

theorem keepsDisk_fields (table : Toml) (fields : List TomlField) :
    KeepsDisk (parseFields table fields) := by
  induction fields with
  | nil => exact fun _ => ends_pure rfl
  | cons field fields ih =>
    exact keepsDisk_bind (keepsDisk_find _ _) fun _ => keepsDisk_bind (keepsDisk_ofExcept _)
      fun _ => keepsDisk_bind (keepsDisk_assign _) fun _ => ih

/-- A table that is found and read. -/
theorem keepsDisk_table (table : Toml) (key : String) (fields : List TomlField) :
    KeepsDisk (do let inner ← find table key; parseFields inner fields) :=
  keepsDisk_bind (keepsDisk_find _ _) fun _ => keepsDisk_fields _ _

end

theorem parseTomlForEach_keepsDisk (data : Toml) : KeepsDisk (parseTomlForEach data) := by
  have backend : KeepsDisk (parseTomlBackend data) := by
    refine keepsDisk_bind (keepsDisk_find _ _) fun _ => keepsDisk_bind (keepsDisk_fields _ _)
      fun _ => keepsDisk_bind (keepsDisk_table _ _ _) fun _ => keepsDisk_table _ _ _
  have filters : KeepsDisk (parseTomlFilters data) := by
    refine keepsDisk_bind (keepsDisk_find _ _) fun _ => keepsDisk_tryCatch ?_ (keepsDisk_assign _)
    exact keepsDisk_bind (keepsDisk_fields _ _) fun _ => keepsDisk_assign _
  have integration : KeepsDisk (parseTomlIntegration data) := by
    refine keepsDisk_bind (keepsDisk_find _ _) fun _ => keepsDisk_bind (keepsDisk_fields _ _)
      fun _ => keepsDisk_bind (keepsDisk_find _ _) fun _ => keepsDisk_bind (keepsDisk_fields _ _)
      fun _ => keepsDisk_bind (keepsDisk_find _ _) fun _ => keepsDisk_bind (keepsDisk_fields _ _)
      fun _ => keepsDisk_bind (keepsDisk_table _ _ _) fun _ => keepsDisk_bind
      (keepsDisk_table _ _ _) fun _ => keepsDisk_table _ _ _
  refine keepsDisk_tryCatch ?_ fun _ => ends_pure rfl
  exact keepsDisk_bind backend fun _ => keepsDisk_bind filters fun _ =>
    keepsDisk_bind (keepsDisk_table _ _ _) fun _ => integration

theorem parseTomlForEach_undefined (data : Toml) (p : BridgeToml) :
    Ends (parseTomlForEach data) p (fun _ _ => True) fun e _ => e = .undefined := by
  refine ends_tryCatch ((ends_run _).imp (fun _ _ _ => trivial) ?_)
  intro e p' _
  cases e with
  | thrown => exact ends_pure trivial
  | undefined => exact rfl

/-! ### The whole request -/

section

variable (json : JsonText) (option : String) (inputJson : Bytes)

/-- The request is JSON, and has the fields of its option. -/
def AcceptsRequest : Prop :=
  ∃ remoteJson, json.parse inputJson = some remoteJson ∧
    Accepts remoteJson (requestFields remoteJson option)

/-- The certificates that a request gives before the first field that is not accepted. -/
def certificatesOf : List (String × String) :=
  (json.parse inputJson).elim [] fun remoteJson => requestCertificates remoteJson option

/-- The members that a request leaves to be written. -/
def Members.requested (remoteJson : Json) (m : Members) : Members :=
  (applyFields remoteJson (requestFields remoteJson option) m).cleared

end

section

variable {json : JsonText} {option : String} {inputJson : Bytes} {remoteJson : Json}

/-- A reader of the request, and then the file. -/
theorem reads_update {x : TomlProc Unit} {fields : List RemoteField}
    {certificates : List (String × String)} {p : BridgeToml}
    (reads : Reads x remoteJson fields certificates p) :
    Ends (do x; updateLocalTomlContent) p
      (fun _ p' => Accepts remoteJson fields ∧ p'.disk =
        { certificates.foldl removeOthers p.disk with
          conf := some (outputFormattedTomlFile (applyFields remoteJson fields p.members).cleared) })
      fun e p' => e = .thrown ∧ ¬ Accepts remoteJson fields ∧
        p'.disk = certificates.foldl removeOthers p.disk := by
  refine ends_bind (reads.imp ?_ fun _ _ stop => stop)
  rintro _ _ ⟨accepts, rfl⟩
  exact ends_modify ⟨accepts, rfl⟩

theorem requestFields_all (all : containsText option "all") :
    requestFields remoteJson option = [generalField] ++ (filtersFields remoteJson ++
      (backendFields remoteJson ++ (mqttFields ++ authFields remoteJson))) := by
  rw [requestFields, if_pos all]
  simp only [List.append_assoc]

theorem requestCertificates_all (all : containsText option "all") :
    requestCertificates remoteJson option =
      if Accepts remoteJson [generalField] then
        if Accepts remoteJson (filtersFields remoteJson) then
          if Accepts remoteJson (backendFields remoteJson) then integrationCertificates remoteJson
          else []
        else []
      else [] := by
  rw [requestCertificates, if_pos all]
  simp only [accepts_append, ite_and]

/-- The part of a request after its text and the file have been read. -/
def setMembers (remoteJson : Json) (option : String) : TomlProc Unit :=
  if containsText option "all" then do
    parseRemoteGeneral remoteJson
    parseRemoteFilters remoteJson
    parseRemoteBackend remoteJson
    parseRemoteIntegration remoteJson
    updateLocalTomlContent
  else do
    runParseJsonCb remoteJson option
    updateLocalTomlContent

theorem setMembers_ends (option : String) (p : BridgeToml) :
    Ends (setMembers remoteJson option) p
      (fun _ p' => Accepts remoteJson (requestFields remoteJson option) ∧ p'.disk =
        { (requestCertificates remoteJson option).foldl removeOthers p.disk with
          conf := some (outputFormattedTomlFile (p.members.requested option remoteJson)) })
      fun e p' => e = .thrown ∧ ¬ Accepts remoteJson (requestFields remoteJson option) ∧
        p'.disk = (requestCertificates remoteJson option).foldl removeOthers p.disk := by
  by_cases all : containsText option "all"
  · have reads := reads_update (parseRemoteAll_reads remoteJson p)
    simp only [Proc.bind_assoc] at reads
    rw [setMembers, if_pos all, Members.requested, requestFields_all all, requestCertificates_all all]
    exact reads
  · have reads := reads_update (runParseJsonCb_reads remoteJson p option)
    rw [setMembers, if_neg all, Members.requested, requestFields, if_neg all, requestCertificates, if_neg all]
    exact reads

/-- A request that is accepted: the file is written from the members that have been read, with
those of the request in their place. -/
def Updated (json : JsonText) (data : Toml) (option : String) (inputJson : Bytes)
    (p : BridgeToml) (disk' : BridgeDisk) : Prop :=
  ∃ remoteJson p₁, json.parse inputJson = some remoteJson ∧
    parseTomlForEach data p = (.ok (), p₁) ∧
    Accepts remoteJson (requestFields remoteJson option) ∧ disk' =
      { (requestCertificates remoteJson option).foldl removeOthers p.disk with
        conf := some (outputFormattedTomlFile (p₁.members.requested option remoteJson)) }

/-- A request that stops: it is not accepted, or reading the file is undefined. -/
def Stopped (json : JsonText) (data : Toml) (option : String) (inputJson : Bytes)
    (p : BridgeToml) (e : Fault) (disk' : BridgeDisk) : Prop :=
  (e = .thrown ∧ ¬ AcceptsRequest json option inputJson ∧
    disk' = (certificatesOf json option inputJson).foldl removeOthers p.disk) ∨
  e = .undefined ∧ (parseTomlForEach data p).1 = .error .undefined

theorem setLocal_ends (json : JsonText) (data : Toml) (option : String) (inputJson : Bytes)
    (p : BridgeToml) :
    Ends (setLocal json data option inputJson) p
      (fun _ p' => Updated json data option inputJson p p'.disk)
      fun e p' => Stopped json data option inputJson p e p'.disk := by
  have unread {e : Fault} {p₁ : BridgeToml} (stopped : parseTomlForEach data p = (.error e, p₁)) :
      Stopped json data option inputJson p e p₁.disk := by
    have same := (parseTomlForEach_undefined data p).of_eq_error stopped
    subst same
    exact .inr ⟨rfl, by rw [stopped]⟩
  cases parse : json.parse inputJson with
  | none =>
    -- No JSON: the request is not accepted, and nothing has been removed.
    have rejected {p' : BridgeToml} (same : p'.disk = p.disk) :
        Stopped json data option inputJson p .thrown p'.disk := by
      refine .inl ⟨rfl, ?_, ?_⟩
      · rintro ⟨remoteJson, read, _⟩
        rw [parse] at read
        cases read
      · rw [certificatesOf, parse]
        exact same
    rw [setLocal]
    split
    · refine ends_bind ((ends_run _).imp ?_ fun _ _ => unread)
      intro _ p₁ returned
      apply ends_bind
      rw [parse]
      exact ends_raise (rejected ((parseTomlForEach_keepsDisk data p).of_eq_ok returned))
    · apply ends_bind
      rw [parse]
      exact ends_raise (rejected rfl)
  | some remoteJson =>
    have request {p₁ : BridgeToml} (returned : parseTomlForEach data p = (.ok (), p₁)) :
        Ends (setMembers remoteJson option) p₁
          (fun _ p' => Updated json data option inputJson p p'.disk)
          fun e p' => Stopped json data option inputJson p e p'.disk := by
      have same := (parseTomlForEach_keepsDisk data p).of_eq_ok returned
      refine (@setMembers_ends remoteJson option p₁).imp ?_ ?_
      · rintro _ p' ⟨accepts, disk⟩
        exact ⟨remoteJson, p₁, parse, returned, accepts, by rw [disk, same]⟩
      · rintro _ p' ⟨rfl, rejects, disk⟩
        refine .inl ⟨rfl, ?_, ?_⟩
        · rintro ⟨other, read, accepts⟩
          cases parse.symm.trans read
          exact rejects accepts
        · rw [certificatesOf, parse, disk, same]
          rfl
    rw [setLocal]
    split
    next all =>
      refine ends_bind ((ends_run _).imp ?_ fun _ _ => unread)
      intro _ p₁ returned
      apply ends_bind
      rw [parse]
      apply ends_pure
      have rest := request returned
      rwa [setMembers, if_pos all] at rest
    next one =>
      apply ends_bind
      rw [parse]
      apply ends_pure
      refine ends_bind ((ends_run _).imp ?_ fun _ _ => unread)
      intro _ p₁ returned
      have rest := request returned
      rwa [setMembers, if_neg one] at rest

/-- What `main_toml_set` does, once the constructor has read the file. -/
theorem mainTomlSet_ends (json : JsonText) {toml : TomlText} (u : Uninitialised) (option : String)
    (inputJson : Bytes) {disk : BridgeDisk} {data : Toml}
    (valid : disk.conf.bind toml.parse = some data) :
    Ends (mainTomlSet json toml u option inputJson) disk
      (fun answer disk' =>
        answer.1 = 0 ∧ Updated json data option inputJson ⟨.initial u, disk⟩ disk' ∨
        answer.1 = -1 ∧ ¬ AcceptsRequest json option inputJson ∧
          disk' = (certificatesOf json option inputJson).foldl removeOthers disk)
      fun _ _ => (parseTomlForEach data ⟨.initial u, disk⟩).1 = .error .undefined := by
  have set : Ends (mainParserSet json data option inputJson) ⟨.initial u, disk⟩
      (fun answer p' =>
        answer.1 = 0 ∧ Updated json data option inputJson ⟨.initial u, disk⟩ p'.disk ∨
        answer.1 = -1 ∧ ¬ AcceptsRequest json option inputJson ∧
          p'.disk = (certificatesOf json option inputJson).foldl removeOthers disk)
      fun _ _ => (parseTomlForEach data ⟨.initial u, disk⟩).1 = .error .undefined := by
    apply ends_tryCatch
    refine ends_bind ((setLocal_ends json data option inputJson _).imp ?_ ?_)
    · intro _ p' updated
      exact ends_pure (.inl ⟨rfl, updated⟩)
    · rintro _ p' (⟨rfl, rejected, same⟩ | ⟨rfl, reading⟩)
      · exact ends_pure (.inr ⟨rfl, rejected, same⟩)
      · exact reading
  apply ends_bind
  apply ends_get
  rw [valid]
  exact ends_within set

/-- `main_toml_set` returns only if its file has been read: the constructor throws, and the exception
is not caught. -/
theorem conf_of_mainTomlSet {json : JsonText} {toml : TomlText} {u : Uninitialised}
    {option : String} {inputJson : Bytes} {disk disk' : BridgeDisk} {answer : Int × String}
    (returned : mainTomlSet json toml u option inputJson disk = (.ok answer, disk')) :
    ∃ data, disk.conf.bind toml.parse = some data := by
  cases valid : disk.conf.bind toml.parse with
  | some data => exact ⟨data, rfl⟩
  | none =>
    have stopped : Ends (mainTomlSet json toml u option inputJson) disk (fun _ _ => False)
        fun _ _ => True := by
      apply ends_bind
      apply ends_get
      rw [valid]
      exact ends_raise trivial
    exact (stopped.of_eq_ok returned).elim

end

end LorawanFeeds.Cgi
