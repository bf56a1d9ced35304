import LorawanFeeds.Lib.Run
import LorawanFeeds.Cgi.TomlAtomicity
import LorawanFeeds.Cgi.TomlReread

/-!
# Sections of the configuration

A request is about one section, but the file is written anew from all members. When the other
sections are read from the new file as they were before, for one request and for any number of them.
-/
namespace LorawanFeeds.Cgi

open Lib Bridge Proc

/-- The sections that have an option of their own. -/
inductive Section where
  | general
  | filters
  | backend
  | integration
  deriving DecidableEq, Repr

namespace Section

def setOption : Section → String
  | general => "cgicpp-toml-general-set"
  | filters => "cgicpp-toml-filters-set"
  | backend => "cgicpp-toml-backend-set"
  | integration => "cgicpp-toml-integration-set"

theorem not_all (s : Section) : ¬ containsText s.setOption "all" := by
  cases s <;> simp [setOption, containsText, List.infix_cons_iff]

end Section

/-- The fields of one section. -/
inductive Fields where
  | general (logLevel : UInt32)
  | filters (netIds : List String) (joinEuis : List (String × String))
  | backend (type : String) (udp : SemtechUdp) (bs : BasicStation)
  | integration (marshaler eventTopicTemplate commandTopicTemplate : String)
      (maxReconnectInterval : UInt32) (mqttAuthType : String) (generic : Generic) (gcp : Gcp)
      (azure : Azure)
  deriving DecidableEq

def Section.fields (m : Members) : Section → Fields
  | general => .general m.logLevel
  | filters => .filters m.filters.netIds m.filters.joinEuis
  | backend => .backend m.backendType m.udp m.bs
  | integration => .integration m.marshaler m.eventTopicTemplate m.commandTopicTemplate
      m.maxReconnectInterval m.mqttAuthType m.generic m.gcp m.azure

/-! ### What a request leaves -/

/-- Whatever the request says, the field assigns only members of its section. -/
def RemoteField.Within (s : Section) (field : RemoteField) : Prop :=
  ∀ j f, field.read j = some f → ∀ m, (∀ other ≠ s, other.fields (f m) = other.fields m) ∧
    (s ≠ .filters → (f m).filters = m.filters)

namespace RemoteField

/-- A value of any type that is assigned within the section. -/
theorem within_map {α : Type} {s : Section} {path : List String} {value : Json → Option α}
    {assign : α → Members → Members}
    (keeps : ∀ a m, (∀ other ≠ s, other.fields (assign a m) = other.fields m) ∧
      (s ≠ .filters → (assign a m).filters = m.filters)) :
    Within s ⟨path, fun j => (value j).map assign⟩ := by
  intro j f read m
  obtain ⟨a, _, rfl⟩ := Option.map_eq_some_iff.mp read
  exact keeps a m

end RemoteField

section

open RemoteField

theorem generalField_within : generalField.Within .general :=
  within_map fun _ _ => ⟨by rintro (_ | _ | _ | _) other <;> trivial, fun _ => rfl⟩

theorem filtersFields_within (remoteJson : Json) :
    ∀ field ∈ filtersFields remoteJson, field.Within .filters := by
  have lists : ∀ field ∈ filterFields, field.Within .filters := by
    simp only [filterFields, List.forall_mem_cons]
    refine ⟨?_, ?_, by simp⟩
    all_goals exact within_map fun _ _ =>
      ⟨by rintro (_ | _ | _ | _) other <;> trivial, fun other => absurd rfl other⟩
  rw [filtersFields, List.forall_mem_cons]
  constructor
  · exact within_map fun _ _ =>
      ⟨by rintro (_ | _ | _ | _) other <;> trivial, fun other => absurd rfl other⟩
  · split
    · exact lists
    · simp

theorem backendFields_within (remoteJson : Json) :
    ∀ field ∈ backendFields remoteJson, field.Within .backend := by
  have udp : ∀ field ∈ udpFields, field.Within .backend := by
    simp only [udpFields, List.forall_mem_cons]
    refine ⟨?_, ?_, ?_, ?_, by simp⟩
    all_goals exact within_map fun _ _ =>
      ⟨by rintro (_ | _ | _ | _) other <;> trivial, fun _ => rfl⟩
  have bs : ∀ field ∈ bsFields, field.Within .backend := by
    simp only [bsFields, List.forall_mem_cons]
    refine ⟨?_, ?_, ?_, ?_, ?_, ?_, ?_, ?_, ?_, ?_, ?_, by simp⟩
    all_goals exact within_map fun _ _ =>
      ⟨by rintro (_ | _ | _ | _) other <;> trivial, fun _ => rfl⟩
  rw [backendFields, List.forall_mem_cons]
  constructor
  · exact within_map fun _ _ => ⟨by rintro (_ | _ | _ | _) other <;> trivial, fun _ => rfl⟩
  · split
    · exact udp
    · split
      · exact bs
      · simp

theorem integrationFields_within (remoteJson : Json) :
    ∀ field ∈ mqttFields ++ authFields remoteJson, field.Within .integration := by
  have each {α : Type} {path : List String} {value : Json → Option α}
      {assign : α → Members → Members}
      (keeps : ∀ a m, (assign a m).logLevel = m.logLevel ∧ (assign a m).filters = m.filters ∧
        Section.backend.fields (assign a m) = Section.backend.fields m) :
      Within .integration ⟨path, fun j => (value j).map assign⟩ := by
    refine within_map fun a m => ⟨?_, fun _ => (keeps a m).2.1⟩
    rintro (_ | _ | _ | _) other
    · exact congrArg Fields.general (keeps a m).1
    · exact congrArg (fun f : Filters => Fields.filters f.netIds f.joinEuis) (keeps a m).2.1
    · exact (keeps a m).2.2
    · exact absurd rfl other
  have mqtt : ∀ field ∈ mqttFields, field.Within .integration := by
    simp only [mqttFields, List.forall_mem_cons]
    refine ⟨?_, ?_, ?_, ?_, ?_, by simp⟩
    all_goals exact each fun _ _ => ⟨rfl, rfl, rfl⟩
  have generic : ∀ field ∈ genericFields ++ [genericCertField] ++ [genericKeyField] ++
      genericUserFields, field.Within .integration := by
    simp only [genericFields, genericUserFields, List.cons_append, List.nil_append,
      List.forall_mem_cons]
    refine ⟨?_, ?_, ?_, ?_, ?_, ?_, ?_, ?_, ?_, ?_, ?_, by simp⟩
    all_goals exact each fun _ _ => ⟨rfl, rfl, rfl⟩
  have gcp : ∀ field ∈ gcpFields, field.Within .integration := by
    simp only [gcpFields, List.forall_mem_cons]
    refine ⟨?_, ?_, ?_, ?_, ?_, ?_, ?_, by simp⟩
    all_goals exact each fun _ _ => ⟨rfl, rfl, rfl⟩
  have azure : ∀ field ∈ azureFields, field.Within .integration := by
    simp only [azureFields, List.forall_mem_cons]
    refine ⟨?_, ?_, ?_, ?_, ?_, ?_, by simp⟩
    all_goals exact each fun _ _ => ⟨rfl, rfl, rfl⟩
  rw [List.forall_mem_append]
  refine ⟨mqtt, ?_⟩
  rw [authFields]
  split
  · exact generic
  · split
    · exact gcp
    · split
      · exact azure
      · simp

end

theorem requestFields_within (remoteJson : Json) (s : Section) :
    ∀ field ∈ requestFields remoteJson s.setOption, field.Within s := by
  rw [requestFields, if_neg s.not_all]
  cases s with
  | general => simpa [sectionFields, Section.setOption] using generalField_within
  | filters => simpa [sectionFields, Section.setOption] using filtersFields_within remoteJson
  | backend => simpa [sectionFields, Section.setOption] using backendFields_within remoteJson
  | integration =>
    simpa [sectionFields, Section.setOption] using integrationFields_within remoteJson

/-- The assignments of a request stay within its section. -/
theorem applyFields_within {s : Section} {remoteJson : Json} {fields : List RemoteField}
    (within : ∀ field ∈ fields, field.Within s) (m : Members) :
    (∀ other ≠ s, other.fields (applyFields remoteJson fields m) = other.fields m) ∧
      (s ≠ .filters → (applyFields remoteJson fields m).filters = m.filters) := by
  induction fields generalizing m with
  | nil => exact ⟨fun _ _ => rfl, fun _ => rfl⟩
  | cons field fields ih =>
    have later := ih (fun f member => within f (by simp [member])) ((field.value remoteJson).getD id m)
    cases value : field.value remoteJson with
    | none => simpa [applyFields, value] using ih (fun f member => within f (by simp [member])) m
    | some f =>
      obtain ⟨j, _, read⟩ := Option.bind_eq_some_iff.mp value
      obtain ⟨others, lists⟩ := within field (by simp) j f read m
      rw [value, Option.getD_some] at later
      have applied : applyFields remoteJson (field :: fields) m =
          applyFields remoteJson fields (f m) := by
        simp [applyFields, value]
      rw [applied]
      exact ⟨fun other different => (later.1 other different).trans (others other different),
        fun different => (later.2 different).trans (lists different)⟩

/-! ### Reading the file before and after -/

/-- The file is read without error, as these members. -/
def ReadsAs (toml : TomlText) (conf : Option (List (List Char))) (m : Members) : Prop :=
  ∃ data, conf.bind toml.parse = some data ∧
    ∀ u disk, parseTomlSections data ⟨.initial u, disk⟩ = (.ok (), ⟨m, disk⟩)

def Members.durations (m : Members) : List UInt32 :=
  [m.bs.pingInterval, m.bs.readTimeout, m.bs.writeTimeout, m.maxReconnectInterval,
    m.gcp.jwtExpiration, m.azure.sasTokenExpiration]

/-- Members that can be written and read again: the lines stay, and the numbers in addresses and
durations fit. -/
structure Members.Readable (m : Members) : Prop where
  plain : m.Plain
  udp : ∃ address, splitBind (joined m.udp.ip m.udp.port) = .ok address
  bs : ∃ address, splitBind (joined m.bs.ip m.bs.port) = .ok address
  server : ∃ address, splitServer (joined m.generic.ip m.generic.port) = .ok address
  durations : ∀ sec ∈ m.durations, sec.toNat < durationLimit

/-- What the file of readable members is read as. -/
theorem readsAs_output (toml : TomlText) {m : Members} (plain : m.Plain)
    {udp bs server : Option (String × UInt32)}
    (udpSplits : splitBind (joined m.udp.ip m.udp.port) = .ok udp)
    (bsSplits : splitBind (joined m.bs.ip m.bs.port) = .ok bs)
    (serverSplits : splitServer (joined m.generic.ip m.generic.port) = .ok server)
    (fits : ∀ sec ∈ m.durations, sec.toNat < durationLimit) :
    ReadsAs toml (some (outputFormattedTomlFile m)) { m with
      filters := m.filters.reread, udp := m.udp.reread udp, bs := m.bs.reread bs
      generic := m.generic.reread server } := by
  obtain ⟨data, parse, written⟩ := plain.written toml
  simp only [Members.durations, List.forall_mem_cons] at fits
  obtain ⟨ping, read, write, reconnect, jwt, sas, _⟩ := fits
  refine ⟨data, parse, fun u disk => ?_⟩
  refine bind_eq_ok.mpr ⟨(), _, parseTomlBackend_written written udpSplits bsSplits
    (by simp [ping, read, write]) ⟨rfl, ⟨rfl, rfl⟩, ⟨rfl, rfl⟩, ⟨rfl, rfl⟩⟩, ?_⟩
  refine bind_eq_ok.mpr ⟨(), _, parseTomlFilters_written written rfl, ?_⟩
  refine bind_eq_ok.mpr ⟨(), _, parseTomlGeneral_written written _, ?_⟩
  exact parseTomlIntegration_written written serverSplits (by simp [reconnect, jwt, sas]) ⟨rfl, rfl⟩

/-! ### Requests for one section -/

structure SetRequest where
  target : Section
  inputJson : Bytes
  uninitialised : Uninitialised

/-- What a request leaves on the disk. -/
def setStep (json : JsonText) (toml : TomlText) (disk : BridgeDisk) (r : SetRequest) : BridgeDisk :=
  (mainTomlSet json toml r.uninitialised r.target.setOption r.inputJson disk).2

/-- The request has been accepted. -/
def SetAccepted (json : JsonText) (toml : TomlText) (disk : BridgeDisk) (r : SetRequest) : Prop :=
  ∃ rsp, (mainTomlSet json toml r.uninitialised r.target.setOption r.inputJson disk).1 = .ok (0, rsp)

/-- Lists that are neither cleared nor lost behind a list that is commented out. -/
def Filters.Kept (filters : Filters) : Prop :=
  (filters.enable = true ∨ filters.netIds = [] ∧ filters.joinEuis = []) ∧
    (filters.netIds = [] → filters.joinEuis = [])

/-- The values of a section are read from the new file as they were before. -/
def Section.Kept (m : Members) : Section → Prop
  | general => True
  | filters => m.filters.Kept
  | backend => KeptBind m.udp.ip m.udp.port ∧ KeptBind m.bs.ip m.bs.port ∧
      m.bs.frequencyMin.toNat < 2 ^ 32 ∧ m.bs.frequencyMax.toNat < 2 ^ 32
  | integration => KeptServer m.generic.ip m.generic.port

/-- The file can be read after the request, and its values in the other sections are kept. -/
def KeepsOthers (json : JsonText) (toml : TomlText) (disk : BridgeDisk) (r : SetRequest) : Prop :=
  ∀ m remoteJson, ReadsAs toml disk.conf m → json.parse r.inputJson = some remoteJson →
    (m.requested r.target.setOption remoteJson).Readable ∧ ∀ s ≠ r.target, s.Kept m

/-- The members that an accepted request writes. -/
theorem setStep_conf {json : JsonText} {toml : TomlText} {disk : BridgeDisk} {r : SetRequest}
    {m : Members} (reads : ReadsAs toml disk.conf m) (accepted : SetAccepted json toml disk r) :
    ∃ remoteJson, json.parse r.inputJson = some remoteJson ∧ (setStep json toml disk r).conf =
      some (outputFormattedTomlFile (m.requested r.target.setOption remoteJson)) := by
  obtain ⟨data, valid, read⟩ := reads
  obtain ⟨rsp, code⟩ := accepted
  have ends := mainTomlSet_ends json r.uninitialised r.target.setOption r.inputJson valid
  rcases ends.of_eq_ok (Prod.ext code rfl) with ⟨_, updated⟩ | ⟨minus, _⟩
  · obtain ⟨remoteJson, p₁, parse, forEach, _, disk'⟩ := updated
    refine ⟨remoteJson, parse, ?_⟩
    have same : p₁.members = m := by
      have ran := read r.uninitialised disk
      simp only [parseTomlForEach, Proc.tryCatch, ran, Prod.mk.injEq, true_and] at forEach
      rw [← forEach]
    rw [← same]
    exact congrArg BridgeDisk.conf disk'
  · cases minus

/-! ### The other sections -/

theorem cleared_fields (m : Members) {s : Section} (other : s ≠ .filters) :
    s.fields m.cleared = s.fields m := by
  rw [Members.cleared]
  split
  · cases s with
    | filters => exact absurd rfl other
    | _ => rfl
  · rfl

/-- Lists that are kept are written, and read again. -/
theorem Filters.Kept.fields {m : Members} (kept : m.filters.Kept) :
    (m.cleared.filters.reread.netIds, m.cleared.filters.reread.joinEuis) =
      (m.filters.netIds, m.filters.joinEuis) := by
  obtain ⟨enabled, second⟩ := kept
  have lists : (m.cleared.filters.netIds, m.cleared.filters.joinEuis) =
      (m.filters.netIds, m.filters.joinEuis) := by
    rw [Members.cleared]
    split
    next disabled =>
      rcases enabled with yes | ⟨noNetIds, noJoinEuis⟩
      · rw [yes] at disabled
        cases disabled
      · rw [noNetIds, noJoinEuis]
    next => rfl
  obtain ⟨netIds, joinEuis⟩ := Prod.mk.inj lists
  rw [Filters.reread]
  split
  next empty =>
    rw [netIds] at empty
    rw [empty, second empty]
  next =>
    split
    next empty =>
      rw [joinEuis] at empty
      rw [netIds, empty]
    next => exact lists

theorem SemtechUdp.reread_kept {udp : SemtechUdp} (kept : KeptBind udp.ip udp.port)
    {address : Option (String × UInt32)} (splits : splitBind (joined udp.ip udp.port) = .ok address) :
    udp.reread address = udp := by
  obtain ⟨same, here, read⟩ := splitBind_kept kept
  cases splits.symm.trans here
  rw [SemtechUdp.reread, read]

theorem frequency_kept {n : UInt64} (fits : n.toNat < 2 ^ 32) : n.toUInt32.toUInt64 = n := by
  apply UInt64.toNat_inj.mp
  rw [UInt32.toNat_toUInt64, UInt64.toNat_toUInt32, Nat.mod_eq_of_lt fits]

theorem BasicStation.reread_kept {bs : BasicStation} (kept : KeptBind bs.ip bs.port)
    (low : bs.frequencyMin.toNat < 2 ^ 32) (high : bs.frequencyMax.toNat < 2 ^ 32)
    {address : Option (String × UInt32)} (splits : splitBind (joined bs.ip bs.port) = .ok address) :
    bs.reread address = bs := by
  obtain ⟨same, here, read⟩ := splitBind_kept kept
  cases splits.symm.trans here
  rw [BasicStation.reread, read, frequency_kept low, frequency_kept high]

theorem Generic.reread_kept {generic : Generic} (kept : KeptServer generic.ip generic.port)
    {address : Option (String × UInt32)}
    (splits : splitServer (joined generic.ip generic.port) = .ok address) :
    generic.reread address = generic := by
  obtain ⟨same, here, read⟩ := splitServer_kept kept
  cases splits.symm.trans here
  rw [Generic.reread, read]

section

variable {json : JsonText} {toml : TomlText}

/-- One request. -/
theorem setStep_keeps {disk : BridgeDisk} {r : SetRequest} {m : Members}
    (reads : ReadsAs toml disk.conf m) (accepted : SetAccepted json toml disk r)
    (keeps : KeepsOthers json toml disk r) :
    ∃ m', ReadsAs toml (setStep json toml disk r).conf m' ∧
      ∀ s ≠ r.target, s.fields m' = s.fields m := by
  obtain ⟨remoteJson, parse, conf⟩ := setStep_conf reads accepted
  obtain ⟨⟨plain, ⟨udp, udpSplits⟩, ⟨bs, bsSplits⟩, ⟨server, serverSplits⟩, fits⟩, kept⟩ :=
    keeps m remoteJson reads parse
  refine ⟨_, conf ▸ readsAs_output toml plain udpSplits bsSplits serverSplits fits, ?_⟩
  obtain ⟨others, lists⟩ := applyFields_within (requestFields_within remoteJson r.target) m
  have unchanged {s : Section} (other : s ≠ r.target) (noFilters : s ≠ .filters) :
      s.fields (m.requested r.target.setOption remoteJson) = s.fields m :=
    (cleared_fields _ noFilters).trans (others s other)
  intro s other
  have keep := kept s other
  cases s with
  | general => exact unchanged other (by simp)
  | filters =>
    have same := lists other.symm
    have applied : (applyFields remoteJson (requestFields remoteJson r.target.setOption)
        m).filters.Kept := by
      rw [same]
      exact keep
    have fields := applied.fields
    rw [same] at fields
    exact congrArg (fun lists : List String × List (String × String) =>
      Fields.filters lists.1 lists.2) fields
  | backend =>
    obtain ⟨type, udpSame, bsSame⟩ := Fields.backend.inj (unchanged other (by simp))
    obtain ⟨udpKept, bsKept, low, high⟩ := keep
    rw [← udpSame] at udpKept
    rw [← bsSame] at bsKept low high
    have udpReread := SemtechUdp.reread_kept udpKept udpSplits
    have bsReread := BasicStation.reread_kept bsKept low high bsSplits
    rw [← unchanged other (by simp)]
    exact congrArg₂ (Fields.backend _) udpReread bsReread
  | integration =>
    obtain ⟨_, _, _, _, _, genericSame, _, _⟩ :=
      Fields.integration.inj (unchanged other (by simp))
    have genericKept : KeptServer m.generic.ip m.generic.port := keep
    rw [← genericSame] at genericKept
    have reread := Generic.reread_kept genericKept serverSplits
    rw [← unchanged other (by simp)]
    exact congrArg (fun generic => Fields.integration _ _ _ _ _ generic _ _) reread

/-- Any number of requests: a section that none of them is about is read as at the start, if each
of them can be read back and meets values that are kept. -/
theorem sets_keep_other_sections (disk : BridgeDisk) (requests : List SetRequest) (m : Members)
    (reads : ReadsAs toml disk.conf m)
    (guarded : Guarded (setStep json toml)
      (fun disk r => SetAccepted json toml disk r ∧ KeepsOthers json toml disk r) disk requests) :
    ∃ m', ReadsAs toml (run (setStep json toml) disk requests).conf m' ∧
      ∀ s, (∀ r ∈ requests, r.target ≠ s) → s.fields m' = s.fields m := by
  induction requests generalizing disk m with
  | nil => exact ⟨m, reads, fun _ _ => rfl⟩
  | cons r requests ih =>
    obtain ⟨⟨accepted, keeps⟩, later⟩ := guarded
    obtain ⟨m₁, reads₁, same₁⟩ := setStep_keeps reads accepted keeps
    obtain ⟨m₂, reads₂, same₂⟩ := ih (setStep json toml disk r) m₁ reads₁ later
    refine ⟨m₂, reads₂, fun s untouched => ?_⟩
    rw [same₂ s fun other member => untouched other (by simp [member]),
      same₁ s (untouched r (by simp)).symm]

end

/-! ### A list that is lost -/

theorem ReadsAs.unique {toml : TomlText} {conf : Option (List (List Char))} {m m' : Members}
    (first : ReadsAs toml conf m) (second : ReadsAs toml conf m') : m = m' := by
  obtain ⟨data, valid, read⟩ := first
  obtain ⟨data', valid', read'⟩ := second
  cases valid.symm.trans valid'
  have same := (read ⟨false, false, false⟩ ⟨none, fun _ => none⟩).symm.trans
    (read' ⟨false, false, false⟩ ⟨none, fun _ => none⟩)
  exact congrArg BridgeToml.members (Prod.mk.inj same).2

/-- With a file that is read without error, a request is accepted if it has its fields. -/
theorem setAccepted_of_accepts {json : JsonText} {toml : TomlText} {disk : BridgeDisk}
    {r : SetRequest} {m : Members} (reads : ReadsAs toml disk.conf m)
    (accepts : AcceptsRequest json r.target.setOption r.inputJson) :
    SetAccepted json toml disk r := by
  obtain ⟨data, valid, read⟩ := reads
  have forEach : (parseTomlForEach data ⟨.initial r.uninitialised, disk⟩).1 = .ok () := by
    simp only [parseTomlForEach, Proc.tryCatch, read]
  have returns : Ends (mainTomlSet json toml r.uninitialised r.target.setOption r.inputJson) disk _
      fun _ _ => False :=
    (mainTomlSet_ends json r.uninitialised r.target.setOption r.inputJson valid).imp
      (fun _ _ outcome => outcome) (by simp [forEach])
  obtain ⟨⟨rc, rsp⟩, disk', returned, ⟨zero, _⟩ | ⟨_, rejected, _⟩⟩ := returns.returns
  · refine ⟨rsp, ?_⟩
    rw [returned]
    exact congrArg (fun rc => Except.ok (rc, rsp)) zero
  · exact absurd accepts rejected

/-- A configuration with little in it. -/
def sampleMembers (logLevel : UInt32) (filters : Filters) : Members :=
  { Members.initial ⟨false, false, false⟩ with
    logLevel := logLevel, filters := filters, backendType := "semtech_udp", mqttAuthType := "generic" }

theorem sampleMembers_readable (logLevel : UInt32) {filters : Filters}
    (netIds : ∀ s ∈ filters.netIds, PlainItem s)
    (joinEuis : ∀ e ∈ filters.joinEuis, PlainItem e.1 ∧ PlainItem e.2) :
    (sampleMembers logLevel filters).Readable := by
  have texts : ∀ s ∈ (sampleMembers logLevel filters).texts, '[' ∉ s.toList := by
    change ∀ s ∈ (sampleMembers 0 {}).texts, _
    decide
  constructor
  · refine ⟨fun s member => plainText_of_open (texts s member), ?_, netIds, joinEuis, ?_⟩
    · change ∀ ip ∈ ["", "", ""], _
      simp
    · change "semtech_udp" ≠ "" ∧ "generic" ≠ ""
      decide
  · exact ⟨none, if_pos (by rw [joined_toList]; rfl)⟩
  · exact ⟨none, if_pos (by rw [joined_toList]; rfl)⟩
  · exact ⟨none, if_pos (by rw [joined_toList]; rfl)⟩
  · change ∀ sec ∈ ([0, 0, 0, 0, 0, 0] : List UInt32), _
    exact List.all_iff_forall_prop.mp (by decide)

/-- The file of such a configuration. -/
def sampleDisk (filters : Filters) : BridgeDisk :=
  ⟨some (outputFormattedTomlFile (sampleMembers 4 filters)), fun _ => none⟩

theorem readsAs_sample (toml : TomlText) {logLevel : UInt32} {filters : Filters}
    (netIds : ∀ s ∈ filters.netIds, PlainItem s)
    (joinEuis : ∀ e ∈ filters.joinEuis, PlainItem e.1 ∧ PlainItem e.2) :
    ReadsAs toml (some (outputFormattedTomlFile (sampleMembers logLevel filters)))
      (sampleMembers logLevel filters.reread) :=
  readsAs_output toml (sampleMembers_readable logLevel netIds joinEuis).plain
    (if_pos (by rw [joined_toList]; rfl)) (if_pos (by rw [joined_toList]; rfl))
    (if_pos (by rw [joined_toList]; rfl)) (sampleMembers_readable logLevel netIds joinEuis).durations

def levelSet : SetRequest :=
  ⟨.general, JsonCodec.text.dump levelRequest, ⟨false, false, false⟩⟩

theorem levelSet_parse : JsonCodec.text.parse levelSet.inputJson = some levelRequest :=
  JsonCodec.text.parse_dump _ (Json.Proper.null.put (.uint _) _)

theorem levelSet_fields : requestFields levelRequest levelSet.target.setOption = [generalField] := by
  rw [requestFields, if_neg levelSet.target.not_all]
  exact if_pos rfl

theorem levelSet_accepts :
    AcceptsRequest JsonCodec.text levelSet.target.setOption levelSet.inputJson := by
  refine ⟨levelRequest, levelSet_parse, ?_⟩
  rw [levelSet_fields]
  decide

theorem levelSet_requested (m : Members) :
    m.requested levelSet.target.setOption levelRequest = ({ m with logLevel := 5 } : Members).cleared := by
  rw [Members.requested, levelSet_fields]
  rfl

/-- A file with the first list only is read without error, but both lists are gone after a request
for the level of the log. -/
theorem sets_lose_net_ids :
    ¬ ∀ (json : JsonText) (toml : TomlText) (disk : BridgeDisk) (r : SetRequest) (m : Members),
      ReadsAs toml disk.conf m → SetAccepted json toml disk r →
      ∃ m', ReadsAs toml (setStep json toml disk r).conf m' ∧
        ∀ s ≠ r.target, s.fields m' = s.fields m := by
  intro kept
  let filters : Filters := { enable := true, netIds := ["000000"] }
  have plain : ∀ s ∈ filters.netIds, PlainItem s := by
    simp [filters, PlainItem, List.infix_cons_iff]
  have reads := @readsAs_sample TomlCodec.text 4 filters plain (by simp [filters])
  have accepted := @setAccepted_of_accepts _ _ (sampleDisk filters) levelSet _ reads levelSet_accepts
  obtain ⟨m', reads', same⟩ := kept _ _ (sampleDisk filters) levelSet _ reads accepted
  obtain ⟨remoteJson, parse, conf⟩ := setStep_conf reads accepted
  cases levelSet_parse.symm.trans parse
  rw [conf, levelSet_requested] at reads'
  -- The filter is read as disabled, so that the lists are cleared.
  have after := @readsAs_sample TomlCodec.text 5 {} (by simp) (by simp)
  cases reads'.unique after
  have lists := same .filters (by decide)
  exact absurd (Fields.filters.inj lists).1 (by decide)

/-- With both lists, the filter survives. -/
theorem sets_keep_other_sections_both_lists :
    let filters : Filters := ⟨true, ["000000"], [("0000000000000000", "00000000000000ff")]⟩
    ∃ m', ReadsAs TomlCodec.text
        (run (setStep JsonCodec.text TomlCodec.text) (sampleDisk filters) [levelSet]).conf m' ∧
      ∀ s, (∀ r ∈ [levelSet], r.target ≠ s) → s.fields m' = s.fields (sampleMembers 4 filters) := by
  intro filters
  have netIds : ∀ s ∈ filters.netIds, PlainItem s := by
    simp [filters, PlainItem, List.infix_cons_iff]
  have joinEuis : ∀ e ∈ filters.joinEuis, PlainItem e.1 ∧ PlainItem e.2 := by
    simp [filters, PlainItem, List.infix_cons_iff]
  have reads := @readsAs_sample TomlCodec.text 4 filters netIds joinEuis
  have accepted := @setAccepted_of_accepts _ _ (sampleDisk filters) levelSet _ reads levelSet_accepts
  refine sets_keep_other_sections _ _ _ reads ⟨⟨accepted, ?_⟩, trivial⟩
  intro m remoteJson same parse
  cases levelSet_parse.symm.trans parse
  cases reads.unique same
  rw [levelSet_requested]
  refine ⟨sampleMembers_readable 5 netIds joinEuis, ?_⟩
  rintro (_ | _ | _ | _) other
  · trivial
  · exact ⟨.inl rfl, by decide⟩
  · exact ⟨.inl ⟨rfl, rfl⟩, .inl ⟨rfl, rfl⟩, by decide, by decide⟩
  · exact .inl ⟨rfl, rfl⟩

end LorawanFeeds.Cgi
