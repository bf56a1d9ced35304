import LorawanFeeds.Lib.Run
import LorawanFeeds.Cgi.Answers
import LorawanFeeds.Cgi.BastOutcome
import LorawanFeeds.Cgi.Documents

/-!
# The file of the work mode

The mode is recorded by the CGI program and by the script `lorawan_mode`, and is read by two
requests. The script writes nothing but the mode, also for the station, of which the request for
the work mode expects two more members.
-/
namespace LorawanFeeds.Cgi

open Lib Bridge Proc

/-! ### The two writers -/

/-- The commands of `lorawan_mode` that set a mode. -/
inductive ScriptMode where
  | packetForwarder
  | bridge
  | basicstation
  deriving DecidableEq, Repr

/-- What `set_lora_mode` is called with. -/
def ScriptMode.name : ScriptMode → String
  | packetForwarder => "PKFD"
  | bridge => "BRDG"
  | basicstation => "BAST"

/-- The text that `json_dump` of `jshn` prints after `json_add_string 'work_mode'`: the object with
this member. -/
structure Jshn (lib : JsonText) where
  jsonDump : String → Bytes
  read_jsonDump : ∀ mode, lib.read (jsonDump mode) = some (Json.null.put ["work_mode"] (.str mode))

/-- A step that has changed the mode: a request, or a command of the script. -/
inductive Change where
  | set (mode : String)
  | script (mode : ScriptMode)
  deriving DecidableEq, Repr

/-- The gateway, and the last change of its mode. -/
structure ModeState where
  gateway : Gateway
  last : Option Change := none

inductive ModeStep where
  | set (sys : System) (inputJson : Bytes)
  | script (mode : ScriptMode)

/-- The modes that a request records. -/
def recordedModes : List String := ["PKFD", "BAST", "BRDG"]

/-- The change that a request makes: it has to succeed, and to name a mode. -/
def changeOf (requested : Option String) : Except Exception (Int × String) → Option Change
  | .ok (0, _) => (requested.filter (· ∈ recordedModes)).map .set
  | _ => none

/-- `set_lora_mode`. -/
def setLoraMode {lib : JsonText} (jshn : Jshn lib) (mode : ScriptMode) (g : Gateway) : Gateway :=
  g.setFile lorawanModeConfDefault (some (jshn.jsonDump mode.name))

/-- A request is handled by a process of its own, in which `err_file_path` is empty. -/
def ModeState.step {lib : JsonText} (jshn : Jshn lib) (s : ModeState) : ModeStep → ModeState
  | .set sys inputJson =>
    let (result, g) := mainLorawanWorkmodeSet lib sys inputJson { s.gateway with errFilePath := "" }
    ⟨g, (changeOf (requestedMode lib inputJson) result).or s.last⟩
  | .script mode => ⟨setLoraMode jshn mode s.gateway, some (.script mode)⟩

/-- The mode of the last change; the shipped file has none. -/
def recordedMode : Option Change → String
  | none => "unknown"
  | some (.set mode) => mode
  | some (.script mode) => mode.name

/-! ### The two readers -/

/-- The response is a document that names the mode, and more of the mode `BAST`. -/
def ReportsMode (lib : JsonText) (mode : String) (rsp : Bytes) : Prop :=
  ∃ uploadJson, rsp = lib.dump uploadJson ∧ uploadJson.lookup ["work_mode"] = some (.str mode) ∧
    (mode = "BAST" → ∃ stationMode authMode,
      uploadJson.lookup ["station_mode"] = some (.str stationMode) ∧
        uploadJson.lookup ["auth_mode"] = some (.int authMode))

/-- Both requests succeed and report the mode. -/
def Readable (lib : JsonText) (mac : Option (Fin 6 → UInt8)) (running : String → Bool)
    (g : Gateway) (mode : String) : Prop :=
  (∃ rsp, (mainLorawanWorkmodeGet lib mac running g).1 = .ok (0, rsp) ∧ ReportsMode lib mode rsp) ∧
    ∃ uploadJson, (mainLorawanOnlineGet lib running g).1 = .ok (0, lib.dump uploadJson) ∧
      uploadJson.lookup ["work_mode"] = some (.str mode)

/-! ### What is assumed -/

/-- The library writes a signed integer that is not negative as the unsigned one. -/
def SignedAsUnsigned (lib : JsonText) : Prop :=
  ∀ (front back : List (String × Json)) (key : String) (i : Int64), 0 ≤ i →
    lib.dump (.obj (front ++ (key, .int i) :: back)) =
      lib.dump (.obj (front ++ (key, .uint i.toUInt64) :: back))

/-- The file of the mode as it is shipped. -/
def Shipped (lib : JsonText) (g : Gateway) : Prop :=
  documentAt lib g lorawanModeConfDefault = some (Json.null.put ["work_mode"] (.str "unknown"))

/-- The file of the region names one. -/
def RegionGiven (lib : JsonText) (g : Gateway) : Prop :=
  ∃ localJson region, documentAt lib g lorawanRegionConfDefault = some localJson ∧
    localJson.lookup ["lorawan_region"] = some (.str region)

/-- The uploaded addresses and tokens are texts. -/
def CredentialTexts (g : Gateway) : Prop :=
  ∀ entry ∈ [uriEntry g "LNS" tcUri, tokenEntry g "LNS" tcClientToken, uriEntry g "CUPS" cupsUri,
    tokenEntry g "CUPS" cupsClientToken], (JsonCodec.ofUtf8 entry.2).isSome = true

/-! ### Files that a request leaves alone -/

/-- No request writes to the path. -/
structure Unwritten (path : String) : Prop where
  tables : path ∉ authTables
  settings : path ≠ stationConfDefault
  mode : path ≠ lorawanModeConfDefault

/-- The other files are the same, but for a log file that was not there. -/
def OthersLeft (g g' : Gateway) : Prop := ∀ path, Unwritten path →
  g'.files path = g.files path ∨ g.files path = none ∧ g'.files path = some []

theorem OthersLeft.trans {g g₁ g₂ : Gateway} (first : OthersLeft g g₁)
    (second : ∀ path, Unwritten path → g₂.files path = g₁.files path) : OthersLeft g g₂ := by
  intro path unwritten
  rw [second path unwritten]
  exact first path unwritten

/-- A log file is made only where there is none. -/
theorem OthersLeft.update {g g₁ g₂ : Gateway} {log : String} (left : OthersLeft g g₁)
    (files : g₂.files = if g₁.Has log then g₁.files
      else Function.update g₁.files log (some [])) : OthersLeft g g₂ := by
  split at files
  · exact left.trans fun path _ => congrFun files path
  next absent =>
    rw [Gateway.Has, not_or, Option.not_isSome_iff_eq_none] at absent
    intro path unwritten
    by_cases here : path = log
    · subst here
      refine .inr ⟨?_, by rw [files, Function.update_self]⟩
      rcases left path unwritten with same | ⟨none, -⟩
      · rw [← same, absent.1]
      · exact none
    · rw [files, Function.update_of_ne here]
      exact left path unwritten

theorem setBast_left (lib : JsonText) (sys : System) (g : Gateway) (stationMode authMode : Int32) :
    Ends (setBast lib sys stationMode authMode) g (fun _ g' => OthersLeft g g')
      fun _ g' => OthersLeft g g' := by
  refine ends_bind ((stationAuthModeHandle_ends sys stationMode authMode g).imp ?_
    fun _ _ stop => stop.elim)
  intro rc g₁ authenticated
  have left₁ : OthersLeft g g₁ := fun path unwritten =>
    .inl (authenticated.others path unwritten.tables)
  split
  · exact ends_bind (ends_get (ends_pure left₁))
  · refine ends_bind ((stationAdaptToSpidevPath_ends lib sys g₁).imp ?_ ?_)
    · rintro rc g₂ ⟨-, files₂, -⟩
      have left₂ : OthersLeft g g₂ := left₁.trans fun path unwritten =>
        files₂ path unwritten.settings
      split
      · exact ends_pure left₂
      · refine ends_bind ((stationCreateLogFile_ends lib sys g₂).imp ?_ ?_)
        · intro rc g₃ created
          have left₃ : OthersLeft g g₃ := by
            rcases created with ⟨-, files₃⟩ | ⟨-, log, -, files₃⟩
            · exact left₂.trans fun path _ => congrFun files₃ path
            · exact left₂.update files₃
          split
          · exact ends_pure left₃
          · refine ends_bind (ends_modify (ends_bind (ends_modify (ends_pure ?_))))
            exact left₃.trans fun path unwritten => g₃.setFile_files_of_ne unwritten.mode _
        · intro _ g₃ files₃
          exact left₂.trans fun path _ => congrFun files₃ path
    · rintro _ _ rfl
      exact left₁

/-! ### The file of the mode after a request -/

/-- What a request does to the file of the mode. -/
inductive ModeOutcome (lib : JsonText) (requested : Option String) (g g' : Gateway) : Int → Prop
  | recorded {mode : String} (named : requested = some mode) (plain : mode = "PKFD" ∨ mode = "BRDG")
      (file : g'.files lorawanModeConfDefault =
        some (lib.dump (Json.null.put ["work_mode"] (.str mode)) ++ [10])) :
      ModeOutcome lib requested g g' 0
  | bast {stationMode authMode : Int32} (named : requested = some "BAST")
      (file : g'.files lorawanModeConfDefault =
        some (lib.dump (bastJson stationMode authMode) ++ [10])) : ModeOutcome lib requested g g' 0
  | kept {rc : Int} (none : rc = 0 → ∀ mode ∈ requested, mode ∉ recordedModes)
      (file : g'.files lorawanModeConfDefault = g.files lorawanModeConfDefault) :
      ModeOutcome lib requested g g' rc

theorem setBast_outcome (lib : JsonText) (sys : System) (g : Gateway) (stationMode authMode : Int32)
    {requested : Option String} (named : requested = some "BAST") :
    Ends (setBast lib sys stationMode authMode) g
      (fun answer g' => ModeOutcome lib requested g g' answer.1 ∧ OthersLeft g g')
      fun _ g' => ModeOutcome lib requested g g' (-1) ∧ OthersLeft g g' := by
  have outcome {rc : Int} {g' : Gateway} (set : BastSet lib sys stationMode authMode g rc g') :
      ModeOutcome lib requested g g' rc := by
    rcases set.code with rfl | rfl
    · exact .bast named (set.recorded rfl)
    · exact .kept (fun zero => absurd zero (by decide)) (set.failed rfl).2
  exact ((setBast_ends lib sys stationMode authMode g).and
    (setBast_left lib sys g stationMode authMode)).imp
    (fun _ _ both => ⟨outcome both.1, both.2⟩) fun _ _ both => ⟨outcome both.1, both.2⟩

theorem workmodeSet_outcome (lib : JsonText) (sys : System) (inputJson : Bytes) (g : Gateway) :
    Ends (workmodeSet lib sys inputJson) g
      (fun answer g' => ModeOutcome lib (requestedMode lib inputJson) g g' answer.1 ∧
        OthersLeft g g')
      fun _ g' => ModeOutcome lib (requestedMode lib inputJson) g g' (-1) ∧ OthersLeft g g' := by
  have failed : ModeOutcome lib (requestedMode lib inputJson) g g (-1) ∧ OthersLeft g g :=
    ⟨.kept (fun zero => absurd zero (by decide)) rfl, fun _ _ => .inl rfl⟩
  apply ends_bind
  cases parse : lib.parse inputJson with
  | none => exact ends_raise failed
  | some remoteJson =>
    apply ends_pure
    apply ends_bind
    rw [throwing]
    cases name : remoteJson.indexPath ["body", "work_mode"] >>= Json.asString with
    | error e => exact ends_raise failed
    | ok workmode =>
      apply ends_pure
      have requested : requestedMode lib inputJson = some workmode := by
        simp [requestedMode, parse, name, Except.toOption]
      split
      · exact ends_pure failed
      next known =>
        split
        next bast =>
          subst bast
          apply ends_bind
          refine ends_ofExcept ?_ fun _ _ => failed
          intro stationMode _
          apply ends_bind
          refine ends_ofExcept ?_ fun _ _ => failed
          intro authMode _
          exact setBast_outcome lib sys g stationMode authMode requested
        next notBast =>
          -- The other services are only started or stopped.
          have unrecorded (other : workmode ∉ recordedModes) (services : List String) :
              ModeOutcome lib (requestedMode lib inputJson) g { g with services := services } 0 ∧
                OthersLeft g { g with services := services } := by
            refine ⟨.kept (fun _ mode member => ?_) rfl, fun _ _ => .inl rfl⟩
            rw [requested] at member
            cases member
            exact other
          split
          next closed =>
            refine ends_bind (ends_modify (ends_pure (unrecorded ?_ _)))
            rw [closed]
            decide
          · split
            next restarted =>
              refine ends_bind (ends_modify (ends_pure (unrecorded ?_ _)))
              rw [restarted]
              decide
            next notClosed notRestarted =>
              refine ends_bind (ends_modify (ends_bind (ends_modify (ends_pure ?_))))
              have file := g.setFile_files_self lorawanModeConfDefault
                (some (lib.dump (Json.null.put ["work_mode"] (.str workmode)) ++ [10]))
              refine ⟨.recorded requested ?_ file, fun path unwritten => ?_⟩
              · simp only [List.mem_cons, List.not_mem_nil, or_false, not_not] at known
                rcases known with named | named | named | named | named
                · exact .inl named
                · exact absurd named notBast
                · exact .inr named
                · exact absurd named notClosed
                · exact absurd named notRestarted
              · exact .inl (g.setFile_files_of_ne unwritten.mode _)

theorem mainLorawanWorkmodeSet_outcome (lib : JsonText) (sys : System) (inputJson : Bytes)
    (g : Gateway) :
    Ends (mainLorawanWorkmodeSet lib sys inputJson) g
      (fun answer g' => ModeOutcome lib (requestedMode lib inputJson) g g' answer.1 ∧
        OthersLeft g g') fun _ _ => False := by
  apply ends_tryCatch
  refine (workmodeSet_outcome lib sys inputJson g).imp (fun _ _ outcome => outcome) ?_
  intro _ g' outcome
  rw [if_pos rfl]
  exact ends_pure outcome

/-! ### The requests that read -/

theorem mapM_isSome {α β : Type} (f : α → Option β) (items : List α) :
    (items.mapM f).isSome = true ↔ ∀ item ∈ items, (f item).isSome = true := by
  induction items with
  | nil => simp
  | cons item items ih =>
    rw [List.mapM_cons, List.forall_mem_cons, ← ih]
    cases f item with
    | none => simp
    | some value => cases items.mapM f <;> simp

theorem ofUtf8_textBytes (s : String) : (JsonCodec.ofUtf8 (textBytes s)).isSome = true := by
  have same : textBytes s = JsonCodec.utf8 s := Utf8.toList_loop _ 0 []
  rw [same, JsonCodec.ofUtf8_utf8]
  rfl

theorem values_isSome_iff (g : Gateway) :
    ((fillJsonForAuthFile g).mapM TextEntry.value).isSome = true ↔ CredentialTexts g := by
  have value (entry : TextEntry) : entry.value.isSome = (JsonCodec.ofUtf8 entry.2).isSome := by
    simp [TextEntry.value]
  have empty : (JsonCodec.ofUtf8 []).isSome = true := by decide
  have file (mode : String) (files : List FileInfo) :
      ∀ entry ∈ files.map (fileEntry g mode), (JsonCodec.ofUtf8 entry.2).isSome = true := by
    intro entry member
    obtain ⟨info, -, rfl⟩ := List.mem_map.mp member
    rw [fileEntry]
    split
    · exact ofUtf8_textBytes _
    · exact empty
  have certificate (mode bsTrust trust name : String) :
      ∀ entry ∈ defaultEntry g mode bsTrust trust name,
        (JsonCodec.ofUtf8 entry.2).isSome = true := by
    intro entry member
    rw [defaultEntry] at member
    split at member
    · rw [List.mem_singleton.mp member]
      exact ofUtf8_textBytes name
    · cases member
  have credentials : CredentialTexts g ↔ ∀ entry ∈ [uriEntry g "LNS" tcUri,
      tokenEntry g "LNS" tcClientToken] ++ [uriEntry g "CUPS" cupsUri,
      tokenEntry g "CUPS" cupsClientToken], (JsonCodec.ofUtf8 entry.2).isSome = true := Iff.rfl
  rw [mapM_isSome, credentials]
  simp only [value, fillJsonForAuthFile, List.forall_mem_append]
  constructor
  · rintro ⟨⟨⟨-, lns⟩, -⟩, cups⟩
    exact ⟨lns, cups⟩
  · rintro ⟨lns, cups⟩
    exact ⟨⟨⟨⟨⟨file _ _, certificate _ _ _ _⟩, certificate _ _ _ _⟩, lns⟩, file _ _⟩, cups⟩

section

variable {lib : JsonText} {g : Gateway} {localJson : Json} {mode : String}
  (read : documentAt lib g lorawanModeConfDefault = some localJson)
  (named : localJson.lookup ["work_mode"] = some (.str mode))

include named in
theorem asString_work_mode :
    (localJson.indexPath ["work_mode"] >>= Json.asString) = .ok mode := by
  rw [Json.indexPath_of_lookup named]
  rfl

include read named

theorem onlineGet_reports (running : String → Bool) :
    ∃ uploadJson, (mainLorawanOnlineGet lib running g).1 = .ok (0, lib.dump uploadJson) ∧
      uploadJson.lookup ["work_mode"] = some (.str mode) := by
  have ends : Ends (mainLorawanOnlineGet lib running) g
      (fun result _ => ∃ uploadJson, result = (0, lib.dump uploadJson) ∧
        uploadJson.lookup ["work_mode"] = some (.str mode)) fun _ _ => False := by
    apply ends_tryCatch
    apply ends_bind
    refine ends_readJson ?_ fun missing => by cases missing.symm.trans read
    intro document found
    cases read.symm.trans found
    apply ends_bind
    refine ends_converted ?_ fun _ fails => by cases fails.symm.trans (asString_work_mode named)
    intro workmode found
    cases (asString_work_mode named).symm.trans found
    exact ends_pure ⟨_, rfl, Json.lookup_put_self _ _ _⟩
  obtain ⟨result, g', returned, uploadJson, rfl, reported⟩ := ends.returns
  exact ⟨uploadJson, by rw [returned], reported⟩

/-- The request for the work mode succeeds exactly if the members of the mode are there, and the
uploaded texts can be written. -/
theorem workmodeGet_ends (region : RegionGiven lib g) (mac : Option (Fin 6 → UInt8))
    (running : String → Bool) :
    Ends (mainLorawanWorkmodeGet lib mac running) g
      (fun result _ => result.1 = -1 ∧
          ((∀ fields, bastFields localJson mode ≠ .ok fields) ∨ ¬ CredentialTexts g) ∨
        ∃ gatewayId freq fields texts, bastFields localJson mode = .ok fields ∧ CredentialTexts g ∧
          (fillJsonForAuthFile g).mapM TextEntry.value = some texts ∧
            result = (0, lib.dump ((Json.null.putAll ([(["gateway_id"], gatewayId),
              (["freq"], freq)] ++ fields ++ [(["work_mode"], .str mode),
              (["online"], onlineState running mode)])).putAll texts)))
      fun _ _ => False := by
  obtain ⟨regionJson, name, there, given⟩ := region
  have asRegion : (regionJson.indexPath ["lorawan_region"] >>= Json.asString) = .ok name := by
    rw [Json.indexPath_of_lookup given]
    rfl
  apply ends_tryCatch
  apply ends_bind
  refine ends_readJson ?_ fun missing => by cases missing.symm.trans read
  intro document found
  cases read.symm.trans found
  apply ends_bind
  apply ends_bind
  refine ends_readJson ?_ fun missing => by cases missing.symm.trans there
  intro document found
  cases there.symm.trans found
  apply ends_bind
  refine ends_converted ?_ fun _ fails => by cases fails.symm.trans asRegion
  intro region found
  cases asRegion.symm.trans found
  apply ends_pure
  apply ends_bind
  refine ends_converted ?_ fun _ fails => by cases fails.symm.trans (asString_work_mode named)
  intro workmode found
  cases (asString_work_mode named).symm.trans found
  apply ends_bind
  refine ends_converted ?_ ?_
  · intro fields isBast
    apply ends_bind
    apply ends_get
    apply ends_bind
    rw [dumpTexts]
    cases values : (fillJsonForAuthFile g).mapM TextEntry.value with
    | none =>
      refine ends_raise ?_
      rw [if_pos (by decide)]
      refine ends_pure (.inl ⟨rfl, .inr fun credentials => ?_⟩)
      have some := (values_isSome_iff g).mpr credentials
      rw [values] at some
      cases some
    | some texts =>
      have credentials := (values_isSome_iff g).mp (by rw [values]; rfl)
      exact ends_pure (ends_pure (.inr ⟨_, _, fields, texts, isBast, credentials, rfl, rfl⟩))
  · intro e fails
    rw [if_pos (by decide)]
    refine ends_pure (.inl ⟨rfl, .inl fun fields isBast => ?_⟩)
    cases fails.symm.trans isBast

omit read named

/-- The texts of the files are members of the station. -/
theorem station_path {texts : List (List String × Json)}
    (values : (fillJsonForAuthFile g).mapM TextEntry.value = some texts) :
    ∀ field ∈ texts, field.1.head? = some "station" := by
  have paths (entries : List TextEntry) (station : ∀ entry ∈ entries, entry.1.head? = some "station")
      (fields : List (List String × Json)) (values : entries.mapM TextEntry.value = some fields) :
      ∀ field ∈ fields, field.1.head? = some "station" := by
    induction entries generalizing fields with
    | nil =>
      cases values
      simp
    | cons entry entries ih =>
      rw [List.mapM_cons] at values
      obtain ⟨first, read, values⟩ := Option.bind_eq_some_iff.mp values
      obtain ⟨rest, more, values⟩ := Option.bind_eq_some_iff.mp values
      cases values
      obtain ⟨text, _, rfl⟩ := Option.map_eq_some_iff.mp read
      intro field member
      rcases List.mem_cons.mp member with rfl | later
      · exact station entry (.head _)
      · exact ih (fun e inside => station e (.tail _ inside)) rest more field later
  refine paths _ ?_ _ values
  have certificate (mode bsTrust trust name : String) :
      ∀ entry ∈ defaultEntry g mode bsTrust trust name, entry.1.head? = some "station" := by
    rw [defaultEntry]
    split <;> simp
  simp only [fillJsonForAuthFile, List.forall_mem_append]
  refine ⟨⟨⟨⟨⟨?_, certificate _ _ _ _⟩, certificate _ _ _ _⟩, ?_⟩, ?_⟩, ?_⟩ <;>
    simp [fileEntry, uriEntry, tokenEntry]

/-- What the document of a mode has besides. -/
theorem bastFields_ok {fields : List (List String × Json)}
    (isBast : bastFields localJson mode = .ok fields) :
    mode ≠ "BAST" ∧ fields = [] ∨ mode = "BAST" ∧ ∃ stationMode authMode,
      fields = [(["station_mode"], .str stationMode), (["auth_mode"], .int authMode)] := by
  rw [bastFields] at isBast
  split at isBast
  next bast =>
    obtain ⟨stationMode, -, isBast⟩ := except_bind_eq_ok.mp isBast
    obtain ⟨authMode, -, isBast⟩ := except_bind_eq_ok.mp isBast
    cases isBast
    exact .inr ⟨bast, _, _, rfl⟩
  next other =>
    cases isBast
    exact .inl ⟨other, rfl⟩

theorem reportsMode_of_fields {fields texts : List (List String × Json)} {gatewayId freq online : Json}
    (isBast : bastFields localJson mode = .ok fields)
    (station : ∀ field ∈ texts, field.1.head? = some "station") :
    ReportsMode lib mode (lib.dump ((Json.null.putAll ([(["gateway_id"], gatewayId),
      (["freq"], freq)] ++ fields ++ [(["work_mode"], .str mode),
      (["online"], online)])).putAll texts)) := by
  have apart {key : String} (other : key ≠ "station") :
      ∀ field ∈ texts, Json.Apart field.1 [key] := by
    intro field member
    have first := station field member
    cases path : field.1 with
    | nil => rw [path] at first; cases first
    | cons head rest =>
      rw [path] at first
      cases first
      exact .inl other.symm
  refine ⟨_, rfl, ?_⟩
  rcases bastFields_ok isBast with ⟨other, rfl⟩ | ⟨bast, stationMode, authMode, rfl⟩
  · have paths : List.Pairwise Json.Apart [["gateway_id"], ["freq"], ["work_mode"], ["online"]] := by
      decide
    refine ⟨?_, fun bast => absurd bast other⟩
    rw [Json.lookup_putAll_of_apart _ (apart (by decide))]
    refine Json.lookup_putAll _ ?_ (["work_mode"], .str mode) (by simp)
    exact paths
  · have paths : List.Pairwise Json.Apart [["gateway_id"], ["freq"], ["station_mode"], ["auth_mode"],
        ["work_mode"], ["online"]] := by
      decide
    refine ⟨?_, fun _ => ⟨stationMode, authMode, ?_, ?_⟩⟩
    · rw [Json.lookup_putAll_of_apart _ (apart (by decide))]
      refine Json.lookup_putAll _ ?_ (["work_mode"], .str mode) (by simp)
      exact paths
    · rw [Json.lookup_putAll_of_apart _ (apart (by decide))]
      refine Json.lookup_putAll _ ?_ (["station_mode"], .str stationMode) (by simp)
      exact paths
    · rw [Json.lookup_putAll_of_apart _ (apart (by decide))]
      refine Json.lookup_putAll _ ?_ (["auth_mode"], .int authMode) (by simp)
      exact paths

include read named in
theorem readable_iff (region : RegionGiven lib g) (mac : Option (Fin 6 → UInt8))
    (running : String → Bool) : Readable lib mac running g mode ↔
      (∃ fields, bastFields localJson mode = .ok fields) ∧ CredentialTexts g := by
  obtain ⟨result, g', returned, ended⟩ := (workmodeGet_ends read named region mac running).returns
  rw [Readable, and_iff_left (onlineGet_reports read named running), returned]
  rcases ended with ⟨failed, missing⟩ | ⟨gatewayId, freq, fields, texts, isBast, credentials, values, rfl⟩
  · refine iff_of_false ?_ ?_
    · rintro ⟨rsp, same, -⟩
      cases same
      cases failed
    · rintro ⟨⟨fields, isBast⟩, credentials⟩
      exact missing.elim (fun none => none fields isBast) fun no => no credentials
  · refine iff_of_true ⟨_, rfl, ?_⟩ ⟨⟨fields, isBast⟩, credentials⟩
    exact reportsMode_of_fields isBast (station_path values)

end

/-! ### Every sequence of steps -/

/-- What holds of the files and of the last change after any steps. -/
structure ModeKept (lib : JsonText) (start : Gateway) (s : ModeState) : Prop where
  /-- The document names the last mode. It has the members of the mode `BAST`, unless the script has
  set it. -/
  document : ∃ localJson, documentAt lib s.gateway lorawanModeConfDefault = some localJson ∧
    localJson.lookup ["work_mode"] = some (.str (recordedMode s.last)) ∧
      ((∃ fields, bastFields localJson (recordedMode s.last) = .ok fields) ↔
        s.last ≠ some (.script .basicstation))
  others : ∀ path, Unwritten path → s.gateway.files path = start.files path ∨
    start.files path = none ∧ s.gateway.files path = some []

/-- The document of the mode `BAST`, as it is read. -/
def bastDocument (station : String) (number : Json) : Json :=
  ((Json.null.put ["work_mode"] (.str "BAST")).put ["station_mode"] (.str station)).put
    ["auth_mode"] number

theorem bastDocument_eq (station : String) (number : Json) : bastDocument station number =
    .obj [("auth_mode", number), ("station_mode", .str station), ("work_mode", .str "BAST")] := rfl

/-- It is read with its members. -/
theorem read_bastJson {lib : JsonText} (signed : SignedAsUnsigned lib) (stationMode authMode : Int32) :
    ∃ localJson, lib.read (lib.dump (bastJson stationMode authMode) ++ [10]) = some localJson ∧
      localJson.lookup ["work_mode"] = some (.str "BAST") ∧
        ∃ fields, bastFields localJson "BAST" = .ok fields := by
  obtain ⟨station, written⟩ : ∃ station,
      bastJson stationMode authMode = bastDocument station (.int authMode.toInt64) := ⟨_, rfl⟩
  have proper {number : Json} (proper : number.Proper lib.finite) :
      (bastDocument station number).Proper lib.finite :=
    ((Json.Proper.null.put (.str _) _).put (.str _) _).put proper _
  rw [written]
  by_cases negative : authMode.toInt64 < 0
  · exact ⟨_, lib.read_dump_endl _ (proper (.int negative)), rfl, _, rfl⟩
  · -- The number is written as an unsigned one, and is read as such.
    have unsigned := signed [] [("station_mode", .str station), ("work_mode", .str "BAST")]
      "auth_mode" authMode.toInt64 (Int64.not_lt.mp negative)
    rw [List.nil_append, ← bastDocument_eq, List.nil_append, ← bastDocument_eq] at unsigned
    rw [unsigned]
    exact ⟨_, lib.read_dump_endl _ (proper (.uint _)), rfl, _, rfl⟩

section

variable {lib : JsonText} (jshn : Jshn lib) {start : Gateway} {s : ModeState}

/-- A plain document of a mode other than `BAST`. -/
theorem document_of_plain {g : Gateway} {last : Option Change} {text : Bytes}
    (file : g.files lorawanModeConfDefault = some text)
    (read : lib.read text = some (Json.null.put ["work_mode"] (.str (recordedMode last))))
    (plain : recordedMode last ≠ "BAST") :
    ∃ localJson, documentAt lib g lorawanModeConfDefault = some localJson ∧
      localJson.lookup ["work_mode"] = some (.str (recordedMode last)) ∧
        ((∃ fields, bastFields localJson (recordedMode last) = .ok fields) ↔
          last ≠ some (.script .basicstation)) := by
  refine ⟨_, by rw [documentAt, file, Option.bind_some, read], Json.lookup_put_self _ _ _,
    iff_of_true ⟨[], ?_⟩ ?_⟩
  · rw [bastFields, if_neg plain]
    rfl
  · rintro rfl
    exact plain rfl

theorem script_kept (kept : ModeKept lib start s) (mode : ScriptMode) :
    ModeKept lib start (s.step jshn (.script mode)) := by
  have file := s.gateway.setFile_files_self lorawanModeConfDefault (some (jshn.jsonDump mode.name))
  refine ⟨?_, fun path unwritten => ?_⟩
  · cases mode with
    | packetForwarder =>
      exact document_of_plain file (jshn.read_jsonDump _) (by decide : "PKFD" ≠ "BAST")
    | bridge => exact document_of_plain file (jshn.read_jsonDump _) (by decide : "BRDG" ≠ "BAST")
    | basicstation =>
      refine ⟨_, by rw [documentAt, ModeState.step, setLoraMode, file, Option.bind_some,
        jshn.read_jsonDump], rfl, iff_of_false ?_ fun other => other rfl⟩
      rintro ⟨fields, isBast⟩
      cases isBast
  · have same := s.gateway.setFile_files_of_ne unwritten.mode (some (jshn.jsonDump mode.name))
    rw [ModeState.step, setLoraMode, same]
    exact kept.others path unwritten

/-- A request that fails, or that names no mode, is no change. -/
theorem changeOf_eq_none {requested : Option String} {rc : Int} (rsp : String)
    (none : rc = 0 → ∀ mode ∈ requested, mode ∉ recordedModes) :
    changeOf requested (.ok (rc, rsp)) = Option.none := by
  rw [changeOf.eq_def]
  split
  next same =>
    cases same
    rw [Option.map_eq_none_iff, Option.filter_eq_none_iff]
    simpa using none rfl
  · rfl

theorem set_kept (signed : SignedAsUnsigned lib) (kept : ModeKept lib start s) (sys : System)
    (inputJson : Bytes) : ModeKept lib start (s.step jshn (.set sys inputJson)) := by
  obtain ⟨⟨rc, rsp⟩, g, returned, outcome, left⟩ := (mainLorawanWorkmodeSet_outcome lib sys inputJson
    { s.gateway with errFilePath := "" }).returns
  have others : ∀ path, Unwritten path → g.files path = start.files path ∨
      start.files path = none ∧ g.files path = some [] := by
    intro path unwritten
    rcases left path unwritten with same | ⟨none, empty⟩
    · rw [same]
      exact kept.others path unwritten
    · rcases kept.others path unwritten with same | ⟨_, filled⟩
      · exact .inr ⟨same.symm.trans none, empty⟩
      · cases filled.symm.trans none
  rw [ModeState.step, returned]
  refine ⟨?_, others⟩
  cases outcome with
  | @recorded mode named plain file =>
    have change : changeOf (requestedMode lib inputJson) (.ok (Int.ofNat 0, rsp)) =
        some (.set mode) := by
      rw [named]
      rcases plain with rfl | rfl
      · rfl
      · rfl
    have other : mode ≠ "BAST" := by
      rcases plain with rfl | rfl
      · decide
      · decide
    dsimp only
    rw [change]
    exact document_of_plain file (lib.read_dump_endl _ (Json.Proper.null.put (.str _) _)) other
  | @bast stationMode authMode named file =>
    have change : changeOf (requestedMode lib inputJson) (.ok (Int.ofNat 0, rsp)) =
        some (.set "BAST") := by
      rw [named]
      rfl
    obtain ⟨localJson, read, mode, fields⟩ := read_bastJson signed stationMode authMode
    dsimp only
    rw [change]
    exact ⟨localJson, by rw [documentAt, file, Option.bind_some, read], mode,
      iff_of_true fields (by simp)⟩
  | kept none file =>
    have change := changeOf_eq_none rsp none
    dsimp only
    rw [change, Option.none_or]
    obtain ⟨localJson, read, rest⟩ := kept.document
    exact ⟨localJson, by rw [documentAt, file]; exact read, rest⟩

theorem step_kept (signed : SignedAsUnsigned lib) (kept : ModeKept lib start s) (e : ModeStep) :
    ModeKept lib start (s.step jshn e) := by
  cases e with
  | set sys inputJson => exact set_kept jshn signed kept sys inputJson
  | script mode => exact script_kept jshn kept mode

end

theorem start_kept {lib : JsonText} {start : Gateway} (shipped : Shipped lib start) :
    ModeKept lib start ⟨start, none⟩ := by
  obtain ⟨text, file, read⟩ := Option.bind_eq_some_iff.mp shipped
  refine ⟨document_of_plain file read (by decide : "unknown" ≠ "BAST"), fun _ _ => .inl rfl⟩

theorem unwritten_region : Unwritten lorawanRegionConfDefault :=
  ⟨by simp [lorawanRegionConfDefault, authTables, authLnsTb, authCupsTb], by decide, by decide⟩

theorem unwritten_credentials :
    ∀ path ∈ [tcUri, tcClientToken, cupsUri, cupsClientToken], Unwritten path := by
  have each (path : String) (tables : path ∉ authTables) (settings : path ≠ stationConfDefault)
      (mode : path ≠ lorawanModeConfDefault) : Unwritten path := ⟨tables, settings, mode⟩
  simp only [List.forall_mem_cons, List.not_mem_nil, false_implies, implies_true, and_true]
  refine ⟨each _ ?_ (by decide) (by decide), each _ ?_ (by decide) (by decide),
    each _ ?_ (by decide) (by decide), each _ ?_ (by decide) (by decide)⟩ <;>
    simp [tcUri, tcClientToken, cupsUri, cupsClientToken, authTables, authLnsTb, authCupsTb]

section

variable {lib : JsonText} {start : Gateway} {s : ModeState} (kept : ModeKept lib start s)

include kept

theorem ModeKept.region (region : RegionGiven lib start) : RegionGiven lib s.gateway := by
  obtain ⟨localJson, name, read, given⟩ := region
  refine ⟨localJson, name, ?_, given⟩
  rcases kept.others _ unwritten_region with same | ⟨none, -⟩
  · rw [documentAt, same]
    exact read
  · rw [documentAt, none] at read
    cases read

/-- An empty file is read as no file. -/
theorem ModeKept.elim_files {path : String} (unwritten : Unwritten path) {f : Bytes → Bytes}
    (empty : f [] = []) : (s.gateway.files path).elim [] f = (start.files path).elim [] f := by
  rcases kept.others path unwritten with same | ⟨none, made⟩
  · rw [same]
  · rw [none, made, Option.elim_some, Option.elim_none, empty]

theorem ModeKept.credentials : CredentialTexts s.gateway ↔ CredentialTexts start := by
  have each := unwritten_credentials
  simp only [List.forall_mem_cons] at each
  obtain ⟨uri, token, cups, cupsToken, -⟩ := each
  have noWord : firstWord [] = [] := rfl
  have noToken : tokenOf [] = [] := by
    rw [tokenOf, CText.strstr]
    split <;> rfl
  rw [CredentialTexts, CredentialTexts]
  simp only [uriEntry, tokenEntry, kept.elim_files uri noWord, kept.elim_files token noToken,
    kept.elim_files cups noWord, kept.elim_files cupsToken noToken]

end

/-- After any requests and commands, the mode is read and reported exactly if the last change was
not the script's command for the station, and the uploaded addresses and tokens are texts. -/
theorem mode_file_readable_iff (lib : JsonText) (jshn : Jshn lib) (signed : SignedAsUnsigned lib)
    (start : Gateway) (shipped : Shipped lib start) (region : RegionGiven lib start)
    (steps : List ModeStep) (mac : Option (Fin 6 → UInt8)) (running : String → Bool) :
    let s := run (ModeState.step jshn) ⟨start, none⟩ steps
    Readable lib mac running s.gateway (recordedMode s.last) ↔
      s.last ≠ some (.script .basicstation) ∧ CredentialTexts start := by
  intro s
  have kept : ModeKept lib start s := run_invariant (ModeState.step jshn) (ModeKept lib start)
    (fun _ e kept => step_kept jshn signed kept e) _ (start_kept shipped) steps
  obtain ⟨localJson, read, named, complete⟩ := kept.document
  rw [readable_iff read named (kept.region region) mac running, complete, kept.credentials]

/-! ### A gateway as it is shipped -/

theorem write_unsigned {i : Int64} (positive : 0 ≤ i) (indent : Nat) :
    JsonCodec.write indent (.int i) = JsonCodec.write indent (.uint i.toUInt64) := by
  have value : i.toInt.natAbs = i.toUInt64.toNat := by
    have nonnegative := Int64.le_iff_toInt_le.mp positive
    rw [Int64.toInt_zero] at nonnegative
    rw [Int64.toNat_toUInt64_of_le positive, ← Int64.toNat_toInt]
    omega
  rw [JsonCodec.write, if_neg (Int64.not_lt.mpr positive), value, JsonCodec.write]

theorem signedAsUnsigned_text : SignedAsUnsigned JsonCodec.text := by
  intro front back key i positive
  have fields (indent : Nat) (front : List (String × Json)) :
      JsonCodec.writeFields indent (front ++ (key, .int i) :: back) =
        JsonCodec.writeFields indent (front ++ (key, .uint i.toUInt64) :: back) := by
    induction front with
    | nil =>
      rw [List.nil_append, List.nil_append, JsonCodec.writeFields, JsonCodec.writeFields,
        write_unsigned positive]
    | cons field front ih =>
      rw [List.cons_append, List.cons_append, JsonCodec.writeFields, JsonCodec.writeFields, ih]
  have written : JsonCodec.write 0 (.obj (front ++ (key, .int i) :: back)) =
      JsonCodec.write 0 (.obj (front ++ (key, .uint i.toUInt64) :: back)) := by
    cases front with
    | nil =>
      have opened (value : Json) : JsonCodec.write 0 (.obj ((key, value) :: back)) =
          '{' :: '\n' :: (JsonCodec.spaces 4 ++ (Quoted.writeString key ++ ':' :: ' ' ::
            (JsonCodec.write 4 value ++
              (JsonCodec.writeFields 4 back ++ '\n' :: (JsonCodec.spaces 0 ++ ['}']))))) := by
        rw [JsonCodec.write]
      rw [List.nil_append, List.nil_append, opened, opened, write_unsigned positive]
    | cons field front =>
      rw [List.cons_append, List.cons_append, JsonCodec.write, JsonCodec.write, fields]
  exact congrArg (fun text => JsonCodec.utf8 (String.ofList text)) written

/-- The script's text, up to white space. -/
def jshnText : Jshn JsonCodec.text where
  jsonDump mode := JsonCodec.text.dump (Json.null.put ["work_mode"] (.str mode)) ++ [10]
  read_jsonDump mode := JsonCodec.text.read_dump_endl _ (Json.Proper.null.put (.str mode) _)

def shippedGateway : Gateway :=
  gatewayWith [(lorawanModeConfDefault,
      JsonCodec.text.dump (Json.null.put ["work_mode"] (.str "unknown")) ++ [10]),
    (lorawanRegionConfDefault,
      JsonCodec.text.dump (Json.null.put ["lorawan_region"] (.str "EU868")) ++ [10])]

theorem shipped_shippedGateway : Shipped JsonCodec.text shippedGateway := by
  have file : shippedGateway.files lorawanModeConfDefault =
      some (JsonCodec.text.dump (Json.null.put ["work_mode"] (.str "unknown")) ++ [10]) := by
    simp [shippedGateway, gatewayWith]
  rw [Shipped, documentAt, file]
  exact JsonCodec.text.read_dump_endl _ (Json.Proper.null.put (.str _) _)

theorem region_shippedGateway : RegionGiven JsonCodec.text shippedGateway := by
  have file : shippedGateway.files lorawanRegionConfDefault =
      some (JsonCodec.text.dump (Json.null.put ["lorawan_region"] (.str "EU868")) ++ [10]) := by
    simp [shippedGateway, gatewayWith, List.lookup_cons, lorawanRegionConfDefault,
      lorawanModeConfDefault]
  refine ⟨Json.null.put ["lorawan_region"] (.str "EU868"), "EU868", ?_, Json.lookup_put_self _ _ _⟩
  rw [documentAt, file]
  exact JsonCodec.text.read_dump_endl _ (Json.Proper.null.put (.str _) _)

/-- Nothing has been uploaded. -/
theorem credentials_shippedGateway : CredentialTexts shippedGateway := by
  have absent (path : String) (mode : path ≠ lorawanModeConfDefault)
      (region : path ≠ lorawanRegionConfDefault) : shippedGateway.files path = none := by
    have first : (path == lorawanModeConfDefault) = false := beq_false_of_ne mode
    have second : (path == lorawanRegionConfDefault) = false := beq_false_of_ne region
    simp [shippedGateway, gatewayWith, List.lookup_cons, first, second]
  have empty : (JsonCodec.ofUtf8 []).isSome = true := by decide
  rw [CredentialTexts]
  simp only [uriEntry, tokenEntry, absent tcUri (by decide) (by decide),
    absent tcClientToken (by decide) (by decide), absent cupsUri (by decide) (by decide),
    absent cupsClientToken (by decide) (by decide), Option.elim_none, List.forall_mem_cons]
  exact ⟨empty, empty, empty, empty, List.forall_mem_nil _⟩

/-- The script has set the packet forwarder, and after it the bridge. -/
theorem bridge_by_script_readable :
    let s := run (ModeState.step jshnText) ⟨shippedGateway, none⟩
      [.script .packetForwarder, .script .bridge]
    s.last = some (.script .bridge) ∧
      Readable JsonCodec.text none (fun _ => true) s.gateway "BRDG" := by
  intro s
  have readable := mode_file_readable_iff JsonCodec.text jshnText signedAsUnsigned_text
    shippedGateway shipped_shippedGateway region_shippedGateway
    [.script .packetForwarder, .script .bridge] none (fun _ => true)
  exact ⟨rfl, readable.mpr ⟨by simp [ModeState.step], credentials_shippedGateway⟩⟩

/-- The script has set the station: the request for the work mode fails. -/
theorem station_by_script_unreadable :
    let s := run (ModeState.step jshnText) ⟨shippedGateway, none⟩ [.script .basicstation]
    s.last = some (.script .basicstation) ∧
      (∃ rsp, (mainLorawanWorkmodeGet JsonCodec.text none (fun _ => true) s.gateway).1 =
        .ok (-1, rsp)) ∧
        ¬ Readable JsonCodec.text none (fun _ => true) s.gateway "BAST" := by
  intro s
  have kept : ModeKept JsonCodec.text shippedGateway s :=
    script_kept jshnText (start_kept shipped_shippedGateway) .basicstation
  obtain ⟨localJson, read, named, complete⟩ := kept.document
  have missing : ¬ ∃ fields, bastFields localJson "BAST" = .ok fields :=
    fun fields => complete.mp fields rfl
  have region := kept.region region_shippedGateway
  refine ⟨rfl, ?_, fun readable => missing ((readable_iff read named region _ _).mp readable).1⟩
  obtain ⟨⟨rc, rsp⟩, g, returned, ended⟩ :=
    (workmodeGet_ends read named region none (fun _ => true)).returns
  rcases ended with ⟨failed, -⟩ | ⟨_, _, fields, _, isBast, -⟩
  · have code : rc = -1 := failed
    exact ⟨rsp, by rw [returned, code]⟩
  · exact absurd ⟨fields, isBast⟩ missing

end LorawanFeeds.Cgi
