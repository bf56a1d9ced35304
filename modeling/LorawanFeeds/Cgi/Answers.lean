import LorawanFeeds.Lib.TomlCodec
import LorawanFeeds.Cgi.LteAnswer
import LorawanFeeds.Cgi.TomlDefined

/-!
# Every request gets an answer

A handler whose `try` block holds its whole body always returns. The others read a file in a
constructor, or dump a document, outside of any `try` block; and a name that is not known comes
back as the format of the response.
-/
namespace LorawanFeeds.Cgi

open Lib Bridge Proc

/-! ### Bodies of `try` blocks -/

/-- A body that can only throw; `good` is what it returns. -/
def Throws {α : Type} (x : CgiHandler α) (good : α → Prop) : Prop :=
  ∀ g, Ends x g (fun a _ => good a) fun e _ => e = .thrown

/-- A result that `main_run` makes a response of. -/
def Presentable (result : Result) : Prop :=
  result.1 = 0 ∨ result.1 = -1 ∧ FormatSafe result.2

section

variable {α β : Type} {good : α → Prop}

theorem throws_pure {a : α} (fine : good a) : Throws (pure a) good := fun _ => ends_pure fine

theorem throws_modify (f : Gateway → Gateway) : Throws (Proc.modify f) fun _ => True :=
  fun _ => ends_modify trivial

theorem throws_get : Throws Proc.get fun _ => True := fun _ => ends_get trivial

theorem throws_bind {x : CgiHandler β} {f : β → CgiHandler α} (first : Throws x fun _ => True)
    (rest : ∀ b, Throws (f b) good) : Throws (x >>= f) good := fun g =>
  ends_bind ((first g).imp (fun b g' _ => rest b g') fun _ _ => id)

theorem throws_thrown (value : Option α) : Throws (Proc.ofExcept (thrown value)) fun _ => True :=
  fun _ => ends_ofExcept (fun _ _ => trivial) fun _ => eq_thrown

theorem throws_thrownBy (x : CgiProc α) : Throws (thrownBy x) fun _ => True := fun _ =>
  ends_mapFault ((ends_run x).imp (fun _ _ _ => trivial) fun _ _ _ => rfl)

theorem throws_converted (x : Except JsonError α) : Throws (converted x) fun _ => True :=
  throws_thrownBy _

theorem throws_readJson (lib : JsonText) (path : String) :
    Throws (readJson lib path) fun _ => True :=
  throws_bind throws_get fun _ => throws_thrownBy _

theorem throws_parseJson (lib : JsonText) (inputJson : Bytes) :
    Throws (parseJson lib inputJson) fun _ => True :=
  throws_thrownBy _

theorem throws_ite {c : Prop} [Decidable c] {x y : CgiHandler α} (yes : Throws x good)
    (no : Throws y good) : Throws (if c then x else y) good := by
  split
  · exact yes
  · exact no

end

/-- A handler that catches what its body throws. -/
theorem settles_tryCatch {body : CgiHandler Result} {rsp : String} {g : Gateway} {condition : Prop}
    (ends : Ends body g
      (fun result _ => (result.1 = 0 ∨ result.1 = -1) ∧
        (condition ↔ result.1 = 0 ∨ FormatSafe result.2))
      fun e _ => e = .thrown ∧ condition)
    (plain : FormatPlain rsp) : Settles (catching body rsp) g condition := by
  apply ends_tryCatch
  refine ends.imp (fun _ _ => id) ?_
  rintro e g' ⟨rfl, holds⟩
  exact ends_pure ⟨.inr rfl, iff_of_true holds (.inr (formatSafe_textBytes plain))⟩

theorem settles_catching {body : CgiHandler Result} {rsp : String} (throws : Throws body Presentable)
    (plain : FormatPlain rsp) (g : Gateway) : Settles (catching body rsp) g True := by
  refine settles_tryCatch ((throws g).imp ?_ fun _ _ same => ⟨same, trivial⟩) plain
  rintro result _ (success | ⟨failure, safe⟩)
  · exact ⟨.inl success, iff_of_true trivial (.inl success)⟩
  · exact ⟨.inr failure, iff_of_true trivial (.inr safe)⟩

theorem Settles.of_iff {σ : Type} {x : Proc σ Fault Result} {s : σ} {first second : Prop}
    (settles : Settles x s first) (same : first ↔ second) : Settles x s second := by
  rwa [← propext same]

/-! ### Handlers that catch everything -/

section

variable (lib : JsonText) (g : Gateway)

theorem mainLorawanRegionGet_settles : Settles (mainLorawanRegionGet lib) g True := by
  refine settles_catching ?_ (formatPlain_ofList rfl) g
  refine throws_bind (throws_readJson _ _) fun _ => throws_bind (throws_converted _) fun _ => ?_
  exact throws_pure (.inl rfl)

theorem mainNotificationPushGet_settles : Settles (mainNotificationPushGet lib) g True := by
  refine settles_catching ?_ (formatPlain_ofList rfl) g
  refine throws_bind (throws_readJson _ _) fun _ => throws_bind (throws_converted _) fun _ => ?_
  exact throws_pure (.inl rfl)

theorem mainNotificationPushSet_settles (inputJson : Bytes) :
    Settles (mainNotificationPushSet lib inputJson) g True := by
  refine settles_catching ?_ (formatPlain_ofList rfl) g
  refine throws_bind (throws_readJson _ _) fun _ => throws_bind (throws_parseJson _ _) fun _ => ?_
  refine throws_bind (throws_converted _) fun _ => throws_bind (throws_converted _) fun _ => ?_
  exact throws_bind (throws_modify _) fun _ => throws_pure (.inl rfl)

theorem mainLorawanOnlineGet_settles (running : String → Bool) :
    Settles (mainLorawanOnlineGet lib running) g True := by
  refine settles_catching ?_ (formatPlain_ofList rfl) g
  refine throws_bind (throws_readJson _ _) fun _ => throws_bind (throws_converted _) fun _ => ?_
  exact throws_pure (.inl rfl)

theorem mainLorawanWorkmodeGet_settles (mac : Option (Fin 6 → UInt8)) (running : String → Bool) :
    Settles (mainLorawanWorkmodeGet lib mac running) g True := by
  refine settles_catching ?_ (formatPlain_ofList rfl) g
  have region : Throws (getHardwareRegionInfo lib) fun _ => True :=
    throws_bind (throws_readJson _ _) fun _ => throws_bind (throws_converted _) fun _ =>
      throws_pure trivial
  refine throws_bind (throws_readJson _ _) fun _ => throws_bind region fun _ => ?_
  refine throws_bind (throws_converted _) fun _ => throws_bind (throws_converted _) fun _ => ?_
  -- A file of the authentication that is not UTF-8 is caught as well.
  refine throws_bind throws_get fun _ => throws_bind (throws_thrown _) fun _ => ?_
  exact throws_pure (.inl rfl)

/-! ### Handlers with a constructor -/

/-- A file is read outside of the `try` block. -/
theorem settles_constructor {path : String} {use : Json → CgiHandler Result}
    (uses : ∀ localJson, Settles (use localJson) g True) :
    Settles (readJson lib path >>= use) g ((documentAt lib g path).isSome = true) := by
  refine ends_bind (ends_readJson ?_ ?_)
  · intro localJson read
    exact (uses localJson).of_iff (by simp [read])
  · intro missing
    simp [missing]

theorem parserGet_settles {name : String} (plain : FormatPlain name) {forEach : CgiHandler Bytes}
    {forOne : String → CgiHandler Bytes} (each : Throws forEach fun _ => True)
    (one : ∀ option, Throws (forOne option) fun _ => True) (option : String) :
    Settles (parserGet name forEach forOne option) g True := by
  refine settles_catching ?_ ?_ g
  · exact throws_ite (throws_bind each fun _ => throws_pure (.inl rfl))
      (throws_bind (one option) fun _ => throws_pure (.inl rfl))
  · exact .append (.append (formatPlain_ofList rfl) plain) (formatPlain_ofList rfl)

theorem parserSet_settles {name : String} (plain : FormatPlain name) {forEach : CgiHandler Unit}
    {forOne : String → CgiHandler Unit} (each : Throws forEach fun _ => True)
    (one : ∀ option, Throws (forOne option) fun _ => True) (option : String) :
    Settles (parserSet name forEach forOne option) g True := by
  refine settles_catching ?_ ?_ g
  · exact throws_ite (throws_bind each fun _ => throws_pure (.inl rfl))
      (throws_bind (one option) fun _ => throws_pure (.inl rfl))
  · exact .append (.append (formatPlain_ofList rfl) plain) (formatPlain_ofList rfl)

theorem mainLorawanFilterGet_settles (option : String) :
    Settles (mainLorawanFilterGet lib option) g
      ((documentAt lib g lorawanFilterConfDefault).isSome = true) := by
  refine settles_constructor lib g fun localJson => parserGet_settles g (formatPlain_ofList rfl) ?_ ?_ _
  · exact throws_bind (throws_thrown _) fun _ => throws_pure trivial
  · exact fun _ => throws_pure trivial

theorem mainLorawanFilterSet_settles (option : String) (inputJson : Bytes) :
    Settles (mainLorawanFilterSet lib option inputJson) g
      ((documentAt lib g lorawanFilterConfDefault).isSome = true) := by
  refine settles_constructor lib g fun localJson => parserSet_settles g (formatPlain_ofList rfl) ?_ ?_ _
  · refine throws_bind (throws_parseJson _ _) fun _ => throws_bind (throws_converted _) fun _ => ?_
    refine throws_bind (throws_converted _) fun _ => throws_bind ?_ fun _ => throws_modify _
    refine throws_ite ?_ (throws_pure trivial)
    exact throws_bind (throws_converted _) fun _ => throws_bind (throws_thrown _) fun _ =>
      throws_converted _
  · exact fun _ => throws_pure trivial

/-- The constructor of the station is the same reading of a file. -/
theorem thrownBy_loRaStation : thrownBy (loRaStation lib) = readJson lib stationConfDefault := by
  funext g
  rfl

theorem mainStationGet_settles (option : String) :
    Settles (mainStationGet lib option) g
      ((documentAt lib g stationConfDefault).isSome = true) := by
  rw [mainStationGet, thrownBy_loRaStation]
  refine settles_constructor lib g fun localJson => parserGet_settles g (formatPlain_ofList rfl) ?_ ?_ _
  · refine throws_bind (throws_converted _) fun _ => throws_bind (throws_converted _) fun _ => ?_
    refine throws_bind (throws_converted _) fun _ => throws_bind (throws_converted _) fun _ => ?_
    exact throws_pure trivial
  · exact fun _ => throws_bind (throws_converted _) fun _ => throws_pure trivial

theorem parseRemoteText_throws (sys : System) (dir path key : String) (edit : String → String)
    (remoteJson : Json) :
    Throws (parseRemoteText sys dir path key edit remoteJson) fun _ => True := by
  refine throws_bind (throws_modify _) fun _ => throws_bind (throws_converted _) fun _ => ?_
  refine throws_ite ?_ (throws_pure trivial)
  exact throws_bind (throws_converted _) fun _ => throws_modify _

theorem mainStationSet_settles (sys : System) (option : String) (inputJson : Bytes) :
    Settles (mainStationSet lib sys option inputJson) g
      ((documentAt lib g stationConfDefault).isSome = true) := by
  rw [mainStationSet, thrownBy_loRaStation]
  refine settles_constructor lib g fun localJson => parserSet_settles g (formatPlain_ofList rfl) ?_ ?_ _
  · refine throws_bind (throws_parseJson _ _) fun _ => throws_bind (throws_converted _) fun _ => ?_
    refine throws_bind (throws_converted _) fun _ => throws_bind (throws_converted _) fun _ => ?_
    exact throws_bind (throws_converted _) fun _ => throws_modify _
  · intro one
    refine throws_bind (throws_parseJson _ _) fun remoteJson => throws_bind ?_ fun _ =>
      throws_modify _
    refine throws_ite (throws_converted _) (throws_ite (throws_converted _) ?_)
    refine throws_ite (throws_converted _) (throws_ite (throws_converted _) ?_)
    have text (dir path key : String) (edit : String → String) :
        Throws (do parseRemoteText sys dir path key edit remoteJson; return localJson)
          fun _ => True :=
      throws_bind (parseRemoteText_throws _ _ _ _ _ _) fun _ => throws_pure trivial
    refine throws_ite (text _ _ _ _) (throws_ite (text _ _ _ _) (throws_ite (text _ _ _ _) ?_))
    exact throws_ite (text _ _ _ _) (throws_pure trivial)

/-! ### Names that are not known -/

/-- The region of a request, if the handler comes to read it. -/
def requestedRegion (inputJson : Bytes) : Option String := do
  let _ ← documentAt lib g lorawanRegionConfDefault
  let remoteJson ← lib.parse inputJson
  (remoteJson.indexPath ["body", "region"] >>= Json.asString).toOption

/-- A region that is not known can be printed. -/
def RegionPrints (inputJson : Bytes) : Prop :=
  ∀ region, requestedRegion lib g inputJson = some region → region ∉ regionNames →
    FormatSafe (textBytes region)

theorem regionPrints_of_none {inputJson : Bytes} (none : requestedRegion lib g inputJson = none) :
    RegionPrints lib g inputJson := by
  intro region here
  rw [none] at here
  cases here

theorem mainLorawanRegionSet_settles (inputJson : Bytes) :
    Settles (mainLorawanRegionSet lib inputJson) g (RegionPrints lib g inputJson) := by
  refine settles_tryCatch (ends_bind (ends_readJson ?_ fun missing => ⟨rfl, ?_⟩))
    (formatPlain_ofList rfl)
  · intro localJson read
    refine ends_bind (ends_parseJson ?_ fun missing => ⟨rfl, ?_⟩)
    · intro remoteJson parse
      refine ends_bind (ends_converted ?_ fun e missing => ⟨rfl, ?_⟩)
      · intro region name
        have requested : requestedRegion lib g inputJson = some region := by
          simp [requestedRegion, read, parse, name, Except.toOption]
        split
        next unknown =>
          refine ends_pure ⟨.inr rfl, ?_⟩
          rw [failed, textBytes_append, formatSafe_append (formatPlain_ofList rfl)]
          constructor
          · exact fun prints => .inr (prints region requested unknown)
          · rintro (⟨⟨⟩⟩ | safe) other same _
            cases requested.symm.trans same
            exact safe
        next known =>
          have prints : RegionPrints lib g inputJson := by
            intro other same unknown
            cases requested.symm.trans same
            exact absurd unknown known
          refine ends_bind (ends_converted ?_ fun e _ => ⟨rfl, prints⟩)
          intro localJson _
          refine ends_bind (ends_modify (ends_bind (ends_modify (ends_pure ?_))))
          exact ⟨.inl rfl, iff_of_true prints (.inl rfl)⟩
      · exact regionPrints_of_none lib g (by simp [requestedRegion, read, parse, missing, Except.toOption])
    · exact regionPrints_of_none lib g (by simp [requestedRegion, missing])
  · exact regionPrints_of_none lib g (by simp [requestedRegion, missing])

end

/-! ### The work mode -/

/-- The work mode of a request. -/
def requestedMode (lib : JsonText) (inputJson : Bytes) : Option String := do
  let remoteJson ← lib.parse inputJson
  (remoteJson.indexPath ["body", "work_mode"] >>= Json.asString).toOption

/-- The modes that a request can name. -/
def modeNames : List String := ["PKFD", "BAST", "BRDG", "CLOSE", "RESTART"]

/-- A work mode that is not known can be printed. -/
def ModePrints (lib : JsonText) (inputJson : Bytes) : Prop :=
  ∀ workmode, requestedMode lib inputJson = some workmode → workmode ∉ modeNames →
    FormatSafe (textBytes workmode)

/-- The text of a failure can be printed. -/
def Told (result : Int × String) : Prop := result.1 = 0 ∨ result.1 = -1 ∧ FormatPlain result.2

section

variable {g : Gateway}

theorem removeAll_errFilePath (sys : System) (paths : List String) :
    Ends (removeAll sys paths) g (fun _ g' => g'.errFilePath = g.errFilePath) fun _ _ => False := by
  induction paths generalizing g with
  | nil => exact ends_pure rfl
  | cons path paths ih =>
    apply ends_bind
    apply ends_modify
    exact ih

theorem install_errFilePath (g : Gateway) (file : String) :
    (g.install file).errFilePath = g.errFilePath := by
  rw [Gateway.install]
  split
  · split <;> rfl
  · rfl

/-- The paths of files that are missing are those of the table. -/
theorem copyUploaded_plain {files : List String} (names : ∀ file ∈ files, FormatPlain file)
    (plain : FormatPlain g.errFilePath) :
    Ends (copyUploaded files) g (fun _ g' => FormatPlain g'.errFilePath) fun _ _ => False := by
  induction files generalizing g with
  | nil => exact ends_pure plain
  | cons file files ih =>
    have later : ∀ other ∈ files, FormatPlain other := fun other member => names other (by simp [member])
    apply ends_bind
    apply ends_get
    split
    · apply ends_bind
      apply ends_modify
      apply ih later
      rwa [install_errFilePath]
    · apply ends_bind
      apply ends_modify
      apply ends_bind
      refine (ih later ?_).imp (fun _ _ same => ends_pure same) fun _ _ => id
      exact (plain.append (formatPlain_ofList rfl)).append (names file (by simp))

theorem stationAuthModeTlsHandle_plain {lnsFileTb cupFileTb : List String} (stationMode : Int32)
    (lns : ∀ file ∈ lnsFileTb, FormatPlain file) (cups : ∀ file ∈ cupFileTb, FormatPlain file)
    (plain : FormatPlain g.errFilePath) :
    Ends (stationAuthModeTlsHandle lnsFileTb cupFileTb stationMode) g
      (fun _ g' => FormatPlain g'.errFilePath) fun _ _ => False := by
  apply ends_bind
  refine (copyUploaded_plain ?_ plain).imp (fun _ _ same => ends_pure same) fun _ _ => id
  split
  · exact lns
  · exact cups

theorem stationAuthModeHandle_plain (sys : System) (stationMode authMode : Int32)
    (plain : FormatPlain g.errFilePath) :
    Ends (stationAuthModeHandle sys stationMode authMode) g
      (fun _ g' => FormatPlain g'.errFilePath) fun _ _ => False := by
  apply ends_bind
  apply ends_bind
  refine (removeAll_errFilePath sys authCupsTb).imp ?_ fun _ _ => id
  intro _ g₁ first
  refine (removeAll_errFilePath sys authLnsTb).imp ?_ fun _ _ => id
  intro _ g₂ second
  have plain : FormatPlain g₂.errFilePath := by rwa [second, first]
  have uploads : (FormatPlain tcTrust ∧ FormatPlain tcClientCrt ∧ FormatPlain tcClientKey ∧
      FormatPlain tcClientToken ∧ FormatPlain tcUri) ∧ FormatPlain cupsTrust ∧
      FormatPlain cupsClientCrt ∧ FormatPlain cupsClientKey ∧ FormatPlain cupsClientToken ∧
      FormatPlain cupsUri := by
    refine ⟨⟨?_, ?_, ?_, ?_, ?_⟩, ?_, ?_, ?_, ?_, ?_⟩ <;> exact formatPlain_ofList rfl
  split
  · rw [stationAuthModeNoneHandle]
    generalize named : (if stationMode = stationLnsMode then tcUri else cupsUri) = uriFile
    have plainName : FormatPlain uriFile := by
      rw [← named]
      split <;> exact formatPlain_ofList rfl
    apply ends_bind
    apply ends_get
    split
    · apply ends_bind
      apply ends_modify
      apply ends_pure
      rwa [install_errFilePath]
    · exact ends_bind (ends_modify (ends_pure plainName))
  · split
    · exact stationAuthModeTlsHandle_plain _ (by simp [uploads]) (by simp [uploads]) plain
    · split
      · exact stationAuthModeTlsHandle_plain _ (by simp [uploads]) (by simp [uploads]) plain
      · split
        · exact stationAuthModeTlsHandle_plain _ (by simp [uploads]) (by simp [uploads]) plain
        · exact ends_pure plain

theorem formatPlain_repr (n : Nat) : FormatPlain n.repr := by
  intro c member
  rw [Nat.repr, String.toList_ofList] at member
  have digit := Nat.isDigit_of_mem_toDigits (by decide) (by decide) member
  constructor <;> (rintro rfl; cases digit)

theorem formatPlain_toString (i : Int) : FormatPlain (toString i) := by
  rw [Int.toString_eq_repr, Int.repr_eq_if]
  split
  · exact formatPlain_repr _
  · exact .append (formatPlain_ofList rfl) (formatPlain_repr _)

theorem setBast_told (lib : JsonText) (sys : System) (stationMode authMode : Int32)
    (plain : FormatPlain g.errFilePath) :
    Ends (setBast lib sys stationMode authMode) g (fun result _ => Told result)
      fun _ _ => True := by
  apply ends_bind
  refine (stationAuthModeHandle_plain sys stationMode authMode plain).imp ?_ fun _ _ => False.elim
  intro rc g₁ plain
  split
  · apply ends_bind
    apply ends_get
    refine ends_pure (.inr ⟨rfl, .append (.append (.append ?_ (formatPlain_toString _)) ?_) plain⟩)
    · exact formatPlain_ofList rfl
    · exact formatPlain_ofList rfl
  · apply ends_bind
    refine (ends_run _).imp ?_ fun _ _ _ => trivial
    intro rc g₂ _
    split
    · exact ends_pure (.inr ⟨rfl, formatPlain_ofList rfl⟩)
    · apply ends_bind
      refine (ends_run _).imp ?_ fun _ _ _ => trivial
      intro rc g₃ _
      split
      · exact ends_pure (.inr ⟨rfl, formatPlain_ofList rfl⟩)
      · exact ends_bind (ends_modify (ends_bind (ends_modify (ends_pure (.inl rfl)))))

theorem told_failed {rsp : String} (plain : FormatPlain rsp) : Told (-1, rsp) := .inr ⟨rfl, plain⟩

/-- The text of a failure is printed, whatever the condition was. -/
theorem Told.settled {result : Int × String} {condition : Prop} (told : Told result)
    (holds : condition) :
    (result.1 = 0 ∨ result.1 = -1) ∧
      (condition ↔ result.1 = 0 ∨ FormatSafe (textBytes result.2)) := by
  rcases told with success | ⟨failure, plain⟩
  · exact ⟨.inl success, iff_of_true holds (.inl success)⟩
  · exact ⟨.inr failure, iff_of_true holds (.inr (formatSafe_textBytes plain))⟩

theorem modePrints_of_known {lib : JsonText} {inputJson : Bytes}
    (known : ∀ workmode, requestedMode lib inputJson = some workmode → workmode ∈ modeNames) :
    ModePrints lib inputJson := fun workmode requested unknown =>
  absurd (known workmode requested) unknown

theorem workmodeSet_settled (lib : JsonText) (sys : System) (inputJson : Bytes)
    (plain : FormatPlain g.errFilePath) :
    Ends (workmodeSet lib sys inputJson) g
      (fun result _ => (result.1 = 0 ∨ result.1 = -1) ∧
        (ModePrints lib inputJson ↔ result.1 = 0 ∨ FormatSafe (textBytes result.2)))
      fun _ _ => ModePrints lib inputJson := by
  apply ends_bind
  cases parse : lib.parse inputJson with
  | none =>
    refine ends_raise (modePrints_of_known ?_)
    simp [requestedMode, parse]
  | some remoteJson =>
    apply ends_pure
    apply ends_bind
    rw [throwing]
    cases name : remoteJson.indexPath ["body", "work_mode"] >>= Json.asString with
    | error e =>
      refine ends_raise (modePrints_of_known ?_)
      simp [requestedMode, parse, name, Except.toOption]
    | ok workmode =>
      apply ends_pure
      have requested : requestedMode lib inputJson = some workmode := by
        simp [requestedMode, parse, name, Except.toOption]
      split
      next unknown =>
        refine ends_pure ⟨.inr rfl, ?_⟩
        rw [textBytes_append, formatSafe_append (formatPlain_ofList rfl)]
        constructor
        · exact fun prints => .inr (prints workmode requested unknown)
        · rintro (⟨⟨⟩⟩ | safe) other same _
          cases requested.symm.trans same
          exact safe
      next known =>
        have prints : ModePrints lib inputJson := by
          refine modePrints_of_known fun other same => ?_
          cases requested.symm.trans same
          exact not_not.mp known
        have told (result : Int × String) (told : Told result) := told.settled prints
        split
        · apply ends_bind
          refine ends_ofExcept ?_ fun _ _ => prints
          intro stationMode _
          apply ends_bind
          refine ends_ofExcept ?_ fun _ _ => prints
          intro authMode _
          exact (setBast_told lib sys stationMode authMode plain).imp (fun result _ => told result)
            fun _ _ _ => prints
        · have success := told (0, "") (.inl rfl)
          split
          · exact ends_bind (ends_modify (ends_pure success))
          · split
            · exact ends_bind (ends_modify (ends_pure success))
            · exact ends_bind (ends_modify (ends_bind (ends_modify (ends_pure success))))

theorem mainLorawanWorkmodeSet_settles (lib : JsonText) (sys : System) (inputJson : Bytes)
    (plain : FormatPlain g.errFilePath) :
    Settles (withText (thrownBy (mainLorawanWorkmodeSet lib sys inputJson))) g
      (ModePrints lib inputJson) := by
  apply ends_bind
  apply ends_mapFault
  apply ends_tryCatch
  refine (workmodeSet_settled lib sys inputJson plain).imp (fun _ _ settled => ends_pure settled) ?_
  intro e g' prints
  exact ends_pure (ends_pure ((told_failed (formatPlain_ofList rfl)).settled prints))

/-! ### The bridge -/

theorem generateBridgeMqttTopic_code (lib : JsonText) (mac : Option (Fin 6 → UInt8))
    (file : Option Bytes) :
    (generateBridgeMqttTopic lib mac file).1 = 0 ∨
      (generateBridgeMqttTopic lib mac file).1 = -1 ∧
        (generateBridgeMqttTopic lib mac file).2.1 = [] := by
  rw [generateBridgeMqttTopic]
  cases getTolowerGatewayEui mac with
  | none => exact .inr ⟨rfl, rfl⟩
  | some eui =>
    dsimp only
    split <;> exact .inl rfl

theorem mainBridgeTopicGet_settles (lib : JsonText) (mac : Option (Fin 6 → UInt8)) :
    Settles (mainBridgeTopicGet lib mac) g True := by
  apply ends_bind
  apply ends_get
  have code := generateBridgeMqttTopic_code lib mac (g.files bridgeTopicConfDefault)
  generalize generateBridgeMqttTopic lib mac (g.files bridgeTopicConfDefault) = result at code ⊢
  obtain ⟨rc, rsp, file⟩ := result
  refine ends_bind (ends_modify (ends_pure ?_))
  rcases code with success | ⟨failure, empty⟩
  · exact ⟨.inl success, iff_of_true trivial (.inl success)⟩
  · refine ⟨.inr failure, iff_of_true trivial (.inr ?_)⟩
    rw [show rsp = [] from empty]
    rfl

theorem setBridgeMqttTopic_told (lib : JsonText) (mac : Option (Fin 6 → UInt8)) (inputJson : Bytes)
    (file : Option Bytes) : Told (setBridgeMqttTopic lib mac inputJson file).1 := by
  rw [setBridgeMqttTopic]
  cases getTolowerGatewayEui mac with
  | none => exact told_failed (formatPlain_ofList rfl)
  | some eui =>
    dsimp only
    split
    · split
      · exact told_failed (formatPlain_ofList rfl)
      · split
        · exact told_failed (formatPlain_ofList rfl)
        · split
          · exact told_failed (formatPlain_ofList rfl)
          · split
            · exact told_failed (formatPlain_ofList rfl)
            · exact .inl rfl
    · exact told_failed (formatPlain_ofList rfl)

theorem mainBridgeTopicSet_settles (lib : JsonText) (mac : Option (Fin 6 → UInt8))
    (inputJson : Bytes) : Settles (withText (mainBridgeTopicSet lib mac inputJson)) g True := by
  apply ends_bind
  apply ends_bind
  apply ends_get
  have told := setBridgeMqttTopic_told lib mac inputJson (g.files bridgeTopicConfDefault)
  generalize setBridgeMqttTopic lib mac inputJson (g.files bridgeTopicConfDefault) = result at told ⊢
  obtain ⟨result, file⟩ := result
  exact ends_bind (ends_modify (ends_pure (ends_pure (told.settled trivial))))

end

/-- The file of the bridge is TOML, and what is read of it has a meaning in C. -/
def TomlReadable (toml : TomlText) (disk : BridgeDisk) (holds : Toml → Prop) : Prop :=
  ∃ data, disk.conf.bind toml.parse = some data ∧ holds data

theorem mainTomlGet_settles (json : JsonText) (toml : TomlText) (u : Uninitialised)
    (option : String) (disk : BridgeDisk) :
    Settles (mainTomlGet json toml u option) disk
      (TomlReadable toml disk fun data => Defined data (getReadings option)) := by
  have get : ∀ data p, Ends (mainParserGet json data option) p
      (fun result _ => Presentable result ∧ Defined data (getReadings option))
      fun _ _ => ¬ Defined data (getReadings option) := by
    intro data p
    apply ends_tryCatch
    apply ends_bind
    refine (getLocal_ends option p).imp (fun _ _ defined => ends_pure ⟨.inl rfl, defined⟩) ?_
    rintro e p' (⟨rfl, defined⟩ | ⟨rfl, undefined⟩)
    · exact ends_pure ⟨.inr ⟨rfl, formatSafe_textBytes (.append (.append (formatPlain_ofList rfl)
        (formatPlain_ofList rfl)) (formatPlain_ofList rfl))⟩, defined⟩
    · exact undefined
  refine Ends.imp (withBridgeToml_ends get) ?_ fun _ _ => id
  rintro result _ ⟨success | ⟨failure, safe⟩, readable⟩
  · exact ⟨.inl success, iff_of_true readable (.inl success)⟩
  · exact ⟨.inr failure, iff_of_true readable (.inr safe)⟩

theorem mainTomlSet_settles (json : JsonText) (toml : TomlText) (u : Uninitialised)
    (option : String) (inputJson : Bytes) (disk : BridgeDisk) :
    Settles (withText (mainTomlSet json toml u option inputJson)) disk
      (TomlReadable toml disk fun data => SetDefined json data option inputJson) := by
  have set : ∀ data p, Ends (mainParserSet json data option inputJson) p
      (fun result _ => Told result ∧ SetDefined json data option inputJson)
      fun _ _ => ¬ SetDefined json data option inputJson := by
    intro data p
    apply ends_tryCatch
    apply ends_bind
    refine (setLocal_defined json option inputJson p).imp
      (fun _ _ defined => ends_pure ⟨.inl rfl, defined⟩) ?_
    rintro e p' (⟨rfl, defined⟩ | ⟨rfl, undefined⟩)
    · exact ends_pure ⟨told_failed (.append (.append (formatPlain_ofList rfl)
        (formatPlain_ofList rfl)) (formatPlain_ofList rfl)), defined⟩
    · exact undefined
  refine ends_bind (Ends.imp (withBridgeToml_ends set) ?_ fun _ _ => id)
  rintro result _ ⟨told, readable⟩
  exact ends_pure (told.settled readable)

/-! ### Every handler -/

/-- When a request gets an answer: what is read outside of a `try` block can be read, and a name
that is not known can be printed. -/
def Meets (env : Environment) (cmd : String) (post : Bytes) (w : World) : Handler → Prop
  | .tomlGet => TomlReadable env.toml w.bridge fun data => Defined data (getReadings cmd)
  | .tomlSet => TomlReadable env.toml w.bridge fun data => SetDefined env.json data cmd post
  | .bsGet | .bsSet => (documentAt env.json w.gateway stationConfDefault).isSome = true
  | .filterGet | .filterSet =>
    (documentAt env.json w.gateway lorawanFilterConfDefault).isSome = true
  | .regionSet => RegionPrints env.json w.gateway post
  | .modeSet => ModePrints env.json post
  | .lteGet => ImeiReadable env.json env.modem w.gateway
  | .regionGet | .modeGet | .onlineGet | .notifGet | .notifSet | .bridgeTopicGet
  | .bridgeTopicSet => True

theorem settles_onGateway {x : CgiHandler Result} {w : World} {condition : Prop}
    (settles : Settles x w.gateway condition) : Settles (onGateway x) w condition :=
  ends_onPart settles

theorem settles_onBridge {x : Proc BridgeDisk Fault Result} {w : World} {condition : Prop}
    (settles : Settles x w.bridge condition) : Settles (onBridge x) w condition :=
  ends_onPart settles

theorem Handler.function_settles (env : Environment) (cmd : String) (post : Bytes) (w : World)
    (plain : FormatPlain w.gateway.errFilePath) (handler : Handler) :
    Settles (handler.function env cmd post) w (Meets env cmd post w handler) := by
  cases handler with
  | tomlGet => exact settles_onBridge (mainTomlGet_settles ..)
  | tomlSet => exact settles_onBridge (mainTomlSet_settles ..)
  | bsGet => exact settles_onGateway (mainStationGet_settles ..)
  | bsSet => exact settles_onGateway (mainStationSet_settles ..)
  | filterSet => exact settles_onGateway (mainLorawanFilterSet_settles ..)
  | filterGet => exact settles_onGateway (mainLorawanFilterGet_settles ..)
  | regionSet => exact settles_onGateway (mainLorawanRegionSet_settles ..)
  | regionGet => exact settles_onGateway (mainLorawanRegionGet_settles ..)
  | modeSet => exact settles_onGateway (mainLorawanWorkmodeSet_settles _ _ _ plain)
  | modeGet => exact settles_onGateway (mainLorawanWorkmodeGet_settles ..)
  | onlineGet => exact settles_onGateway (mainLorawanOnlineGet_settles ..)
  | notifGet => exact settles_onGateway (mainNotificationPushGet_settles ..)
  | notifSet => exact settles_onGateway (mainNotificationPushSet_settles ..)
  | lteGet => exact settles_onGateway (mainLteGet_settles ..)
  | bridgeTopicGet => exact settles_onGateway (mainBridgeTopicGet_settles ..)
  | bridgeTopicSet => exact settles_onGateway (mainBridgeTopicSet_settles ..)

/-- The start of the process does not change a file. -/
theorem meets_start (env : Environment) (cmd : String) (post : Bytes) (w : World)
    (handler : Handler) :
    Meets env cmd post (Process.start w).world handler ↔ Meets env cmd post w handler := by
  cases handler <;> rfl

/-- A request gets exactly one response if and only if what the handler reads outside of its `try`
blocks can be read, and what it prints can be printed. -/
theorem request_answered_iff (env : Environment) (cmdLine : Bool) (handler : Handler) (cmd : String)
    (post : Bytes) (w : World) :
    AnsweredOnce env cmdLine handler cmd post w ↔ Meets env cmd post w handler := by
  have empty : FormatPlain "" := formatPlain_ofList rfl
  rw [← meets_start]
  exact answeredOnce_iff (handler.function_settles env cmd post _ empty)

/-- A gateway on which nothing has been written. -/
def bareWorld : World where
  gateway := { files := fun _ => none, folders := fun _ => false }
  bridge := { conf := none, folders := fun _ => none }

def bareEnvironment : Environment where
  json := JsonCodec.text
  toml := TomlCodec.text
  sys := ⟨none, fun _ => false, fun _ => false, fun _ => false, fun _ => true, []⟩
  mac := none
  running _ := false
  uninitialised := { skipCrcCheck := false, fakeRxTime := false, cleanSession := false }
  modem :=
    { opens := fun _ => false, bleCount := some 0, reply := fun _ _ => .timedOut
      behind := fun _ _ => [], uninitialised := [] }

/-- Without its file, a request for the settings of the station gets no answer. -/
theorem station_request_unanswered :
    ¬ AnsweredOnce bareEnvironment false .bsGet "cgicpp-bs-all-get" [] bareWorld := by
  have empty : FormatPlain "" := formatPlain_ofList rfl
  rw [answeredOnce_iff (Handler.function_settles _ _ _ _ empty _), Meets]
  exact Bool.false_ne_true

end LorawanFeeds.Cgi
