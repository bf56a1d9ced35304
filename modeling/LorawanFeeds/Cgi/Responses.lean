import LorawanFeeds.Cgi.ResponseText

/-!
# Every response is JSON, or not

What a handler returns with the code 0 is empty or a document, and a document can stand in a
response as it is. With any other code the text of the handler has to be one that can stand there.
-/
namespace LorawanFeeds.Cgi

open Lib Bridge JsonGrammar Proc

/-! ### The data of a success -/

/-- Null, or an object. -/
def Structured (j : Json) : Prop := j = .null ∨ j.isObject = true

/-- The text of a document, or none. -/
def IsData (lib : JsonText) (rsp : Bytes) : Prop :=
  rsp = [] ∨ ∃ j, Structured j ∧ rsp = lib.dump j

theorem isObject_put (j v : Json) {path : List String} (some : path ≠ []) :
    (j.put path v).isObject = true := by
  cases path with
  | nil => exact absurd rfl some
  | cons k path => rfl

theorem structured_put (j v : Json) {path : List String} (some : path ≠ []) :
    Structured (j.put path v) :=
  .inr (isObject_put j v some)

theorem Structured.putAll {j : Json} (structured : Structured j) {fields : List (List String × Json)}
    (some : ∀ field ∈ fields, field.1 ≠ []) : Structured (j.putAll fields) := by
  induction fields generalizing j with
  | nil => exact structured
  | cons field fields ih =>
    exact ih (structured_put j field.2 (some field (by simp))) fun f member => some f (by simp [member])

/-- A result whose data can stand in a response. -/
def Answerable (lib : JsonText) (result : Result) : Prop := result.1 = 0 → IsData lib result.2

section

variable {lib : JsonText} {σ : Type}

theorem yields_dump {rc : Int} {j : Json} (structured : Structured j) :
    Yields (pure (rc, lib.dump j) : Proc σ Fault Result) (Answerable lib) :=
  yields_pure fun _ => .inr ⟨j, structured, rfl⟩

theorem yields_failed (rsp : String) :
    Yields (pure (failed rsp) : Proc σ Fault Result) (Answerable lib) :=
  yields_pure fun success => by cases success

theorem yields_catching {body : CgiHandler Result} (yields : Yields body (Answerable lib))
    (rsp : String) : Yields (catching body rsp) (Answerable lib) :=
  yields_tryCatch yields (yields_failed rsp)

theorem yields_converted {α : Type} {x : Except JsonError α} {P : α → Prop}
    (returns : ∀ a, x = .ok a → P a) : Yields (converted x) P := fun _ =>
  ends_converted returns fun _ _ => trivial

/-- A result whose text is empty if it is a success. -/
def Quiet (result : Int × String) : Prop := result.1 = 0 → result.2 = ""

theorem quiet_failed (rsp : String) : Quiet (-1, rsp) := fun success => by cases success

theorem quiet_empty (rc : Int) : Quiet (rc, "") := fun _ => rfl

theorem yields_withText {x : Proc σ Fault (Int × String)}
    (yields : Yields x Quiet) :
    Yields (withText x) (Answerable lib) :=
  yields_bind yields fun result quiet => yields_pure fun success => by
    left
    rw [quiet success]
    exact textBytes_ofList []

theorem yields_parserGet {name option : String} {forEach : CgiHandler Bytes}
    {forOne : String → CgiHandler Bytes} (each : Yields forEach (IsData lib))
    (one : ∀ option, Yields (forOne option) (IsData lib)) :
    Yields (parserGet name forEach forOne option) (Answerable lib) := by
  refine yields_catching ?_ _
  exact yields_ite (yields_bind each fun _ data => yields_pure fun _ => data)
    (yields_bind (one option) fun _ data => yields_pure fun _ => data)

theorem yields_parserSet {name option : String} {forEach : CgiHandler Unit}
    {forOne : String → CgiHandler Unit} :
    Yields (parserSet name forEach forOne option) (Answerable lib) := by
  refine yields_catching ?_ _
  exact yields_ite (yields_then fun _ => yields_pure fun _ => .inl rfl)
    (yields_then fun _ => yields_pure fun _ => .inl rfl)

end

/-! ### The handlers -/

theorem transfer_structured {source target target' : Json} {origin place : List String}
    {fields : List (String × FieldType)} (structured : Structured target)
    (done : transfer source origin place target fields = .ok target') : Structured target' := by
  induction fields generalizing target with
  | nil =>
    cases done
    exact structured
  | cons field fields ih =>
    obtain ⟨next, first, rest⟩ := except_bind_eq_ok.mp done
    obtain ⟨v, _, rfl⟩ := transferField_ok first
    exact ih (structured_put target v (by simp)) rest

theorem transferRadio_structured {source target target' : Json} {origin place : List String}
    (done : transferRadio source origin place target = .ok target') : Structured target' := by
  obtain ⟨first, front, rest⟩ := except_bind_eq_ok.mp done
  obtain ⟨second, offset, last⟩ := except_bind_eq_ok.mp rest
  obtain ⟨value, _, offset⟩ := except_bind_eq_ok.mp offset
  obtain ⟨x, _, assigned⟩ := except_bind_eq_ok.mp offset
  rw [Json.eq_put_of_assign _ _ _ _ assigned] at last
  exact transfer_structured (structured_put first _ (by simp)) last

section

variable (lib : JsonText)

theorem mainStationGet_yields (option : String) :
    Yields (mainStationGet lib option) (Answerable lib) := by
  have null : Structured .null := .inl rfl
  have dump {j : Json} (structured : Structured j) :
      Yields (pure (lib.dump j) : CgiHandler Bytes) (IsData lib) :=
    yields_pure (.inr ⟨j, structured, rfl⟩)
  refine yields_then fun localJson => yields_parserGet ?_ fun option => ?_
  · refine yields_bind (yields_converted fun _ => transfer_structured null) fun _ _ => ?_
    refine yields_bind (yields_converted fun _ => transferRadio_structured) fun _ _ => ?_
    refine yields_bind (yields_converted fun _ => transferRadio_structured) fun _ third => ?_
    refine yields_bind (yields_converted fun _ => transfer_structured third) fun _ fourth => ?_
    exact dump fourth
  · refine yields_bind (yields_converted fun uploadJson done => ?_) fun _ structured => dump structured
    rw [parseLocalCb] at done
    split at done
    · exact transfer_structured null done
    split at done
    · exact transferRadio_structured done
    split at done
    · exact transferRadio_structured done
    split at done
    · exact transfer_structured null done
    · cases done
      exact null

theorem mainStationSet_yields (sys : System) (option : String) (inputJson : Bytes) :
    Yields (mainStationSet lib sys option inputJson) (Answerable lib) :=
  yields_then fun _ => yields_parserSet

theorem mainLorawanFilterGet_yields (option : String) :
    Yields (mainLorawanFilterGet lib option) (Answerable lib) := by
  refine yields_then fun localJson => yields_parserGet ?_ fun _ => yields_pure (.inl rfl)
  exact yields_then fun _ => yields_pure (.inr ⟨_, structured_put _ _ (by simp), rfl⟩)

theorem mainLorawanFilterSet_yields (option : String) (inputJson : Bytes) :
    Yields (mainLorawanFilterSet lib option inputJson) (Answerable lib) :=
  yields_then fun _ => yields_parserSet

theorem mainLorawanRegionGet_yields : Yields (mainLorawanRegionGet lib) (Answerable lib) :=
  yields_catching (yields_then fun _ => yields_then fun _ =>
    yields_dump (structured_put _ _ (by simp))) _

theorem mainLorawanRegionSet_yields (inputJson : Bytes) :
    Yields (mainLorawanRegionSet lib inputJson) (Answerable lib) := by
  refine yields_catching (yields_then fun _ => yields_then fun _ => yields_then fun region => ?_) _
  refine yields_ite (yields_failed _) (yields_then fun _ => yields_then fun _ => yields_then fun _ => ?_)
  exact yields_pure fun _ => .inl rfl

theorem mainNotificationPushGet_yields : Yields (mainNotificationPushGet lib) (Answerable lib) :=
  yields_catching (yields_then fun _ => yields_then fun _ =>
    yields_dump (structured_put _ _ (by simp))) _

theorem mainNotificationPushSet_yields (inputJson : Bytes) :
    Yields (mainNotificationPushSet lib inputJson) (Answerable lib) :=
  yields_catching (yields_then fun _ => yields_then fun _ => yields_then fun _ => yields_then fun _ =>
    yields_then fun _ => yields_pure fun _ => .inl rfl) _

theorem mainLorawanOnlineGet_yields (running : String → Bool) :
    Yields (mainLorawanOnlineGet lib running) (Answerable lib) :=
  yields_catching (yields_then fun _ => yields_then fun _ =>
    yields_dump (structured_put _ _ (by simp))) _

/-- The texts of files, assigned to a document. -/
theorem dumpTexts_isData {uploadJson : Json} (structured : Structured uploadJson)
    {entries : List TextEntry} (named : ∀ entry ∈ entries, entry.1 ≠ []) {rsp : Bytes}
    (dumped : dumpTexts lib uploadJson entries = some rsp) : IsData lib rsp := by
  have paths (entries : List TextEntry) (named : ∀ entry ∈ entries, entry.1 ≠ [])
      (fields : List (List String × Json)) (values : entries.mapM TextEntry.value = some fields) :
      ∀ field ∈ fields, field.1 ≠ [] := by
    induction entries generalizing fields with
    | nil =>
      cases values
      simp
    | cons entry entries ih =>
      rw [List.mapM_cons] at values
      obtain ⟨first, read, values⟩ := Option.bind_eq_some_iff.mp values
      obtain ⟨rest, more, values⟩ := Option.bind_eq_some_iff.mp values
      cases values
      obtain ⟨text, _, rfl⟩ := Option.map_eq_some_iff.mp read
      intro field member
      rcases List.mem_cons.mp member with rfl | later
      · exact named entry (by simp)
      · exact ih (fun e inside => named e (by simp [inside])) rest more field later
  obtain ⟨fields, values, rfl⟩ := Option.map_eq_some_iff.mp dumped
  exact .inr ⟨_, structured.putAll (paths entries named fields values), rfl⟩

theorem yields_dumpTexts {σ : Type} {uploadJson : Json} (structured : Structured uploadJson)
    {entries : List TextEntry} (named : ∀ entry ∈ entries, entry.1 ≠ []) :
    Yields (Proc.ofExcept (thrown (dumpTexts lib uploadJson entries)) : Proc σ Fault Bytes)
      (IsData lib) := by
  refine yields_ofExcept fun rsp done => ?_
  cases dumped : dumpTexts lib uploadJson entries with
  | none =>
    rw [dumped] at done
    cases done
  | some text =>
    rw [dumped] at done
    cases done
    exact dumpTexts_isData lib structured named dumped

theorem fillJsonForAuthFile_named (g : Gateway) : ∀ entry ∈ fillJsonForAuthFile g, entry.1 ≠ [] := by
  have certificate (mode bsTrust trust name : String) :
      ∀ entry ∈ defaultEntry g mode bsTrust trust name, entry.1 ≠ [] := by
    rw [defaultEntry]
    split <;> simp
  have file (mode : String) (files : List FileInfo) :
      ∀ entry ∈ files.map (fileEntry g mode), entry.1 ≠ [] := by
    simp [fileEntry]
  intro entry member
  simp only [fillJsonForAuthFile, List.mem_append, or_assoc] at member
  rcases member with first | second | third | fourth | fifth | sixth
  · exact file _ _ entry first
  · exact certificate _ _ _ _ entry second
  · exact certificate _ _ _ _ entry third
  · simp only [List.mem_cons, List.not_mem_nil, or_false] at fourth
    rcases fourth with rfl | rfl <;> simp [uriEntry, tokenEntry]
  · exact file _ _ entry fifth
  · simp only [List.mem_cons, List.not_mem_nil, or_false] at sixth
    rcases sixth with rfl | rfl <;> simp [uriEntry, tokenEntry]

theorem mainLorawanWorkmodeGet_yields (mac : Option (Fin 6 → UInt8)) (running : String → Bool) :
    Yields (mainLorawanWorkmodeGet lib mac running) (Answerable lib) := by
  refine yields_catching (yields_then fun _ => yields_then fun _ => yields_then fun _ =>
    yields_then fun fields => yields_then fun g => ?_) _
  refine yields_bind (yields_dumpTexts lib ?_ (fillJsonForAuthFile_named g)) fun _ data =>
    yields_pure fun _ => data
  rw [Json.putAll, List.foldl_append]
  exact structured_put _ _ (by simp)

theorem mainLteGet_yields (modem : LteModem) :
    Yields (mainLteGet lib modem) (Answerable lib) := by
  refine yields_within (yields_then fun rc => yields_ite ?_ ?_)
  · exact yields_then fun _ => yields_then fun _ => yields_failed _
  · refine yields_then fun p => yields_bind (yields_dumpTexts lib ?_ ?_) fun rsp data =>
      yields_then fun _ => yields_pure fun _ => data
    · exact (Structured.putAll (.inl rfl) (by simp))
    · simp

theorem mainLorawanWorkmodeSet_quiet (sys : System) (inputJson : Bytes) :
    Yields (mainLorawanWorkmodeSet lib sys inputJson) Quiet := by
  have fails (rsp : String) : Yields (pure (-1, rsp) : CgiProc (Int × String)) Quiet :=
    yields_pure (quiet_failed rsp)
  have quiet : Yields (pure (0, "") : CgiProc (Int × String)) Quiet := yields_pure (quiet_empty 0)
  have records (localJson : Json) : Yields (recordMode lib localJson) Quiet :=
    yields_then fun _ => yields_then fun _ => quiet
  refine yields_tryCatch (yields_then fun remoteJson => yields_then fun workmode => ?_) (fails _)
  refine yields_ite (fails _) (yields_ite ?_ ?_)
  · refine yields_then fun _ => yields_then fun _ => yields_then fun rc => yields_ite ?_ ?_
    · exact yields_then fun _ => fails _
    · refine yields_then fun _ => yields_ite (fails _) (yields_then fun _ => ?_)
      exact yields_ite (fails _) (records _)
  · refine yields_ite (yields_then fun _ => quiet) (yields_ite (yields_then fun _ => quiet) ?_)
    exact records _

theorem getTolowerGatewayEui_ne_empty {mac : Option (Fin 6 → UInt8)} {eui : String}
    (known : getTolowerGatewayEui mac = some eui) : eui ≠ "" := by
  obtain ⟨address, _, rfl⟩ := Option.map_eq_some_iff.mp known
  rw [ascii, Ne, String.ofList_eq_empty_iff]
  simp [generateGatewayIdByMac, hexByteUpper]

/-- A document that has an EUI is an object. -/
theorem localTopic_structured {file : Option Bytes} (named : (localTopic lib file).2 ≠ "") :
    Structured (localTopic lib file).1 := by
  rw [localTopic] at named ⊢
  cases read : file.bind lib.read with
  | none => exact .inl rfl
  | some localJson =>
    rw [read] at named
    dsimp only at named ⊢
    cases indexed : localJson.index "gateway_eui" with
    | error e =>
      rw [indexed] at named
      exact absurd rfl named
    | ok member =>
      have structured : Structured localJson := by
        cases localJson with
        | null => exact .inl rfl
        | obj fields => exact .inr rfl
        | _ => cases indexed
      split <;> exact structured

theorem generateBridgeMqttTopic_isData (mac : Option (Fin 6 → UInt8)) (file : Option Bytes)
    (success : (generateBridgeMqttTopic lib mac file).1 = 0) :
    IsData lib (generateBridgeMqttTopic lib mac file).2.1 := by
  rw [generateBridgeMqttTopic] at success ⊢
  cases known : getTolowerGatewayEui mac with
  | none =>
    rw [known] at success
    cases success
  | some strEui =>
    dsimp only
    split
    · exact .inr ⟨_, structured_put _ _ (by simp), rfl⟩
    next same =>
      refine .inr ⟨_, localTopic_structured lib ?_, rfl⟩
      rw [not_not.mp same]
      exact getTolowerGatewayEui_ne_empty known

theorem mainBridgeTopicGet_yields (mac : Option (Fin 6 → UInt8)) :
    Yields (mainBridgeTopicGet lib mac) (Answerable lib) :=
  yields_then fun g => yields_then fun _ =>
    yields_pure (generateBridgeMqttTopic_isData lib mac (g.files bridgeTopicConfDefault))

theorem setBridgeMqttTopic_quiet (mac : Option (Fin 6 → UInt8)) (inputJson : Bytes)
    (file : Option Bytes) : Quiet (setBridgeMqttTopic lib mac inputJson file).1 := by
  rw [setBridgeMqttTopic]
  cases getTolowerGatewayEui mac with
  | none => exact quiet_empty _
  | some eui =>
    dsimp only
    split
    · split
      · exact quiet_failed _
      · split
        · exact quiet_failed _
        · split
          · exact quiet_failed _
          · split
            · exact quiet_failed _
            · exact quiet_empty _
    · exact quiet_failed _

theorem mainBridgeTopicSet_quiet (mac : Option (Fin 6 → UInt8)) (inputJson : Bytes) :
    Yields (mainBridgeTopicSet lib mac inputJson) Quiet :=
  yields_then fun g => yields_then fun _ =>
    yields_pure (setBridgeMqttTopic_quiet lib mac inputJson (g.files bridgeTopicConfDefault))

end

theorem getLocal_structured (data : Toml) (option : String) :
    Yields (getLocal data option) Structured := by
  have null : Structured .null := .inl rfl
  have general (m : Members) (j : Json) : Structured (generateJsonForGeneral m j) :=
    structured_put _ _ (by simp)
  have filters (m : Members) (j : Json) : Structured (generateJsonForFilters m j) :=
    structured_put _ _ (by simp)
  have backend (m : Members) {j : Json} (structured : Structured j) :
      Structured (generateJsonForBackend m j) := by
    rw [generateJsonForBackend]
    split
    · exact structured.putAll (by simp)
    · split
      · exact structured.putAll (by simp)
      · exact structured
  have integration (m : Members) {j : Json} (structured : Structured j) :
      Structured (generateJsonForIntegration m j) := by
    refine Structured.putAll (structured.putAll (by simp)) ?_
    rw [generateJsonForAuth]
    split
    · simp
    · split
      · simp
      · split <;> simp
  refine yields_ite ?_ ?_
  · exact yields_then fun _ => yields_then fun p => yields_pure
      (integration _ (backend _ (filters _ _)))
  · refine yields_then fun _ => yields_then fun p => yields_pure ?_
    rw [runGenJsonCb]
    split
    · exact general _ _
    split
    · exact filters _ _
    split
    · exact backend _ null
    split
    · exact integration _ null
    · exact null

theorem mainTomlGet_yields (json : JsonText) (toml : TomlText) (u : Uninitialised)
    (option : String) : Yields (mainTomlGet json toml u option) (Answerable json) := by
  refine yields_then fun disk => ?_
  cases disk.conf.bind toml.parse with
  | none => exact yields_raise _
  | some data =>
    refine yields_within (yields_tryCatch ?_ (yields_pure fun success => by cases success))
    exact yields_bind (getLocal_structured data option) fun _ structured => yields_dump structured

theorem mainTomlSet_quiet (json : JsonText) (toml : TomlText) (u : Uninitialised)
    (option : String) (inputJson : Bytes) :
    Yields (mainTomlSet json toml u option inputJson) Quiet := by
  refine yields_then fun disk => ?_
  cases disk.conf.bind toml.parse with
  | none => exact yields_raise _
  | some data =>
    refine yields_within (yields_tryCatch ?_ (yields_pure (quiet_failed _)))
    exact yields_then fun _ => yields_pure (quiet_empty 0)

theorem yields_onGateway {α : Type} {x : CgiHandler α} {P : α → Prop} (yields : Yields x P) :
    Yields (onGateway x) P :=
  yields_onPart yields

theorem yields_onBridge {α : Type} {x : Proc BridgeDisk Fault α} {P : α → Prop}
    (yields : Yields x P) : Yields (onBridge x) P :=
  yields_onPart yields

/-- What a handler returns with the code 0 is data. -/
theorem Handler.function_yields (env : Environment) (cmd : String) (post : Bytes)
    (handler : Handler) : Yields (handler.function env cmd post) (Answerable env.json) := by
  cases handler with
  | tomlGet => exact yields_onBridge (mainTomlGet_yields _ _ _ _)
  | tomlSet => exact yields_onBridge (yields_withText (mainTomlSet_quiet _ _ _ _ _))
  | bsGet => exact yields_onGateway (mainStationGet_yields _ _)
  | bsSet => exact yields_onGateway (mainStationSet_yields _ _ _ _)
  | filterSet => exact yields_onGateway (mainLorawanFilterSet_yields _ _ _)
  | filterGet => exact yields_onGateway (mainLorawanFilterGet_yields _ _)
  | regionSet => exact yields_onGateway (mainLorawanRegionSet_yields _ _)
  | regionGet => exact yields_onGateway (mainLorawanRegionGet_yields _)
  | modeSet =>
    exact yields_onGateway (yields_withText (yields_mapFault (mainLorawanWorkmodeSet_quiet _ _ _)))
  | modeGet => exact yields_onGateway (mainLorawanWorkmodeGet_yields _ _ _)
  | onlineGet => exact yields_onGateway (mainLorawanOnlineGet_yields _ _)
  | notifGet => exact yields_onGateway (mainNotificationPushGet_yields _)
  | notifSet => exact yields_onGateway (mainNotificationPushSet_yields _ _)
  | lteGet => exact yields_onGateway (mainLteGet_yields _ _)
  | bridgeTopicGet => exact yields_onGateway (mainBridgeTopicGet_yields _ _)
  | bridgeTopicSet => exact yields_onGateway (yields_withText (mainBridgeTopicSet_quiet _ _ _))

/-! ### The response to a result -/

theorem Handler.message_embeddable (handler : Handler) :
    Embeddable (textBytes handler.message) := by
  cases handler <;> exact embeddable_ofList rfl (by decide)

theorem responseData_eq (cmdLine : Bool) (handler : Handler) (data : Bytes) (p : Process) :
    responseData cmdLine 200 data (textBytes handler.message) p =
      (.ok (), { p with stdout := p.stdout ++ [httpHeaders cmdLine ++
        answerText [50, 48, 48] (textBytes handler.message)
          (125 :: (responseBody data ++ [125, 10]))] }) := by
  have embeddable := handler.message_embeddable
  have brace : textBytes "\x7d" = [125] := textBytes_ofList _
  have line : textBytes "\x7d\n" = [125, 10] := textBytes_ofList _
  have digits : textBytes (toString 200) = [50, 48, 48] := textBytes_ofList _
  rw [responseData, if_neg embeddable.occupied, ← commonContentStdout_eq cmdLine digits]
  refine Proc.bind_eq_ok.mpr ⟨textBytes handler.message, p, ?_, ?_⟩
  · rw [formatted, embeddable.vsnprintf_eq]
    rfl
  · rw [brace, line]
    simp only [write, Proc.modify_apply, List.append_assoc, List.cons_append, List.nil_append]

/-- The data of a success can stand in the response. -/
theorem conveys_success {lib : JsonText} (standard : Standard lib.dump) (handler : Handler)
    {data : Bytes} (isData : IsData lib data) :
    Conveys (answerText [50, 48, 48] (textBytes handler.message)
      (125 :: (responseBody data ++ [125, 10]))) 200 (textBytes handler.message) := by
  refine conveys_answer number_200
    (fun b member => (handler.message_embeddable.plain b member).1) ?_
  have bodyKey : textBytes ",\"body\": " = 44 :: 34 :: (bodyName ++ [34, 58, 32]) := textBytes_ofList _
  have quotedKey : textBytes ",\"body\": \"" = 44 :: 34 :: (bodyName ++ [34, 58, 32, 34]) :=
    textBytes_ofList _
  have quote : textBytes "\"" = [34] := textBytes_ofList _
  have solid : ∀ b ∈ bodyName, Plain b := List.all_iff_forall_prop.mp (by decide)
  -- A member with one space before its value.
  have body {text : Bytes} {v : Json} (value : Parses (text ++ [125, 10]) (.value v) [125, 10]) :
      Parses (34 :: (bodyName ++ 34 :: 58 :: 32 :: (text ++ [125, 10]))) (.fields [("body", v)]) [10] :=
    .lastField (.nil _) (stringAt_plain solid (JsonCodec.ofUtf8_utf8 "body") _) (.nil _)
      (.cons (by decide) (.nil _)) value (.nil _)
  rcases isData with rfl | ⟨j, rfl | object, rfl⟩
  · exact .inl rfl
  · have braces : ¬ (('\x7d'.toUInt8 ∈ lib.dump .null ∧ '\x7b'.toUInt8 ∈ lib.dump .null) ∨
        (']'.toUInt8 ∈ lib.dump .null ∧ '['.toUInt8 ∈ lib.dump .null)) := by
      rw [standard.null]
      decide
    have some : lib.dump .null ≠ [] := by
      rw [standard.null]
      simp
    have null : JsonCodec.ofUtf8 [110, 117, 108, 108] = Option.some "null" :=
      JsonCodec.ofUtf8_utf8 "null"
    have value : Parses (34 :: ([110, 117, 108, 108] ++ 34 :: [125, 10])) (.value (.str "null"))
        [125, 10] := .string (stringAt_plain (List.all_iff_forall_prop.mp (by decide)) null _)
    rw [responseBody, if_neg some, if_neg braces, quotedKey, quote, standard.null]
    exact .inr ⟨_, _, rfl, @body (34 :: [110, 117, 108, 108, 34]) _ value⟩
  · obtain ⟨fields, rfl⟩ : ∃ fields, j = .obj fields := by
      cases j with
      | obj fields => exact ⟨fields, rfl⟩
      | _ => cases object
    have braces := standard.object fields
    obtain ⟨v, value⟩ := standard.written (.obj fields)
    have some : lib.dump (.obj fields) ≠ [] := fun empty => by simp [empty] at braces
    rw [responseBody, if_neg some, if_pos (.inl ⟨braces.2, braces.1⟩), bodyKey]
    refine .inr ⟨_, v, ?_, body (value [125, 10])⟩
    simp

/-- The response to what a handler returns is JSON with the code and the text of the result exactly
if it has succeeded, or its text can stand in a response as it is. -/
theorem response_wellFormed_iff {env : Environment} (standard : Standard env.json.dump)
    {cmdLine : Bool} {handler : Handler} {cmd : String} {post : Bytes} {w w' : World} {rc : Int}
    {rsp : Bytes}
    (returned : handler.function env cmd post (Process.start w).world = (.ok (rc, rsp), w')) :
    WellAnswered env cmdLine handler cmd post w rc rsp w' ↔ rc = 0 ∨ Embeddable rsp := by
  rw [WellAnswered, mainRun_eq returned]
  by_cases success : rc = 0
  · refine iff_of_true ?_ (.inl success)
    have data := (handler.function_yields env cmd post).of_eq_ok returned success
    simp only [success, if_true, mainAnswer]
    exact ⟨_, responseData_eq cmdLine handler rsp _, conveys_success standard handler data⟩
  · simp only [success, if_false, false_or]
    exact failure_conveyed_iff cmdLine handler success rsp w'

/-! ### Names that are not known -/

theorem echoPlain_iff (s : String) : EchoPlain s ↔ ∀ b ∈ textBytes s, Plain b ∧ b ≠ 37 := by
  refine ⟨plain_textBytes, fun plain c member => ?_⟩
  rw [textBytes, Utf8.toUTF8_toList] at plain
  have encoded {b : UInt8} (single : String.utf8EncodeChar c = [b]) : Plain b ∧ b ≠ 37 :=
    plain b (mem_bytes single member)
  refine ⟨?_, ?_, ?_, ?_⟩
  · by_contra control
    have small : c.val.toNat < 32 := Nat.not_le.mp control
    have single : String.utf8EncodeChar c = [c.val.toUInt8] := by
      refine String.utf8EncodeChar_eq_singleton (Char.utf8Size_eq_one_iff.mpr ?_)
      rw [UInt32.le_iff_toNat_le]
      exact Nat.le_trans (Nat.le_of_lt small) (by decide)
    have printed := (encoded single).1.1
    rw [UInt8.le_iff_toNat_le, UInt32.toNat_toUInt8] at printed
    have low : (32 : UInt8).toNat = 32 := rfl
    omega
  · rintro rfl
    exact (encoded rfl).1.2.1 rfl
  · rintro rfl
    exact (encoded rfl).1.2.2 rfl
  · rintro rfl
    exact (encoded rfl).2 rfl

/-- A name behind a text that can stand in a response. -/
theorem embeddable_append_iff {lead : String} (plain : EchoPlain lead) (occupied : lead ≠ "")
    (name : String) :
    Embeddable (textBytes (lead ++ name)) ↔
      EchoPlain name ∧ (textBytes lead).length + (textBytes name).length ≤ 1023 := by
  rw [echoPlain_iff, textBytes_append]
  constructor
  · intro embeddable
    refine ⟨fun b member => embeddable.plain b (by simp [member]), ?_⟩
    simpa using embeddable.fits
  · rintro ⟨free, fits⟩
    refine ⟨⟨lead ++ name, textBytes_append ..⟩, ?_, by simpa using fits, ?_⟩
    · simp [textBytes_ne_nil occupied]
    · intro b member
      rcases List.mem_append.mp member with front | back
      · exact plain_textBytes plain b front
      · exact free b back

theorem eq_ok_of_toOption {ε α : Type} {x : Except ε α} {a : α} (returned : x.toOption = some a) :
    x = .ok a := by
  cases x with
  | error e => cases returned
  | ok b =>
    cases returned
    rfl

/-- A work mode that is not known comes back in the text of the failure. -/
theorem modeSet_unknown {env : Environment} {cmd : String} {post : Bytes} {w : World}
    {workmode : String} (requested : requestedMode env.json post = some workmode)
    (unknown : workmode ∉ modeNames) :
    Handler.modeSet.function env cmd post w =
      (.ok (-1, textBytes ("this work mode option is not exist: " ++ workmode)), w) := by
  obtain ⟨remoteJson, parse, named⟩ := Option.bind_eq_some_iff.mp requested
  have name := eq_ok_of_toOption named
  have body : workmodeSet env.json env.sys post w.gateway =
      (.ok (-1, "this work mode option is not exist: " ++ workmode), w.gateway) := by
    refine Proc.bind_eq_ok.mpr ⟨remoteJson, w.gateway, ?_, Proc.bind_eq_ok.mpr
      ⟨workmode, w.gateway, ?_, ?_⟩⟩
    · rw [parse]
      rfl
    · rw [name]
      rfl
    · rw [if_pos (show workmode ∉ ["PKFD", "BAST", "BRDG", "CLOSE", "RESTART"] from unknown)]
      rfl
  have set : mainLorawanWorkmodeSet env.json env.sys post w.gateway =
      (.ok (-1, "this work mode option is not exist: " ++ workmode), w.gateway) := by
    rw [mainLorawanWorkmodeSet, Proc.tryCatch, body]
  simp only [Handler.function, onGateway, Proc.onPart, withText, Proc.bind_apply, thrownBy,
    Proc.mapFault, set, Except.mapError, Proc.pure_apply]

/-- And so does a region. -/
theorem regionSet_unknown {env : Environment} {cmd : String} {post : Bytes} {w : World}
    {region : String} (requested : requestedRegion env.json w.gateway post = some region)
    (unknown : region ∉ regionNames) :
    Handler.regionSet.function env cmd post w =
      (.ok (-1, textBytes ("this region option is not exist: " ++ region)), w) := by
  obtain ⟨localJson, read, requested⟩ := Option.bind_eq_some_iff.mp requested
  obtain ⟨remoteJson, parse, named⟩ := Option.bind_eq_some_iff.mp requested
  have name := eq_ok_of_toOption named
  have body : regionSet env.json post w.gateway =
      (.ok (failed ("this region option is not exist: " ++ region)), w.gateway) := by
    refine Proc.bind_eq_ok.mpr ⟨localJson, w.gateway, ?_, Proc.bind_eq_ok.mpr
      ⟨remoteJson, w.gateway, ?_, Proc.bind_eq_ok.mpr ⟨region, w.gateway, ?_, ?_⟩⟩⟩
    · refine Proc.bind_eq_ok.mpr ⟨w.gateway, w.gateway, rfl, ?_⟩
      rw [read]
      rfl
    · rw [parseJson, parse]
      rfl
    · rw [name]
      rfl
    · rw [if_pos unknown]
      rfl
  have set : mainLorawanRegionSet env.json post w.gateway =
      (.ok (failed ("this region option is not exist: " ++ region)), w.gateway) := by
    rw [mainLorawanRegionSet, catching, Proc.tryCatch, body]
  simp only [Handler.function, onGateway, Proc.onPart, set, failed]

/-- The response to a work mode that is not known is JSON exactly if its name needs no escape and
fits into the buffer. -/
theorem unknown_mode_answered_iff {env : Environment} {cmdLine : Bool} {cmd : String}
    {post : Bytes} {w : World} {workmode : String}
    (requested : requestedMode env.json post = some workmode) (unknown : workmode ∉ modeNames) :
    WellAnswered env cmdLine .modeSet cmd post w (-1)
        (textBytes ("this work mode option is not exist: " ++ workmode)) (Process.start w).world ↔
      EchoPlain workmode ∧ (textBytes workmode).length ≤ 987 := by
  have returned := @modeSet_unknown env cmd post (Process.start w).world workmode requested unknown
  have lead : EchoPlain "this work mode option is not exist: " := echoPlain_ofList rfl
  have length : (textBytes "this work mode option is not exist: ").length = 36 := by
    rw [show textBytes "this work mode option is not exist: " = _ from textBytes_ofList _]
    rfl
  have failure : ¬ (-1 : Int) = 0 := by decide
  rw [WellAnswered, mainRun_eq returned]
  simp only [failure, if_false]
  rw [failure_conveyed_iff cmdLine .modeSet failure, embeddable_append_iff lead (by decide), length]
  constructor <;> (rintro ⟨plain, fits⟩; exact ⟨plain, by omega⟩)

/-- A request for a work mode by this name. -/
def modeRequest (workmode : String) : Json := Json.null.put ["body", "work_mode"] (.str workmode)

/-- There is a text of it. -/
theorem exists_modeRequest (workmode : String) :
    ∃ post, requestedMode bareEnvironment.json post = some workmode := by
  refine ⟨JsonCodec.text.dump (modeRequest workmode), ?_⟩
  have proper : (modeRequest workmode).Proper JsonCodec.text.finite :=
    Json.Proper.null.put (.str workmode) _
  have parse : bareEnvironment.json.parse (JsonCodec.text.dump (modeRequest workmode)) =
      some (modeRequest workmode) := JsonCodec.text.parse_dump _ proper
  rw [requestedMode, parse]
  rfl

/-- A quote in the name of a mode ends the message. -/
theorem quoted_mode_unreadable :
    ¬ ∀ (env : Environment), Standard env.json.dump → ∀ (cmdLine : Bool) (handler : Handler)
      (cmd : String) (post : Bytes) (w w' : World) (rc : Int) (rsp : Bytes),
      handler.function env cmd post (Process.start w).world = (.ok (rc, rsp), w') →
      WellAnswered env cmdLine handler cmd post w rc rsp w' := by
  intro always
  obtain ⟨post, requested⟩ := exists_modeRequest "a\"b"
  have unknown : "a\"b" ∉ modeNames := by decide
  have answered := always bareEnvironment standard_text false .modeSet "cgicpp-mode-set" post
    bareWorld _ _ _ (modeSet_unknown requested unknown)
  rw [unknown_mode_answered_iff requested unknown] at answered
  exact absurd answered.1 (by decide)

/-- A name without one is echoed. -/
theorem response_wellFormed_plain_mode :
    ∃ post, requestedMode bareEnvironment.json post = some "none" ∧
      WellAnswered bareEnvironment false .modeSet "cgicpp-mode-set" post bareWorld (-1)
        (textBytes ("this work mode option is not exist: " ++ "none"))
        (Process.start bareWorld).world := by
  obtain ⟨post, requested⟩ := exists_modeRequest "none"
  have returned := @modeSet_unknown bareEnvironment "cgicpp-mode-set" post
    (Process.start bareWorld).world _ requested (by decide)
  have lead : EchoPlain "this work mode option is not exist: " := echoPlain_ofList rfl
  refine ⟨post, requested, (response_wellFormed_iff standard_text returned).mpr (.inr ?_)⟩
  rw [embeddable_append_iff lead (by decide)]
  refine ⟨echoPlain_ofList rfl, ?_⟩
  rw [show textBytes "this work mode option is not exist: " = _ from textBytes_ofList _,
    show textBytes "none" = _ from textBytes_ofList _]
  decide

end LorawanFeeds.Cgi
