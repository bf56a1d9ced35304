import LorawanFeeds.Lib.Utf8
import LorawanFeeds.Cgi.LteSerialPort
import LorawanFeeds.Cgi.StationRequest

/-!
# The main program of the CGI

`MainHandler` of `main.cpp`: the map of the handlers, and `main_run`, which calls the handler of a
request and writes the response. What a handler throws ends the process.
-/
namespace LorawanFeeds.Cgi

open Lib Bridge

/-! ### The handlers -/

/-- The entries of `main_map`. -/
inductive Handler where
  | tomlGet | tomlSet | bsGet | bsSet | filterSet | filterGet | regionSet | regionGet
  | modeSet | modeGet | onlineGet | notifGet | notifSet | lteGet | bridgeTopicGet | bridgeTopicSet
  deriving DecidableEq, Repr

/-- The message of a request that has succeeded. -/
def Handler.message : Handler → String
  | .tomlGet => "Successfully get bridge toml file."
  | .tomlSet => "Successfully update bridge toml file."
  | .bsGet => "Successfully get basicstation config."
  | .bsSet => "Successfully update basicstation config."
  | .filterSet => "Successfully update filter info."
  | .filterGet => "Successfully get filter info."
  | .regionSet => "Successfully update region info."
  | .regionGet => "Successfully get region info."
  | .modeSet => "Successfully update LoRaWAN work mode."
  | .modeGet => "Successfully get LoRaWAN work mode."
  | .onlineGet => "Successfully get LoRaWAN online status."
  | .notifGet => "Successfully get push enable state."
  | .notifSet => "Successfully set push enable state."
  | .lteGet => "Successfully get lte info."
  | .bridgeTopicGet => "Successfully get bridge topic."
  | .bridgeTopicSet => "Successfully update bridge topic."

/-- What the handlers use besides the files: the libraries, the operating system, the hardware
address, the processes, the memory without a value, and the serial ports. -/
structure Environment where
  json : JsonText
  toml : TomlText
  sys : System
  mac : Option (Fin 6 → UInt8)
  running : String → Bool
  uninitialised : Uninitialised
  modem : LteModem

/-- The files of the gateway. The file of the bridge is TOML and stands by lines. -/
structure World where
  gateway : Gateway
  bridge : BridgeDisk

def onGateway {α : Type} : CgiHandler α → Proc World Fault α :=
  Proc.onPart World.gateway fun w g => { w with gateway := g }

def onBridge {α : Type} : Proc BridgeDisk Fault α → Proc World Fault α :=
  Proc.onPart World.bridge fun w disk => { w with bridge := disk }

/-- A handler whose `rsp` is a text. -/
def withText {σ : Type} (x : Proc σ Fault (Int × String)) : Proc σ Fault Result := do
  let (rc, rsp) ← x
  return (rc, textBytes rsp)

def bridgeTopicConfDefault : String := "/etc/lorabridge/lorabridge_topic.conf"

/-- `main_bridge_topic_get`. -/
def mainBridgeTopicGet (lib : JsonText) (mac : Option (Fin 6 → UInt8)) : CgiHandler Result := do
  let (rc, rsp, file) :=
    generateBridgeMqttTopic lib mac ((← Proc.get).files bridgeTopicConfDefault)
  Proc.modify fun g => g.setFile bridgeTopicConfDefault file
  return (rc, rsp)

/-- `main_bridge_topic_set`. -/
def mainBridgeTopicSet (lib : JsonText) (mac : Option (Fin 6 → UInt8)) (inputJson : Bytes) :
    CgiHandler (Int × String) := do
  let (result, file) :=
    setBridgeMqttTopic lib mac inputJson ((← Proc.get).files bridgeTopicConfDefault)
  Proc.modify fun g => g.setFile bridgeTopicConfDefault file
  return result

/-- The function of a handler. -/
def Handler.function (env : Environment) (option : String) (inputJson : Bytes) :
    Handler → Proc World Fault Result
  | .tomlGet => onBridge (mainTomlGet env.json env.toml env.uninitialised option)
  | .tomlSet =>
    onBridge (withText (mainTomlSet env.json env.toml env.uninitialised option inputJson))
  | .bsGet => onGateway (mainStationGet env.json option)
  | .bsSet => onGateway (mainStationSet env.json env.sys option inputJson)
  | .filterSet => onGateway (mainLorawanFilterSet env.json option inputJson)
  | .filterGet => onGateway (mainLorawanFilterGet env.json option)
  | .regionSet => onGateway (mainLorawanRegionSet env.json inputJson)
  | .regionGet => onGateway (mainLorawanRegionGet env.json)
  | .modeSet => onGateway (withText (thrownBy (mainLorawanWorkmodeSet env.json env.sys inputJson)))
  | .modeGet => onGateway (mainLorawanWorkmodeGet env.json env.mac env.running)
  | .onlineGet => onGateway (mainLorawanOnlineGet env.json env.running)
  | .notifGet => onGateway (mainNotificationPushGet env.json)
  | .notifSet => onGateway (mainNotificationPushSet env.json inputJson)
  | .lteGet => onGateway (mainLteGet env.json env.modem)
  | .bridgeTopicGet => onGateway (mainBridgeTopicGet env.json env.mac)
  | .bridgeTopicSet => onGateway (withText (mainBridgeTopicSet env.json env.mac inputJson))

/-! ### The response -/

/-- The text of a format without arguments. Any conversion but `%%` would take an argument that is
not there. -/
def conversions : Bytes → Option Bytes
  | [] => some []
  | 37 :: 37 :: rest => (conversions rest).map (37 :: ·)
  | 37 :: _ => none
  | c :: rest => (conversions rest).map (c :: ·)

/-- `vsnprintf(buf, 1024, message.c_str(), args)`. -/
def vsnprintf (message : Bytes) : Option Bytes :=
  (conversions (message.takeWhile (· ≠ 0))).map (·.take 1023)

/-- `common_content_stdout`. -/
def commonContentStdout (cmdLine : Bool) (code : Nat) (fmt : Bytes) : Bytes :=
  textBytes (if cmdLine then ""
    else "Status: 200 OK\r\nContent-Type: application/json\r\n\r\n") ++
    textBytes ("\x7b\"header\":\x7b\"code\":" ++ toString code ++ ",\"message\":\"") ++ fmt ++
    textBytes "\""

/-- The body of a response: a document as it is, any other text in quotes. -/
def responseBody (data : Bytes) : Bytes :=
  if data = [] then []
  else if ('\x7d'.toUInt8 ∈ data ∧ '\x7b'.toUInt8 ∈ data) ∨
      (']'.toUInt8 ∈ data ∧ '['.toUInt8 ∈ data) then textBytes ",\"body\": " ++ data
  else textBytes ",\"body\": \"" ++ data ++ textBytes "\""

/-- A process of the program: the files, and the responses that it has written. -/
structure Process where
  world : World
  stdout : List Bytes

abbrev MainProc := Proc Process Fault

/-- The text that is made of a message. -/
def formatted (message : Bytes) : MainProc Bytes :=
  Proc.ofExcept (undefined (vsnprintf message))

def write (response : Bytes) : MainProc Unit := Proc.modify fun p =>
  { p with stdout := p.stdout ++ [response] }

/-- `response` without data. Nothing is written for an empty message. -/
def response (cmdLine : Bool) (code : Nat) (message : Bytes) : MainProc Unit :=
  if message = [] then pure ()
  else do
    let buf ← formatted message
    write (commonContentStdout cmdLine code buf ++ textBytes "\x7d\x7d\n")

/-- `response` with data. -/
def responseData (cmdLine : Bool) (code : Nat) (data message : Bytes) : MainProc Unit :=
  if message = [] then write (responseBody data ++ textBytes "\x7d\n")
  else do
    let buf ← formatted message
    write (commonContentStdout cmdLine code buf ++ textBytes "\x7d" ++ responseBody data ++
      textBytes "\x7d\n")

/-- `main_run`. -/
def mainRun (env : Environment) (cmdLine : Bool) (handler : Handler) (cmd : String)
    (post : Bytes) : MainProc Unit := do
  let (rc, rsp) ← Proc.onPart Process.world (fun p w => { p with world := w })
    (handler.function env cmd post)
  if rc = 0 then responseData cmdLine 200 rsp (textBytes handler.message)
  else if rsp = [] then response cmdLine 500 (textBytes "cgi-cpp handler failed")
  else response cmdLine 500 rsp

/-- The program starts with an empty `err_file_path`, and has written nothing. -/
def Process.start (w : World) : Process :=
  { world := { w with gateway := { w.gateway with errFilePath := "" } }, stdout := [] }

/-! ### Formats -/

/-- The text can be the format of a response. -/
def FormatSafe (message : Bytes) : Prop := (vsnprintf message).isSome = true

instance (message : Bytes) : Decidable (FormatSafe message) := inferInstanceAs (Decidable (_ = true))

theorem textBytes_append (s t : String) : textBytes (s ++ t) = textBytes s ++ textBytes t := by
  simp only [textBytes, Utf8.toUTF8_toList, String.toList_append, List.flatMap_append]

/-- A text without conversions is printed as it is. -/
theorem conversions_append {plain : Bytes} (free : (37 : UInt8) ∉ plain) (rest : Bytes) :
    conversions (plain ++ rest) = (conversions rest).map (plain ++ ·) := by
  induction plain with
  | nil => simp
  | cons c plain ih =>
    have other : c ≠ 37 := fun same => free (by simp [same])
    have step : conversions (c :: (plain ++ rest)) = (conversions (plain ++ rest)).map (c :: ·) := by
      rw [conversions]
      · rintro _ same _
        exact other same
      · rintro same
        exact other same
    rw [List.cons_append, step, ih fun member => free (by simp [member]), Option.map_map]
    rfl

/-- No character of the text begins a conversion or ends the format. -/
def FormatPlain (s : String) : Prop := ∀ c ∈ s.toList, c ≠ '%' ∧ c ≠ Char.ofNat 0

instance (s : String) : Decidable (FormatPlain s) := List.decidableBAll _ _

/-- A literal text. -/
theorem formatPlain_ofList {text : List Char}
    (plain : (text.all fun c => c.toNat != 37 && c.toNat != 0) = true) :
    FormatPlain (String.ofList text) := by
  intro c member
  rw [String.toList_ofList] at member
  have here := List.all_eq_true.mp plain c member
  constructor
  · rintro rfl
    cases here
  · rintro rfl
    cases here

theorem FormatPlain.append {s t : String} (first : FormatPlain s) (second : FormatPlain t) :
    FormatPlain (s ++ t) := by
  intro c member
  rw [String.toList_append] at member
  rcases List.mem_append.mp member with here | there
  · exact first c here
  · exact second c there

/-- Such a text is neither cut nor taken for a conversion. -/
theorem textBytes_of_plain {s : String} (plain : FormatPlain s) :
    (37 : UInt8) ∉ textBytes s ∧ (0 : UInt8) ∉ textBytes s := by
  constructor
  · exact @Utf8.notMem_toUTF8 s '%' (by decide) fun member => (plain _ member).1 rfl
  · exact @Utf8.notMem_toUTF8 s (Char.ofNat 0) (by decide) fun member => (plain _ member).2 rfl

/-- What stands before a text in a message does not matter. -/
theorem formatSafe_append {s : String} (plain : FormatPlain s) (rest : Bytes) :
    FormatSafe (textBytes s ++ rest) ↔ FormatSafe rest := by
  obtain ⟨free, whole⟩ := textBytes_of_plain plain
  have cut : (textBytes s ++ rest).takeWhile (· ≠ 0) = textBytes s ++ rest.takeWhile (· ≠ 0) := by
    apply List.takeWhile_append_of_pos
    intro b member
    exact decide_eq_true fun same => whole (same ▸ member)
  simp only [FormatSafe, vsnprintf, cut, conversions_append free, Option.isSome_map]

theorem formatSafe_textBytes {s : String} (plain : FormatPlain s) :
    FormatSafe (textBytes s) := by
  have empty := (formatSafe_append plain []).mpr rfl
  rwa [List.append_nil] at empty

/-! ### The run of the program -/

/-- The handler returns to `main_run` with 0 or -1, and one response is written. -/
def AnsweredOnce (env : Environment) (cmdLine : Bool) (handler : Handler) (cmd : String) (post : Bytes)
    (w : World) : Prop :=
  ∃ rc rsp w' response,
    handler.function env cmd post (Process.start w).world = (.ok (rc, rsp), w') ∧
    (rc = 0 ∨ rc = -1) ∧
    mainRun env cmdLine handler cmd post (Process.start w) = (.ok (), ⟨w', [response]⟩)

/-- A handler that returns 0 or -1 under a condition, and then with a text that can be printed. -/
def Settles {σ : Type} (x : Proc σ Fault Result) (s : σ) (condition : Prop) : Prop :=
  Proc.Ends x s
    (fun result _ => (result.1 = 0 ∨ result.1 = -1) ∧
      (condition ↔ result.1 = 0 ∨ FormatSafe result.2))
    fun _ _ => ¬ condition

theorem textBytes_ne_nil {s : String} (some : s ≠ "") : textBytes s ≠ [] := by
  rw [textBytes, Utf8.toUTF8_toList]
  cases characters : s.toList with
  | nil => exact absurd (String.toList_eq_nil_iff.mp characters) some
  | cons c rest =>
    rw [List.flatMap_cons]
    intro empty
    exact String.utf8EncodeChar_ne_nil (List.append_eq_nil_iff.mp empty).1

theorem Handler.message_formatSafe (handler : Handler) :
    FormatSafe (textBytes handler.message) := by
  cases handler <;> exact formatSafe_textBytes (formatPlain_ofList rfl)

theorem Handler.message_ne_empty (handler : Handler) : handler.message ≠ "" := by
  cases handler <;> decide

/-- A message is written if it can be printed. -/
theorem response_ends {message : Bytes} (some : message ≠ []) (cmdLine : Bool) (code : Nat)
    (p : Process) :
    Proc.Ends (response cmdLine code message) p
      (fun _ p' => FormatSafe message ∧ ∃ text, p' = { p with stdout := p.stdout ++ [text] })
      fun _ _ => ¬ FormatSafe message := by
  rw [response, if_neg some]
  apply Proc.ends_bind
  rw [formatted]
  cases printed : vsnprintf message with
  | none => exact Proc.ends_raise (by simp [FormatSafe, printed])
  | some buf =>
    apply Proc.ends_pure
    exact Proc.ends_modify ⟨by simp [FormatSafe, printed], _, rfl⟩

theorem responseData_ends (handler : Handler) (cmdLine : Bool) (code : Nat) (data : Bytes)
    (p : Process) :
    Proc.Ends (responseData cmdLine code data (textBytes handler.message)) p
      (fun _ p' => ∃ text, p' = { p with stdout := p.stdout ++ [text] }) fun _ _ => False := by
  rw [responseData, if_neg (textBytes_ne_nil handler.message_ne_empty)]
  apply Proc.ends_bind
  obtain ⟨buf, printed⟩ := Option.isSome_iff_exists.mp handler.message_formatSafe
  rw [formatted, printed]
  apply Proc.ends_pure
  exact Proc.ends_modify ⟨_, rfl⟩

/-- What `main_run` writes after the handler has returned. -/
def mainAnswer (cmdLine : Bool) (handler : Handler) (rc : Int) (rsp : Bytes) : MainProc Unit :=
  if rc = 0 then responseData cmdLine 200 rsp (textBytes handler.message)
  else if rsp = [] then response cmdLine 500 (textBytes "cgi-cpp handler failed")
  else response cmdLine 500 rsp

theorem mainAnswer_ends (cmdLine : Bool) (handler : Handler) (rc : Int) (rsp : Bytes)
    (p : Process) :
    Proc.Ends (mainAnswer cmdLine handler rc rsp) p
      (fun _ p' => (rc = 0 ∨ FormatSafe rsp) ∧
        ∃ text, p' = { p with stdout := p.stdout ++ [text] })
      fun _ _ => ¬ (rc = 0 ∨ FormatSafe rsp) := by
  rw [mainAnswer]
  split
  next success =>
    exact (responseData_ends handler cmdLine 200 rsp p).imp
      (fun _ _ written => ⟨.inl success, written⟩) fun _ _ => False.elim
  next failure =>
    split
    next empty =>
      subst empty
      have printed : FormatSafe (textBytes "cgi-cpp handler failed") :=
        formatSafe_textBytes (formatPlain_ofList rfl)
      refine (response_ends (textBytes_ne_nil (by decide)) cmdLine 500 p).imp ?_ ?_
      · rintro _ p' ⟨_, written⟩
        exact ⟨.inr rfl, written⟩
      · intro _ _ unprinted
        exact absurd printed unprinted
    next some =>
      refine (response_ends some cmdLine 500 p).imp ?_ ?_
      · rintro _ p' ⟨printed, written⟩
        exact ⟨.inr printed, written⟩
      · rintro _ _ unprinted (success | printed)
        · exact failure success
        · exact unprinted printed

theorem answeredOnce_iff {env : Environment} {cmdLine : Bool} {handler : Handler} {cmd : String}
    {post : Bytes} {w : World} {condition : Prop}
    (settles : Settles (handler.function env cmd post) (Process.start w).world condition) :
    AnsweredOnce env cmdLine handler cmd post w ↔ condition := by
  constructor
  · rintro ⟨rc, rsp, w', text, returned, code, written⟩
    obtain ⟨_, settled⟩ := settles.of_eq_ok returned
    refine settled.mpr ?_
    -- The response has been written, so that its text could be printed.
    have run : mainAnswer cmdLine handler rc rsp ⟨w', []⟩ = (.ok (), ⟨w', [text]⟩) := by
      rw [mainRun, Proc.bind_apply, Proc.onPart, returned] at written
      exact written
    exact ((mainAnswer_ends cmdLine handler rc rsp ⟨w', []⟩).of_eq_ok run).1
  · intro holds
    have returns : Proc.Ends (handler.function env cmd post) (Process.start w).world
        (fun result _ => (result.1 = 0 ∨ result.1 = -1) ∧ (result.1 = 0 ∨ FormatSafe result.2))
        fun _ _ => False :=
      settles.imp (fun _ _ settled => ⟨settled.1, settled.2.mp holds⟩) fun _ _ fails => fails holds
    obtain ⟨⟨rc, rsp⟩, w', returned, code, printed⟩ := returns.returns
    have writes := (mainAnswer_ends cmdLine handler rc rsp ⟨w', []⟩).imp
      (fun _ _ written => written.2) fun _ _ unprinted => unprinted printed
    obtain ⟨_, p', run, text, rfl⟩ := writes.returns
    refine ⟨rc, rsp, w', text, returned, code, ?_⟩
    rw [mainRun, Proc.bind_apply, Proc.onPart, returned]
    exact run

end LorawanFeeds.Cgi
