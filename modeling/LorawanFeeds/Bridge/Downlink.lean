import LorawanFeeds.Bridge.Uplink

/-!
# Downlink translation

A downlink reaches the bridge as an MQTT message and leaves it in a PULL_RESP datagram. The
network server's items are translated to the packet forwarder's `txpk` and queued
(`parse_remote_downlink_items_json`); what is sent is translated back and published
(`publish_chirpstack_format_downlink_json`).
-/
namespace LorawanFeeds.Bridge

open Lib

/-! ### Exceptions -/

inductive ExceptionField where
  | gatewayID | gatewayTimestamp | downlinkException
  deriving DecidableEq, Repr

def ExceptionField.path : ExceptionField → List String
  | .gatewayID => ["gatewayID"]
  | .gatewayTimestamp => ["gatewayTimestamp"]
  | .downlinkException => ["downlinkException"]

def exceptionSchema : Schema ExceptionField :=
  .ofList ExceptionField.path [.gatewayID, .gatewayTimestamp, .downlinkException]
    (fun f => by cases f <;> decide) (by decide)

def exceptionDraft (id : String) (now : Int64) (text : String) : Draft exceptionSchema :=
  ((Draft.empty.set .gatewayID (.str id)).set .gatewayTimestamp (.int now)).set
    .downlinkException (.str text)

def publishRemoteDownlinkItemsException (env : Env) (text : String) : Handler Unit := do
  let id ← encodeEui env
  Eff.emit (.publish .downlinkAck (exceptionDraft id env.now text).json)

/-! ### Items of the network server -/

/-- The places of the document queued for an item. -/
inductive TxpkField where
  | data | size | imme | tmst | powe | freq | modu | rfch | datr | codr | ipol | fdev
  | prea | ncrc | nhdr
  deriving DecidableEq, Repr

def TxpkField.path : TxpkField → List String
  | .data => ["txpk", "data"]
  | .size => ["txpk", "size"]
  | .imme => ["txpk", "imme"]
  | .tmst => ["txpk", "tmst"]
  | .powe => ["txpk", "powe"]
  | .freq => ["txpk", "freq"]
  | .modu => ["txpk", "modu"]
  | .rfch => ["txpk", "rfch"]
  | .datr => ["txpk", "datr"]
  | .codr => ["txpk", "codr"]
  | .ipol => ["txpk", "ipol"]
  | .fdev => ["txpk", "fdev"]
  | .prea => ["txpk", "prea"]
  | .ncrc => ["txpk", "ncrc"]
  | .nhdr => ["txpk", "nhdr"]

def txpkSchema : Schema TxpkField :=
  .ofList TxpkField.path
    [.data, .size, .imme, .tmst, .powe, .freq, .modu, .rfch, .datr, .codr, .ipol, .fdev, .prea,
      .ncrc, .nhdr]
    (fun f => by cases f <;> decide) (by decide)

abbrev TxpkDraft := Draft txpkSchema

/-- When to send. Both error branches publish and go on. -/
def downlinkTiming (env : Env) (draft : TxpkDraft) (item : Json) : Handler TxpkDraft := do
  let timing ← convert (← access (← access item "txInfo") "timing").asString
  if timing = "IMMEDIATELY" then pure (draft.set .imme (.bool true))
  else if timing = "DELAY" then
    let draft := draft.set .imme (.bool false)
    -- The source looks for the timestamp beside `txInfo` and reads it inside.
    if item.contains "timestamp" then
      pure (draft.set .tmst (← access (← access item "txInfo") "timestamp"))
    else
      publishRemoteDownlinkItemsException env "Missing timestamp field."
      pure draft
  else
    publishRemoteDownlinkItemsException env "Error: Unrecognized timing type."
    pure draft

/-- `"SF" + to_string(sf) + "BW" + to_string(bw)`. -/
def formatDatr (sf bw : UInt32) : String := "SF" ++ toString sf.toNat ++ "BW" ++ toString bw.toNat

/-- How to send. Nothing is returned where the source returns from the whole function. -/
def downlinkModulation (env : Env) (draft : TxpkDraft) (item : Json) :
    Handler (Option TxpkDraft) := do
  let modu ← convert (← access item "modulation").asString
  let draft := draft.set .modu (.str modu)
  if modu = "LORA" then
    let draft := draft.set .rfch (.int 0)
    let info ← access (← access item "txInfo") "modulationInfo"
    let bw ← convert (← access info "bandwidth").asUInt32
    let sf ← convert (← access info "spreadingFactor").asUInt32
    let draft := draft.set .datr (.str (formatDatr sf bw))
    let draft := draft.set .codr (← access info "codeRate")
    let draft := draft.set .ipol (← access info "polarizationInversion")
    pure (some draft)
  else if modu = "FSK" then
    let draft := draft.set .rfch (.int 0)
    let info ← access (← access item "txInfo") "modulationInfo"
    let draft := draft.set .datr (← access info "FSKDataRate")
    let draft := draft.set .fdev (← access info "FSKFreqDev")
    pure (some draft)
  else
    -- `return` in the source, which gives up the items behind this one as well.
    publishRemoteDownlinkItemsException env "ERROR modulation."
    pure none

/-- One round of the loop over the items; `false` where the source returns from the whole
function. The document is cleared at the start of each round. -/
def downlinkItem (env : Env) (item : Json) : Handler Bool := do
  let draft : TxpkDraft := .empty
  let draft := draft.set .data (← access item "phyPayload")
  let draft := draft.set .size (← access item "phyPayloadSize")
  let draft ← downlinkTiming env draft item
  -- Reached also behind an exception about the timing.
  let txInfo ← access item "txInfo"
  let draft := draft.set .powe (← access txInfo "power")
  let freq ← convert (← access txInfo "frequency").asFloat
  let draft := draft.set .freq (.float (freq / 1000000).toFloat)
  match ← downlinkModulation env draft item with
  | none => pure false
  | some draft =>
    let draft ← copyIfPresent draft .prea txInfo "preambleSize"
    let draft ← copyIfPresent draft .ncrc txInfo "noCRC"
    let draft ← copyIfPresent draft .nhdr txInfo "noHeader"
    Eff.emit (.push (env.dump draft.json))
    pure true

def downlinkLoop (env : Env) : List Json → Handler Unit
  | [] => pure ()
  | item :: rest => do
    if ← downlinkItem env item then downlinkLoop env rest else pure ()

/-- `catch (const nlohmann::json::exception &e)`. -/
def caughtJson : Fault → Option JsonError
  | .throws (.json e) => some e
  | _ => none

/-- The `try` block: the loop, and the one handler for what it throws. Reading the list out of
the message belongs to the block too, but cannot throw: the message is an object by then. -/
def downlinkItems (env : Env) (items : List Json) : Handler Unit :=
  Eff.tryCatch (downlinkLoop env items) caughtJson fun e =>
    publishRemoteDownlinkItemsException env e.what

/-- The gateway ID the unit test publishes. -/
def unitTestId : String := "0000000000000000"

def parseRemoteDownlinkItemsJson (env : Env) (jsonDl : Json) : Handler Unit := do
  let base64Gwid ← convert (← access jsonDl "gatewayID").asString
  let eui ← encodeEui env
  -- Meant to let either identity pass; as it stands it asks for both.
  if eui ≠ base64Gwid ∨ base64Gwid ≠ unitTestId then
    publishRemoteDownlinkItemsException env "Gateway ID  is not correct."
  else
    downlinkItems env (← access jsonDl "downlinkItems").elements

/-! ### The echo of what was sent -/

inductive EchoField where
  | gatewayID | phyPayloadSize | phyPayload | frequency | power | modulation
  | bandwidth | spreadingFactor | fskDataRate | fskFreqDev | codeRate | polarizationInversion
  | timing
  deriving DecidableEq, Repr

def EchoField.path : EchoField → List String
  | .gatewayID => ["gatewayID"]
  | .phyPayloadSize => ["phyPayloadSize"]
  | .phyPayload => ["phyPayload"]
  | .frequency => ["txInfo", "frequency"]
  | .power => ["txInfo", "power"]
  | .modulation => ["modulation"]
  | .bandwidth => ["txInfo", "modulationInfo", "bandwidth"]
  | .spreadingFactor => ["txInfo", "modulationInfo", "spreadingFactor"]
  | .fskDataRate => ["txInfo", "modulationInfo", "FSKDataRate"]
  | .fskFreqDev => ["txInfo", "modulationInfo", "FSKFreqDev"]
  | .codeRate => ["txInfo", "modulationInfo", "codeRate"]
  | .polarizationInversion => ["txInfo", "modulationInfo", "polarizationInversion"]
  | .timing => ["timing"]

def echoSchema : Schema EchoField :=
  .ofList EchoField.path
    [.gatewayID, .phyPayloadSize, .phyPayload, .frequency, .power, .modulation, .bandwidth,
      .spreadingFactor, .fskDataRate, .fskFreqDev, .codeRate, .polarizationInversion, .timing]
    (fun f => by cases f <;> decide) (by decide)

abbrev EchoDraft := Draft echoSchema

/-- The data rate of the echo; here a floating-point rate counts as an FSK rate too. -/
def echoDatr (draft : EchoDraft) : Json → Option EchoDraft
  | .str datr => (parseUplinkDatr datr).map fun (dr, bw) =>
    (draft.set .bandwidth (.uint bw.toUInt64)).set .spreadingFactor (.uint dr.toUInt64)
  | j => some (if j.isNumber then draft.set .fskDataRate j else draft)

def publishChirpstackFormatDownlinkJson (env : Env) (jsonDownlink : Json) : Handler Unit := do
  let draft : EchoDraft := .empty
  let draft := draft.set .gatewayID (.str (← encodeEui env))
  let txpk ← access jsonDownlink "txpk"
  let draft := draft.set .phyPayloadSize (← access txpk "size")
  let draft := draft.set .phyPayload (← access txpk "data")
  let freq ← convert (← access txpk "freq").asDouble
  let draft := draft.set .frequency (.uint (freq * 1000000).toUInt64)
  let draft := draft.set .power (← access txpk "powe")
  let draft := draft.set .modulation (← access txpk "modu")
  match echoDatr draft (← access txpk "datr") with
  | none => pure ()
  | some draft =>
    let draft ← copyIfPresent draft .fskFreqDev txpk "fdev"
    let draft ← copyIfPresent draft .codeRate txpk "codr"
    let draft ← copyIfPresent draft .polarizationInversion txpk "ipol"
    -- Read without a check, and used only if it is a boolean.
    let draft := match ← access txpk "imme" with
      | .bool imme => draft.set .timing (.str (if imme then "IMMEDIATELY" else "DELAY"))
      | _ => draft
    Eff.emit (.publish .downlink draft.json)

end LorawanFeeds.Bridge
