import LorawanFeeds.Bridge.Protocol

/-!
# Uplink translation

The documents published for a PUSH_DATA datagram: one per received packet
(`publish_chirpstack_format_uplink_json`) and one with the gateway's statistics
(`publish_chirpstack_format_stat_json`).
-/
namespace LorawanFeeds.Bridge

open Lib

/-! ### The data rate -/

/-- `isspace` in the C locale. -/
def isSpace (c : Char) : Bool := c = ' ' || ('\t' ≤ c && c ≤ '\r')

def decimal (digits : List Char) : Nat := digits.foldl (fun n c => 10 * n + (c.toNat - 48)) 0

/-- The digits `%<width>d` reads, with their sign; the sign counts for the width. -/
def scanDigits (negative : Bool) (width : Nat) (input : List Char) : Option (Int × List Char) :=
  let digits := (input.take width).takeWhile Char.isDigit
  if digits.isEmpty then none
  else some (if negative then -(decimal digits : Int) else decimal digits, input.drop digits.length)

/-- One `%<width>d` of `sscanf`: white space, a sign and digits. -/
def scanInt (width : Nat) (input : List Char) : Option (Int × List Char) :=
  match input.dropWhile isSpace with
  | '-' :: rest => scanDigits true (width - 1) rest
  | '+' :: rest => scanDigits false (width - 1) rest
  | rest => scanDigits false width rest

/-- Literal characters of a `sscanf` format. -/
def scanLiteral : List Char → List Char → Option (List Char)
  | [], input => some input
  | _ :: _, [] => none
  | l :: literal, c :: input => if l = c then scanLiteral literal input else none

/-- `datr.c_str()` ends at the first zero. -/
def cStr (s : String) : List Char := s.toList.takeWhile (· ≠ '\x00')

/-- `parse_uplink_datr`: `sscanf(datr, "SF%2dBW%3d", …)`, then the spreading factor and the
bandwidth cut to their types. -/
def parseUplinkDatr (datr : String) : Option (UInt8 × UInt16) := do
  let input ← scanLiteral ['S', 'F'] (cStr datr)
  let (x0, input) ← scanInt 2 input
  let input ← scanLiteral ['B', 'W'] input
  let (x1, _) ← scanInt 3 input
  some (UInt8.ofInt x0, UInt16.ofInt x1)

/-! ### Received packets -/

/-- The places of the document published for a received packet. -/
inductive UplinkField where
  | gatewayID | phyPayloadSize | phyPayload | frequency | modulation
  | bandwidth | spreadingFactor | fskDataRate | codeRate
  | time | timestamp | fineTimestampType | rssi | rssis | loRaSNR
  | channel | rfChain | loRaFreqOffset | modemID | crcStatus
  deriving DecidableEq, Repr

def UplinkField.path : UplinkField → List String
  | .gatewayID => ["gatewayID"]
  | .phyPayloadSize => ["phyPayloadSize"]
  | .phyPayload => ["phyPayload"]
  | .frequency => ["txInfo", "frequency"]
  | .modulation => ["modulation"]
  | .bandwidth => ["txInfo", "modulationInfo", "bandwidth"]
  | .spreadingFactor => ["txInfo", "modulationInfo", "spreadingFactor"]
  | .fskDataRate => ["txInfo", "modulationInfo", "FSKDataRate"]
  | .codeRate => ["txInfo", "modulationInfo", "codeRate"]
  | .time => ["rxInfo", "time"]
  | .timestamp => ["rxInfo", "timestamp"]
  | .fineTimestampType => ["rxInfo", "fineTimestampType"]
  | .rssi => ["rxInfo", "rssi"]
  | .rssis => ["rxInfo", "rssis"]
  | .loRaSNR => ["rxInfo", "LoRaSNR"]
  | .channel => ["rxInfo", "channel"]
  | .rfChain => ["rxInfo", "rfChain"]
  | .loRaFreqOffset => ["rxInfo", "LoRaFreqOffset"]
  | .modemID => ["rxInfo", "modemID"]
  | .crcStatus => ["rxInfo", "CRCStatus"]

def uplinkSchema : Schema UplinkField :=
  .ofList UplinkField.path
    [.gatewayID, .phyPayloadSize, .phyPayload, .frequency, .modulation, .bandwidth,
      .spreadingFactor, .fskDataRate, .codeRate, .time, .timestamp, .fineTimestampType, .rssi,
      .rssis, .loRaSNR, .channel, .rfChain, .loRaFreqOffset, .modemID, .crcStatus]
    (fun f => by cases f <;> decide) (by decide)

abbrev UplinkDraft := Draft uplinkSchema

/-- `stat_tb[index]`. -/
def statTb (index : Int) : Option String :=
  if index = 0 then some "STAT_CRC_BAD"
  else if index = 1 then some "STAT_NO_CRC"
  else if index = 2 then some "STAT_CRC_OK"
  else none

/-- The data rate: a LoRa rate is parsed, an FSK rate is copied, anything else is left out.
Nothing is returned for a LoRa rate that does not parse. -/
def uplinkDatr (draft : UplinkDraft) : Json → Option UplinkDraft
  | .str datr => (parseUplinkDatr datr).map fun (dr, bw) =>
    (draft.set .bandwidth (.uint bw.toUInt64)).set .spreadingFactor (.uint dr.toUInt64)
  | .int rate => some (draft.set .fskDataRate (.int rate))
  | .uint rate => some (draft.set .fskDataRate (.uint rate))
  | _ => some draft

/-- The CRC status of a packet that reports one. -/
def uplinkCrcStatus (draft : UplinkDraft) (rxpk : Json) : Handler UplinkDraft :=
  if rxpk.contains "stat" then do
    let stat ← convert (← access rxpk "stat").asInt
    -- The index is taken from the packet and not checked.
    Eff.emit (.statTb (stat.toInt + 1))
    match statTb (stat.toInt + 1) with
    | some text => pure (draft.set .crcStatus (.str text))
    | none => Eff.raise .undefined
  else pure draft

/-- The fields read once the frequency and the data rate are known to be usable. -/
def uplinkRxInfo (draft : UplinkDraft) (rxpk : Json) : Handler UplinkDraft := do
  let draft ← copyIfPresent draft .codeRate rxpk "codr"
  let draft ← copyIfPresent draft .time rxpk "time"
  let draft := draft.set .timestamp (← access rxpk "tmst")
  let draft ← copyIfPresent draft .fineTimestampType rxpk "ftime"
  let draft := draft.set .rssi (← access rxpk "rssi")
  let draft ← copyIfPresent draft .rssis rxpk "rssis"
  let draft ← copyIfPresent draft .loRaSNR rxpk "lsnr"
  let draft := draft.set .channel (← access rxpk "chan")
  let draft := draft.set .rfChain (← access rxpk "rfch")
  let draft ← copyIfPresent draft .loRaFreqOffset rxpk "foff"
  let draft ← copyIfPresent draft .modemID rxpk "mid"
  uplinkCrcStatus draft rxpk

/-- One round of the loop over the received packets. The document is the one of the round
before: the source declares it outside the loop and does not clear it. -/
def uplinkPacket (env : Env) (draft : UplinkDraft) (rxpk : Json) : Handler UplinkDraft := do
  let draft := draft.set .gatewayID (.str (← encodeEui env))
  let draft := draft.set .phyPayloadSize (← access rxpk "size")
  let draft := draft.set .phyPayload (← access rxpk "data")
  match ← access rxpk "freq" with
  | .float freq =>
    -- Only a floating-point frequency passes.
    let draft := draft.set .frequency (.uint (freq * 1000000).toUInt64)
    let draft := draft.set .modulation (← access rxpk "modu")
    match uplinkDatr draft (← access rxpk "datr") with
    -- `continue`; what has been assigned so far stays in the document.
    | none => pure draft
    | some draft =>
      let draft ← uplinkRxInfo draft rxpk
      Eff.emit (.publish .rxpk draft.json)
      pure draft
  | _ => pure draft

def uplinkLoop (env : Env) : UplinkDraft → List Json → Handler Unit
  | _, [] => pure ()
  | draft, rxpk :: rest => do
    let draft ← uplinkPacket env draft rxpk
    uplinkLoop env draft rest

def publishChirpstackFormatUplinkJson (env : Env) (jsonUp : Json) : Handler Unit := do
  uplinkLoop env .empty (← access jsonUp "rxpk").elements

/-! ### Statistics -/

inductive StatField where
  | gatewayID | ip | time | latitude | longitude | altitude
  | rxPacketsReceived | rxPacketsReceivedOK | txPacketsReceived | txPacketsEmitted
  deriving DecidableEq, Repr

def StatField.path : StatField → List String
  | .gatewayID => ["gatewayID"]
  | .ip => ["ip"]
  | .time => ["time"]
  | .latitude => ["location", "latitude"]
  | .longitude => ["location", "longitude"]
  | .altitude => ["location", "altitude"]
  | .rxPacketsReceived => ["rxPacketsReceived"]
  | .rxPacketsReceivedOK => ["rxPacketsReceivedOK"]
  | .txPacketsReceived => ["txPacketsReceived"]
  | .txPacketsEmitted => ["txPacketsEmitted"]

def statSchema : Schema StatField :=
  .ofList StatField.path
    [.gatewayID, .ip, .time, .latitude, .longitude, .altitude, .rxPacketsReceived,
      .rxPacketsReceivedOK, .txPacketsReceived, .txPacketsEmitted]
    (fun f => by cases f <;> decide) (by decide)

def publishChirpstackFormatStatJson (env : Env) (jsonStat : Json) : Handler Unit := do
  let draft : Draft statSchema := .empty
  let draft := draft.set .gatewayID (.str (← encodeEui env))
  let draft := draft.set .ip (.str env.localIp)
  let stat ← access jsonStat "stat"
  let draft := draft.set .time (← access stat "time")
  -- The location is optional, the counters are not.
  let draft ← copyIfPresent draft .latitude stat "lati"
  let draft ← copyIfPresent draft .longitude stat "long"
  let draft ← copyIfPresent draft .altitude stat "alti"
  let draft := draft.set .rxPacketsReceived (← access stat "rxnb")
  let draft := draft.set .rxPacketsReceivedOK (← access stat "rxok")
  let draft := draft.set .txPacketsReceived (← access stat "dwnb")
  let draft := draft.set .txPacketsEmitted (← access stat "txnb")
  Eff.emit (.publish .gatewayStat draft.json)

end LorawanFeeds.Bridge
