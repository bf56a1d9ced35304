import LorawanFeeds.Cgi.Documents

/-!
# The LTE module

`LteSerialPort` of `cgicpp-lte-serialport.cpp`: the device is taken from a file, or it is looked for
among the serial ports; then one AT command after the other is sent, and the answers are put in a
document. The answers are bytes of the modem, read into a buffer of fixed size.
-/
namespace LorawanFeeds.Cgi

open Lib Bridge CText

/-- `RECV_BUFF_MAX`. -/
def recvBuffMax : Nat := 64

/-- `MAX_TTY_USB_NUM`. -/
def maxTtyUsbNum : Nat := 7

def lteUsbConf : String := "/etc/lte_usb/lte_usb.conf"

/-- What comes of a command that is written to the serial port. -/
inductive AtReply where
  | writeFails
  | selectFails
  | timedOut
  | readFails
  | received (bytes : Bytes)
  deriving DecidableEq, Repr

/-- The serial ports of the gateway. Each command is sent at most once to a device. -/
structure LteModem where
  /-- The devices that can be opened. -/
  opens : String → Bool
  /-- The number of the devices `/dev/BLE*`, if the pipe that counts them can be opened. -/
  bleCount : Option Nat
  reply : String → String → AtReply
  /-- The memory behind the buffer when the answer arrives: a full buffer has no end of its own. -/
  behind : String → String → Bytes
  /-- The text in the buffer before the first command. -/
  uninitialised : Bytes

/-- `upload_json`. -/
structure LteUpload where
  simStatus : Int64 := 0
  imei : Bytes := []
  level : Int64 := 0
  rssi : Int64 := 0
  signal : Int64 := 0
  deriving DecidableEq, Repr

/-- The object of the class, with the gateway's files. `recvBuf` is the text in the buffer. -/
structure LteSerialPort where
  gateway : Gateway
  recvBuf : Bytes
  strRecv : Bytes := []
  errMsg : String := ""
  simNetworkable : Bool := false
  upload : LteUpload := {}

abbrev LteProc := Proc LteSerialPort Fault

/-! ### Commands -/

/-- `string(recv_buf)` after `bzero` and `read`. -/
def recvText (bytes behind : Bytes) : Bytes :=
  let buffer := bytes.take recvBuffMax
  (buffer ++ List.replicate (recvBuffMax - buffer.length) 0 ++ behind).takeWhile (· ≠ 0)

/-- The bytes of `erase_ch` are erased. -/
def eraseCh (text : Bytes) : Bytes := text.filter (· ∉ textBytes "\r\nOK")

/-- `send_at_cmd_to_serialport`. -/
def sendAtCmdToSerialport (modem : LteModem) (device atCmd : String) : LteProc Int := do
  Proc.modify fun p => { p with strRecv := [] }
  match modem.reply device atCmd with
  | .writeFails =>
    Proc.modify fun p => { p with errMsg := "Failed to write " ++ atCmd }
    return -1
  | .selectFails | .timedOut =>
    Proc.modify fun p => { p with recvBuf := [] }
    return -1
  | .readFails =>
    Proc.modify fun p => { p with recvBuf := [], errMsg := "Failed to read." }
    return -1
  | .received bytes =>
    let text := recvText bytes (modem.behind device atCmd)
    Proc.modify fun p => { p with recvBuf := text, strRecv := eraseCh text }
    return 0

/-- `text.find(needle) != string::npos`. -/
def containsBytes (text : Bytes) (needle : String) : Prop := textBytes needle <:+: text

instance (text : Bytes) (needle : String) : Decidable (containsBytes text needle) :=
  inferInstanceAs (Decidable (_ <:+: _))

/-- `send_at_get_imei`; `substr(0, 15)` does not throw. -/
def sendAtGetImei (modem : LteModem) (device : String) : LteProc Int := do
  if (← sendAtCmdToSerialport modem device "AT+GSN\r\n") < 0 then return -1
  else
    Proc.modify fun p => { p with upload.imei := p.strRecv.take 15 }
    return 0

/-- The `rssi` that the text `csq` begins with. A number of three digits is never taken: the code
asks whether a truth value is a digit. -/
def csqRssi (csq : Bytes) : Int32 :=
  if csq[2]? = some ','.toUInt8 then
    (atoi ((csq.take 2).map fun b => Char.ofNat b.toNat)).getD 0
  else 0

/-- `level_map`. -/
def levelMap : List (Int64 × Int × Int) :=
  [(1, -95, -85), (2, -85, -75), (3, -75, -65), (4, -65, -50)]

/-- The level of a signal; the last entry that fits is taken. -/
def signalLevel (signal : Int) : Int64 :=
  levelMap.foldl (fun level entry =>
    if signal > entry.2.1 ∧ signal ≤ entry.2.2 then entry.1 else level) 0

/-- The answer to `AT+CSQ` after its header, as `level`, `rssi` and `signal`. -/
def csqReport (rest : Bytes) : Int64 × Int64 × Int64 :=
  let csq := rest.take 6
  if containsBytes csq "99," ∨ containsBytes csq "199," then (0, 0, -113)
  else
    let rssi := csqRssi csq
    let signal := -113 + 2 * rssi.toInt
    (signalLevel signal, rssi.toInt64, Int64.ofInt signal)

/-- `send_at_get_rssi`. -/
def sendAtGetRssi (modem : LteModem) (device : String) : LteProc Int := do
  if (← sendAtCmdToSerialport modem device "AT+CSQ\r\n") < 0 then return -1
  else
    match strstr (textBytes "+CSQ: ") (← Proc.get).recvBuf with
    | none =>
      Proc.modify fun p => { p with errMsg := "Error msg from tty." }
      return -1
    | some rest =>
      let (level, rssi, signal) := csqReport rest
      Proc.modify fun p => { p with
        upload.level := level, upload.rssi := rssi, upload.signal := signal }
      return 0

/-- `send_at_get_qnet_stat`. -/
def sendAtGetQnetStat (modem : LteModem) (device : String) : LteProc Int := do
  if (← sendAtCmdToSerialport modem device "AT+CREG?\r\n") < 0 then return -1
  else
    Proc.modify fun p =>
      if containsBytes p.strRecv ",1" ∨ containsBytes p.strRecv ",5" then
        { p with simNetworkable := true }
      else p
    return 0

/-- The state of the SIM card once it is known to be there or not. -/
def reportSimStatus (modem : LteModem) (device : String) (status : Bool) : LteProc Int := do
  if status = true then
    -- The code of this call is not looked at.
    let _ ← sendAtGetQnetStat modem device
    Proc.modify fun p => { p with upload.simStatus := if p.simNetworkable then 1 else 2 }
  else Proc.modify fun p => { p with upload.simStatus := 0 }
  return 0

/-- `send_at_get_sim_stat`. -/
def sendAtGetSimStat (modem : LteModem) (device : String) : LteProc Int := do
  if (← sendAtCmdToSerialport modem device "ATE0\r\n") < 0 then return -1
  else if (← sendAtCmdToSerialport modem device "AT+QSIMDET=1,1\r\n") < 0 then return -1
  else if (← sendAtCmdToSerialport modem device "AT+CPIN?\r\n") < 0 then return -1
  else
    let tmp := (← Proc.get).strRecv
    if containsBytes tmp "READY" then reportSimStatus modem device true
    else if (← sendAtCmdToSerialport modem device "AT+QSIMSTAT?\r\n") < 0 then return -1
    else
      let strRecv := (← Proc.get).strRecv
      reportSimStatus modem device
        (decide (containsBytes strRecv ",1" ∨ containsBytes tmp "REA"))

/-- `lte_serialport_comunication_handler`. -/
def lteSerialportComunicationHandler (modem : LteModem) (device : String) : LteProc Int := do
  if (← sendAtGetSimStat modem device) < 0 then return -1
  else if (← sendAtGetImei modem device) < 0 then return -1
  else if (← sendAtGetRssi modem device) < 0 then return -1
  else return 0

/-! ### The device -/

/-- The device of the file; where reading it throws, there is none. -/
def confDevice (localJson : Option Json) : String :=
  match localJson.map fun j => j.index "AT_ttyUSB" >>= Json.asString with
  | some (.ok deviceName) => deviceName
  | _ => ""

def ttyUsb (i : Nat) : String := "/dev/ttyUSB" ++ toString i

/-- The loop over the serial ports. The buffer keeps its text where the command cannot be written;
the code of the command is not looked at. -/
def findTtyUsb (modem : LteModem) : List Nat → LteProc (Option String)
  | [] => return none
  | i :: rest =>
    if modem.opens (ttyUsb i) then do
      let _ ← sendAtCmdToSerialport modem (ttyUsb i) "AT\r\n"
      if containsBytes (← Proc.get).recvBuf "OK" then return some (ttyUsb i)
      else findTtyUsb modem rest
    else findTtyUsb modem rest

/-- The end of `open_lte_dev`: a device that has been found is written to the file. -/
def recordDevice (lib : JsonText) (deviceName : String) : LteProc Unit :=
  let content := lib.dump (Json.null.put ["AT_ttyUSB"] (.str deviceName)) ++ [10]
  Proc.modify fun p => { p with gateway := p.gateway.setFile lteUsbConf (some content) }

/-- `open_lte_dev`: the device that is open. -/
def openLteDev (lib : JsonText) (modem : LteModem) : LteProc (Option String) := do
  let deviceName := confDevice (documentAt lib (← Proc.get).gateway lteUsbConf)
  if containsText deviceName "ttyUSB" then
    return if modem.opens deviceName then some deviceName else none
  else
    match modem.bleCount with
    | none => return none
    | some first =>
      match ← findTtyUsb modem (List.range' first (maxTtyUsbNum + 1 - first)) with
      | none => return none
      | some found =>
        recordDevice lib found
        return some found

/-! ### The request -/

/-- `system(cmd)`. -/
def lteSystem (cmd : String) : LteProc Unit := Proc.modify fun p =>
  { p with gateway := { p.gateway with services := p.gateway.services ++ [cmd] } }

/-- `lte_serialport_run`. -/
def lteSerialportRun (lib : JsonText) (modem : LteModem) : LteProc Int := do
  lteSystem "/etc/init.d/quectel stop"
  match ← openLteDev lib modem with
  | none => return -1
  | some device => lteSerialportComunicationHandler modem device

/-- `get_upload_json`. The dump throws where the IMEI is not UTF-8. -/
def LteUpload.dump (lib : JsonText) (upload : LteUpload) : Option Bytes :=
  dumpTexts lib (Json.null.putAll [(["sim_status"], .int upload.simStatus),
    (["level"], .int upload.level), (["rssi"], .int upload.rssi),
    (["signal"], .int upload.signal)]) [(["imei"], upload.imei)]

/-- The body of `main_lte_get`. The answer is dumped outside of any `try` block. -/
def lteGet (lib : JsonText) (modem : LteModem) : LteProc Result := do
  let rc ← lteSerialportRun lib modem
  if rc < 0 then
    let errMsg := (← Proc.get).errMsg
    lteSystem "/etc/init.d/quectel start &"
    return failed errMsg
  else
    let rsp ← Proc.ofExcept (thrown ((← Proc.get).upload.dump lib))
    lteSystem "/etc/init.d/quectel start &"
    return (0, rsp)

/-- `main_lte_get`. -/
def mainLteGet (lib : JsonText) (modem : LteModem) : CgiHandler Result :=
  Proc.within (fun g => { gateway := g, recvBuf := modem.uninitialised }) LteSerialPort.gateway
    (lteGet lib modem)

end LorawanFeeds.Cgi
