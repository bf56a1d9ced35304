import LorawanFeeds.Cgi.MainHandler

/-!
# The answer of the LTE module

Which device is used and whether it answers every command depends on the serial ports alone. Only
then the document is dumped, with the first fifteen bytes of an answer as the IMEI.
-/
namespace LorawanFeeds.Cgi

open Lib Bridge CText Proc

/-! ### The serial ports -/

/-- The text of an answer, where there is one. -/
def LteModem.text (modem : LteModem) (device atCmd : String) : Option Bytes :=
  match modem.reply device atCmd with
  | .received bytes => some (recvText bytes (modem.behind device atCmd))
  | _ => none

/-- The text in the buffer after a command. -/
def LteModem.buffered (modem : LteModem) (device atCmd : String) (recvBuf : Bytes) : Bytes :=
  match modem.reply device atCmd with
  | .writeFails => recvBuf
  | .received bytes => recvText bytes (modem.behind device atCmd)
  | _ => []

/-- The first serial port that answers with `OK`. -/
def LteModem.found (modem : LteModem) : Bytes → List Nat → Option String
  | _, [] => none
  | recvBuf, i :: rest =>
    if modem.opens (ttyUsb i) then
      if containsBytes (modem.buffered (ttyUsb i) "AT\r\n" recvBuf) "OK" then some (ttyUsb i)
      else modem.found (modem.buffered (ttyUsb i) "AT\r\n" recvBuf) rest
    else modem.found recvBuf rest

/-- The device that is used. -/
def LteModem.device (modem : LteModem) (localJson : Option Json) : Option String :=
  if containsText (confDevice localJson) "ttyUSB" then
    if modem.opens (confDevice localJson) then some (confDevice localJson) else none
  else modem.bleCount.bind fun first =>
    modem.found modem.uninitialised (List.range' first (maxTtyUsbNum + 1 - first))

/-- The state of the SIM card is known: the PIN is ready, or there is an answer to one more
command. -/
def LteModem.KnowsSim (modem : LteModem) (device : String) : Prop :=
  (modem.text device "ATE0\r\n").isSome = true ∧
    (modem.text device "AT+QSIMDET=1,1\r\n").isSome = true ∧
    ∃ cpin, modem.text device "AT+CPIN?\r\n" = some cpin ∧
      (containsBytes (eraseCh cpin) "READY" ∨
        (modem.text device "AT+QSIMSTAT?\r\n").isSome = true)

/-- The device answers all commands, and `AT+CSQ` with a signal; `imei` is what it gives as its
IMEI. -/
def LteModem.Reports (modem : LteModem) (device : String) (imei : Bytes) : Prop :=
  modem.KnowsSim device ∧
    (∃ gsn, modem.text device "AT+GSN\r\n" = some gsn ∧ imei = (eraseCh gsn).take 15) ∧
    ∃ csq, modem.text device "AT+CSQ\r\n" = some csq ∧
      (strstr (textBytes "+CSQ: ") csq).isSome = true

/-! ### The commands -/

/-- A function of the class returns 0 if the modem answers, and -1 if not. -/
def Commanded (x : LteProc Int) (p : LteSerialPort) (answers : Prop)
    (done : LteSerialPort → Prop) : Prop :=
  Ends x p
    (fun rc p' => FormatPlain p'.errMsg ∧ (rc = -1 ∧ ¬ answers ∨ rc = 0 ∧ answers ∧ done p'))
    fun _ _ => False

section

variable {modem : LteModem} {device : String} {p : LteSerialPort}

/-- What a command leaves in the object. -/
structure Sent (modem : LteModem) (device atCmd : String) (p p' : LteSerialPort) : Prop where
  gateway : p'.gateway = p.gateway
  upload : p'.upload = p.upload
  recvBuf : p'.recvBuf = modem.buffered device atCmd p.recvBuf
  received : ∀ text, modem.text device atCmd = some text →
    p'.recvBuf = text ∧ p'.strRecv = eraseCh text

theorem sendAtCmdToSerialport_ends (atCmd : String) (plain : FormatPlain atCmd)
    (error : FormatPlain p.errMsg) :
    Ends (sendAtCmdToSerialport modem device atCmd) p
      (fun rc p' => FormatPlain p'.errMsg ∧ Sent modem device atCmd p p' ∧
        (rc = -1 ∧ modem.text device atCmd = none ∨
          rc = 0 ∧ (modem.text device atCmd).isSome = true))
      fun _ _ => False := by
  have written : FormatPlain ("Failed to write " ++ atCmd) := .append (formatPlain_ofList rfl) plain
  have read : FormatPlain "Failed to read." := formatPlain_ofList rfl
  apply ends_bind
  apply ends_modify
  have buffered := @LteModem.buffered.eq_1 modem device atCmd p.recvBuf
  have text := @LteModem.text.eq_1 modem device atCmd
  cases reply : modem.reply device atCmd with
  | writeFails =>
    rw [reply] at buffered text
    apply ends_bind
    apply ends_modify
    refine ends_pure ⟨written, ⟨rfl, rfl, buffered.symm, ?_⟩, .inl ⟨rfl, text⟩⟩
    simp [text]
  | selectFails =>
    rw [reply] at buffered text
    apply ends_bind
    apply ends_modify
    refine ends_pure ⟨error, ⟨rfl, rfl, buffered.symm, ?_⟩, .inl ⟨rfl, text⟩⟩
    simp [text]
  | timedOut =>
    rw [reply] at buffered text
    apply ends_bind
    apply ends_modify
    refine ends_pure ⟨error, ⟨rfl, rfl, buffered.symm, ?_⟩, .inl ⟨rfl, text⟩⟩
    simp [text]
  | readFails =>
    rw [reply] at buffered text
    apply ends_bind
    apply ends_modify
    refine ends_pure ⟨read, ⟨rfl, rfl, buffered.symm, ?_⟩, .inl ⟨rfl, text⟩⟩
    simp [text]
  | received bytes =>
    rw [reply] at buffered text
    apply ends_bind
    apply ends_modify
    refine ends_pure ⟨error, ⟨rfl, rfl, buffered.symm, ?_⟩, .inr ⟨rfl, by simp [text]⟩⟩
    intro received same
    cases text.symm.trans same
    exact ⟨rfl, rfl⟩

/-- A command that has to be answered. -/
theorem commanded_send (atCmd : String) (plain : FormatPlain atCmd) (error : FormatPlain p.errMsg) :
    Commanded (sendAtCmdToSerialport modem device atCmd) p
      ((modem.text device atCmd).isSome = true) (Sent modem device atCmd p) := by
  refine (sendAtCmdToSerialport_ends atCmd plain error).imp ?_ fun _ _ => id
  rintro rc p' ⟨error, sent, ⟨rfl, none⟩ | ⟨rfl, some⟩⟩
  · exact ⟨error, .inl ⟨rfl, by simp [none]⟩⟩
  · exact ⟨error, .inr ⟨rfl, some, sent⟩⟩

/-- `if (x() < 0) return -1;` and what follows. -/
theorem commanded_then {x y : LteProc Int} {first second : Prop}
    {between done : LteSerialPort → Prop} (start : Commanded x p first between)
    (rest : ∀ p', FormatPlain p'.errMsg → first → between p' → Commanded y p' second done) :
    Commanded (x >>= fun rc => if rc < 0 then pure (-1) else y) p (first ∧ second) done := by
  refine ends_bind (start.imp ?_ fun _ _ => id)
  rintro rc p' ⟨error, ⟨rfl, fails⟩ | ⟨rfl, holds, here⟩⟩
  · exact ends_pure ⟨error, .inl ⟨rfl, fun both => fails both.1⟩⟩
  · refine (rest p' error holds here).imp ?_ fun _ _ => id
    rintro rc p'' ⟨error, ⟨rfl, fails⟩ | ⟨rfl, more, finished⟩⟩
    · exact ⟨error, .inl ⟨rfl, fun both => fails both.2⟩⟩
    · exact ⟨error, .inr ⟨rfl, ⟨holds, more⟩, finished⟩⟩

/-- The object is changed at the end. -/
theorem commanded_modify {f : LteSerialPort → LteSerialPort} {done : LteSerialPort → Prop}
    (error : FormatPlain (f p).errMsg) (finished : done (f p)) :
    Commanded (do Proc.modify f; return 0) p True done :=
  ends_bind (ends_modify (ends_pure ⟨error, .inr ⟨rfl, trivial, finished⟩⟩))

theorem Commanded.imp {x : LteProc Int} {answers answers' : Prop}
    {done done' : LteSerialPort → Prop} (commanded : Commanded x p answers done)
    (same : answers ↔ answers') (finished : ∀ p', done p' → done' p') :
    Commanded x p answers' done' := by
  refine Ends.imp commanded ?_ fun _ _ => id
  rintro rc p' ⟨error, ⟨rfl, fails⟩ | ⟨rfl, holds, here⟩⟩
  · exact ⟨error, .inl ⟨rfl, fun holds => fails (same.mpr holds)⟩⟩
  · exact ⟨error, .inr ⟨rfl, same.mp holds, finished p' here⟩⟩

/-! ### The requests to the modem -/

theorem reportSimStatus_commanded (status : Bool) (error : FormatPlain p.errMsg) :
    Commanded (reportSimStatus modem device status) p True fun _ => True := by
  rw [reportSimStatus]
  split
  · apply ends_bind
    -- Whether the network answers is not looked at.
    have asked : Ends (sendAtGetQnetStat modem device) p (fun _ p' => FormatPlain p'.errMsg)
        fun _ _ => False := by
      apply ends_bind
      refine (sendAtCmdToSerialport_ends _ (formatPlain_ofList rfl) error).imp ?_ fun _ _ => id
      rintro rc p' ⟨error, _, _⟩
      split
      · exact ends_pure error
      · apply ends_bind
        apply ends_modify
        apply ends_pure
        split <;> exact error
    refine asked.imp ?_ fun _ _ => id
    intro _ p' error
    exact commanded_modify error trivial
  · exact commanded_modify error trivial

theorem sendAtGetSimStat_commanded (error : FormatPlain p.errMsg) :
    Commanded (sendAtGetSimStat modem device) p (modem.KnowsSim device) fun _ => True := by
  refine commanded_then (commanded_send "ATE0\r\n" (formatPlain_ofList rfl) error) ?_
  intro p error _ _
  refine commanded_then (commanded_send "AT+QSIMDET=1,1\r\n" (formatPlain_ofList rfl) error) ?_
  intro p error _ _
  have pin := @commanded_send modem device p "AT+CPIN?\r\n" (formatPlain_ofList rfl) error
  cases there : modem.text device "AT+CPIN?\r\n" with
  | none =>
    have impossible : ¬ (modem.text device "AT+CPIN?\r\n").isSome = true := by simp [there]
    refine (commanded_then pin fun p' _ some _ => ?_ : Commanded _ _ (_ ∧ False) _).imp ?_
      fun _ => id
    · exact absurd some impossible
    · simp
  | some cpin =>
    refine Commanded.imp (commanded_then pin (?_ : ∀ p', FormatPlain p'.errMsg → _ →
      Sent modem device "AT+CPIN?\r\n" p p' → Commanded _ p'
        (containsBytes (eraseCh cpin) "READY" ∨
          (modem.text device "AT+QSIMSTAT?\r\n").isSome = true) fun _ => True)) ?_ fun _ => id
    · intro p' error _ sent
      have received := (sent.received cpin there).2
      apply ends_bind
      apply ends_get
      dsimp only
      rw [received]
      split
      next ready =>
        exact (reportSimStatus_commanded true error).imp (by simp [ready]) fun _ => id
      next unready =>
        refine (commanded_then (commanded_send "AT+QSIMSTAT?\r\n" (formatPlain_ofList rfl) error)
          ?_ : Commanded _ _ (_ ∧ True) _).imp (by simp [unready]) fun _ => id
        intro p'' error _ _
        apply ends_bind
        apply ends_get
        exact reportSimStatus_commanded _ error
    · simp [there]

theorem sendAtGetImei_commanded (error : FormatPlain p.errMsg) :
    Commanded (sendAtGetImei modem device) p ((modem.text device "AT+GSN\r\n").isSome = true)
      fun p' => ∃ gsn, modem.text device "AT+GSN\r\n" = some gsn ∧
        p'.upload.imei = (eraseCh gsn).take 15 := by
  refine (commanded_then (commanded_send "AT+GSN\r\n" (formatPlain_ofList rfl) error)
    ?_ : Commanded _ _ (_ ∧ True) _).imp (iff_of_eq (and_true _)) fun _ => id
  intro p' error some sent
  obtain ⟨gsn, there⟩ := Option.isSome_iff_exists.mp some
  refine commanded_modify error ⟨gsn, there, ?_⟩
  rw [← (sent.received gsn there).2]

theorem sendAtGetRssi_commanded (error : FormatPlain p.errMsg) :
    Commanded (sendAtGetRssi modem device) p
      (∃ csq, modem.text device "AT+CSQ\r\n" = some csq ∧
        (strstr (textBytes "+CSQ: ") csq).isSome = true)
      fun p' => p'.upload.imei = p.upload.imei := by
  refine Commanded.imp (commanded_then (commanded_send "AT+CSQ\r\n" (formatPlain_ofList rfl) error)
    (?_ : ∀ p', FormatPlain p'.errMsg → _ → Sent modem device "AT+CSQ\r\n" p p' → Commanded _ p'
      (∀ csq, modem.text device "AT+CSQ\r\n" = some csq →
        (strstr (textBytes "+CSQ: ") csq).isSome = true) _)) ?_ fun _ => id
  · intro p' error some sent
    obtain ⟨csq, there⟩ := Option.isSome_iff_exists.mp some
    apply ends_bind
    apply ends_get
    rw [(sent.received csq there).1]
    cases found : strstr (textBytes "+CSQ: ") csq with
    | none =>
      apply ends_bind
      apply ends_modify
      refine ends_pure ⟨(formatPlain_ofList rfl : FormatPlain "Error msg from tty."), .inl ⟨rfl, ?_⟩⟩
      intro every
      simpa [found] using every csq there
    | some rest =>
      refine (commanded_modify error ?_).imp ?_ fun _ => id
      · show p'.upload.imei = p.upload.imei
        rw [sent.upload]
      · simp [there, found]
  · constructor
    · rintro ⟨some, every⟩
      obtain ⟨csq, there⟩ := Option.isSome_iff_exists.mp some
      exact ⟨csq, there, every csq there⟩
    · rintro ⟨csq, there, found⟩
      refine ⟨by simp [there], fun other same => ?_⟩
      cases there.symm.trans same
      exact found

/-- All commands are answered, and the IMEI is the one that the modem gives. -/
theorem lteSerialportComunicationHandler_commanded (error : FormatPlain p.errMsg) :
    Commanded (lteSerialportComunicationHandler modem device) p
      (∃ imei, modem.Reports device imei)
      fun p' => modem.Reports device p'.upload.imei := by
  refine Commanded.imp (commanded_then (sendAtGetSimStat_commanded error) fun p error knows _ =>
    commanded_then (sendAtGetImei_commanded error) fun p' error _ imei =>
      (commanded_then (sendAtGetRssi_commanded error) fun p'' error signal same =>
        (?_ : Commanded (pure 0) p'' True _))) ?_ fun _ => id
  · obtain ⟨gsn, there, imei⟩ := imei
    refine ends_pure ⟨error, .inr ⟨rfl, trivial, knows, ⟨gsn, there, ?_⟩, signal⟩⟩
    rw [same, imei]
  · constructor
    · rintro ⟨knows, some, signal, _⟩
      obtain ⟨gsn, there⟩ := Option.isSome_iff_exists.mp some
      exact ⟨_, knows, ⟨gsn, there, rfl⟩, signal⟩
    · rintro ⟨imei, knows, ⟨gsn, there, _⟩, signal⟩
      exact ⟨knows, by simp [there], signal, trivial⟩

/-! ### The device -/

theorem findTtyUsb_ends (ports : List Nat) (error : FormatPlain p.errMsg) :
    Ends (findTtyUsb modem ports) p
      (fun found p' => found = modem.found p.recvBuf ports ∧ FormatPlain p'.errMsg)
      fun _ _ => False := by
  induction ports generalizing p with
  | nil => exact ends_pure ⟨rfl, error⟩
  | cons i ports ih =>
    rw [findTtyUsb, LteModem.found]
    split
    · apply ends_bind
      refine (sendAtCmdToSerialport_ends _ (formatPlain_ofList rfl) error).imp ?_ fun _ _ => id
      rintro _ p' ⟨error, sent, _⟩
      apply ends_bind
      apply ends_get
      rw [← sent.recvBuf]
      split
      · exact ends_pure ⟨rfl, error⟩
      · exact ih error
    · exact ih error

theorem openLteDev_ends (lib : JsonText) (fresh : p.recvBuf = modem.uninitialised)
    (error : FormatPlain p.errMsg) :
    Ends (openLteDev lib modem) p
      (fun device p' => device = modem.device (documentAt lib p.gateway lteUsbConf) ∧
        FormatPlain p'.errMsg)
      fun _ _ => False := by
  apply ends_bind
  apply ends_get
  dsimp only
  rw [LteModem.device]
  split
  · exact ends_pure ⟨rfl, error⟩
  · cases modem.bleCount with
    | none => exact ends_pure ⟨rfl, error⟩
    | some first =>
      apply ends_bind
      refine (findTtyUsb_ends _ error).imp ?_ fun _ _ => id
      rintro found p' ⟨same, error⟩
      rw [Option.bind_some, ← fresh, ← same]
      cases found with
      | none => exact ends_pure ⟨rfl, error⟩
      | some device =>
        apply ends_bind
        exact ends_modify (ends_pure ⟨rfl, error⟩)

end

/-! ### The request -/

/-- If a device reports at all, the IMEI that it reports is UTF-8. -/
def ImeiReadable (lib : JsonText) (modem : LteModem) (g : Gateway) : Prop :=
  ∀ device imei, modem.device (documentAt lib g lteUsbConf) = some device →
    modem.Reports device imei → (JsonCodec.ofUtf8 imei).isSome = true

theorem LteUpload.dump_isSome (lib : JsonText) (upload : LteUpload) :
    (upload.dump lib).isSome = (JsonCodec.ofUtf8 upload.imei).isSome := by
  rw [LteUpload.dump, dumpTexts]
  cases read : JsonCodec.ofUtf8 upload.imei <;> simp [TextEntry.value, read]

/-- A device reports one IMEI. -/
theorem LteModem.Reports.unique {modem : LteModem} {device : String} {imei imei' : Bytes}
    (first : modem.Reports device imei) (second : modem.Reports device imei') : imei = imei' := by
  obtain ⟨_, ⟨gsn, there, rfl⟩, _⟩ := first
  obtain ⟨_, ⟨other, same, rfl⟩, _⟩ := second
  cases there.symm.trans same
  rfl

/-- The run returns 0 with the report of the device, or -1 because there is none. -/
theorem lteSerialportRun_ends {lib : JsonText} {modem : LteModem} {p : LteSerialPort}
    (fresh : p.recvBuf = modem.uninitialised) (error : FormatPlain p.errMsg) :
    Ends (lteSerialportRun lib modem) p
      (fun rc p' => FormatPlain p'.errMsg ∧
        (rc = -1 ∧ ImeiReadable lib modem p.gateway ∨ rc = 0 ∧
          ∃ device, modem.device (documentAt lib p.gateway lteUsbConf) = some device ∧
            modem.Reports device p'.upload.imei))
      fun _ _ => False := by
  apply ends_bind
  apply ends_modify
  apply ends_bind
  refine Ends.imp (openLteDev_ends lib ?_ ?_) ?_ fun _ _ => id
  · exact fresh
  · exact error
  rintro device p' ⟨used, error⟩
  cases device with
  | none =>
    refine ends_pure ⟨error, .inl ⟨rfl, ?_⟩⟩
    intro device imei here
    cases used.trans here
  | some device =>
    refine Ends.imp (lteSerialportComunicationHandler_commanded error) ?_ fun _ _ => id
    rintro rc p'' ⟨error, ⟨rfl, silent⟩ | ⟨rfl, _, reports⟩⟩
    · refine ⟨error, .inl ⟨rfl, ?_⟩⟩
      intro other imei here reports
      cases used.trans here
      exact absurd ⟨imei, reports⟩ silent
    · exact ⟨error, .inr ⟨rfl, device, used.symm, reports⟩⟩

theorem mainLteGet_settles (lib : JsonText) (modem : LteModem) (g : Gateway) :
    Settles (mainLteGet lib modem) g (ImeiReadable lib modem g) := by
  apply ends_within
  apply ends_bind
  refine (lteSerialportRun_ends rfl (formatPlain_ofList rfl : FormatPlain "")).imp ?_ fun _ _ => False.elim
  rintro rc p ⟨error, ⟨rfl, readable⟩ | ⟨rfl, device, used, reports⟩⟩
  · rw [if_pos (by decide)]
    apply ends_bind
    apply ends_get
    apply ends_bind
    apply ends_modify
    refine ends_pure ⟨.inr rfl, ?_⟩
    exact iff_of_true readable (.inr (formatSafe_textBytes error))
  · rw [if_neg (by decide)]
    apply ends_bind
    apply ends_get
    apply ends_bind
    have dumped := p.upload.dump_isSome lib
    cases dump : p.upload.dump lib with
    | none =>
      refine ends_raise fun readable => ?_
      rw [readable device _ used reports, dump] at dumped
      cases dumped
    | some rsp =>
      apply ends_pure
      apply ends_bind
      apply ends_modify
      refine ends_pure ⟨.inl rfl, iff_of_true ?_ (.inl rfl)⟩
      intro other imei here reported
      cases used.symm.trans here
      rw [reported.unique reports, ← dumped, dump]
      rfl

end LorawanFeeds.Cgi
