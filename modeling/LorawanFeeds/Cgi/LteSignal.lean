import Mathlib.Data.Bool.AllAny
import LorawanFeeds.Cgi.LteSerialPort

/-!
# The signal strength of the LTE module

`send_at_get_rssi` looks at six bytes of the answer to `AT+CSQ`. The bit-error figure stands among
them, and the number of the signal is found by the place of its comma.
-/
namespace LorawanFeeds.Cgi

open Lib Bridge CText Decimal Proc

/-! ### The levels -/

/-- The levels are steps, up to -50. -/
theorem signalLevel_eq (signal : Int) :
    signalLevel signal =
      if signal ≤ -95 then 0 else if signal ≤ -85 then 1 else if signal ≤ -75 then 2
      else if signal ≤ -65 then 3 else if signal ≤ -50 then 4 else 0 := by
  simp only [signalLevel, levelMap, List.foldl_cons, List.foldl_nil]
  split_ifs <;> first | rfl | omega

theorem signalLevel_mono {s t : Int} (le : s ≤ t) (bound : t ≤ -50) :
    signalLevel s ≤ signalLevel t := by
  rw [signalLevel_eq, signalLevel_eq]
  split_ifs <;> first | decide | omega

/-! ### The window -/

/-- The number that some bytes spell. -/
def csqNumber (digits : Bytes) : Nat := (readNat 0 (digits.map fun b => Char.ofNat b.toNat)).1

/-- A digit. -/
def isDigitByte (b : UInt8) : Bool := 48 ≤ b ∧ b ≤ 57

theorem textBytes_noSignal : textBytes "99," = [57, 57, 44] ∧ textBytes "199," = [49, 57, 57, 44] := by
  decide +kernel

/-- Both texts mean that there is no signal, but the second has the first in it. -/
theorem noSignal_iff (csq : Bytes) :
    (containsBytes csq "99," ∨ containsBytes csq "199,") ↔ [57, 57, 44] <:+: csq := by
  rw [containsBytes, containsBytes, textBytes_noSignal.1, textBytes_noSignal.2]
  constructor
  · rintro (short | long)
    · exact short
    · exact (List.suffix_cons 49 [57, 57, 44]).isInfix.trans long
  · exact .inl

/-- The level in a report is that of its signal. -/
theorem csqReport_level (rest : Bytes) :
    (csqReport rest).1 = signalLevel (csqReport rest).2.2.toInt := by
  rw [csqReport]
  dsimp only
  split
  · rw [signalLevel_eq]
    rfl
  · have least := (csqRssi (rest.take 6)).le_toInt
    have most := (csqRssi (rest.take 6)).toInt_lt
    rw [Int64.toInt_ofInt_of_le (by omega) (by omega)]

/-- The character of a digit. -/
theorem digit_of_isDigitByte {b : UInt8} (one : isDigitByte b = true) :
    ∃ n < 10, b.toNat = 48 + n ∧ Char.ofNat b.toNat = digit n := by
  rw [isDigitByte, decide_eq_true_eq] at one
  have least : 48 ≤ b.toNat := one.1
  have most : b.toNat ≤ 57 := one.2
  refine ⟨b.toNat - 48, by omega, by omega, ?_⟩
  rw [digit, Nat.add_sub_cancel' least]

/-- The number of two digits is what `atoi` takes them for. -/
theorem csqNumber_pair {a b : UInt8} (first : isDigitByte a = true) (second : isDigitByte b = true) :
    csqNumber [a, b] < 100 ∧
      atoi ([a, b].map fun b => Char.ofNat b.toNat) = some (Int32.ofNat (csqNumber [a, b])) := by
  obtain ⟨m, small, -, left⟩ := digit_of_isDigitByte first
  obtain ⟨n, small', -, right⟩ := digit_of_isDigitByte second
  obtain ⟨isOne, value⟩ := isDigit_digit m small
  obtain ⟨isOne', value'⟩ := isDigit_digit n small'
  have number : csqNumber [a, b] = m * 10 + n := by
    simp [csqNumber, left, right, readNat, isOne, isOne', value, value']
  refine ⟨by omega, ?_⟩
  have read := atoi_of_isDigit isOne ([b].map fun b => Char.ofNat b.toNat)
  rw [← left] at read
  rw [List.map_cons, read]
  change toInt (csqNumber [a, b] : Int) = _
  rw [toInt, if_pos (by omega)]
  rfl

/-! ### The number -/

/-- The report without a signal is that of the number zero. -/
theorem csqReport_zero {rest : Bytes}
    (none : [57, 57, 44] <:+: rest.take 6 ∨ csqRssi (rest.take 6) = 0) :
    csqReport rest = (0, 0, -113) := by
  rw [csqReport]
  dsimp only
  by_cases noSignal : [57, 57, 44] <:+: rest.take 6
  · rw [if_pos ((noSignal_iff _).mpr noSignal)]
  · rw [if_neg (mt (noSignal_iff _).mp noSignal), none.resolve_left noSignal]
    decide

/-- The text of no signal stands at the front of the window, or behind the comma. -/
theorem noSignal_pair (a b : UInt8) (after : Bytes) :
    [57, 57, 44] <:+: (a :: b :: 44 :: after).take 6 ↔ (a = 57 ∧ b = 57) ∨ [57, 57, 44] <+: after := by
  have window : (a :: b :: 44 :: after).take 6 = a :: b :: 44 :: after.take 3 := rfl
  have behind : [57, 57, 44] <:+: after.take 3 ↔ [57, 57, 44] <+: after := by
    rw [List.prefix_iff_eq_take]
    change _ ↔ [57, 57, 44] = after.take 3
    constructor
    · intro inside
      exact inside.eq_of_length_le (List.length_take_le _ _)
    · intro same
      rw [← same]
  rw [window, List.infix_cons_iff, List.infix_cons_iff, List.infix_cons_iff, behind]
  simp [List.cons_prefix_cons, eq_comm]

/-- With two digits, only a bit-error figure of 99 with one more comma hides the number. -/
theorem csqReport_pair {a b : UInt8} (first : isDigitByte a = true) (second : isDigitByte b = true)
    (signal : csqNumber [a, b] ≠ 99) {after : Bytes} (seen : ¬[57, 57, 44] <+: after) :
    (csqReport (a :: b :: 44 :: after)).2 =
      (Int64.ofNat (csqNumber [a, b]), Int64.ofInt (-113 + 2 * csqNumber [a, b])) := by
  obtain ⟨small, read⟩ := csqNumber_pair first second
  have noSignal : ¬[57, 57, 44] <:+: (a :: b :: 44 :: after).take 6 := by
    rw [noSignal_pair, not_or]
    refine ⟨?_, seen⟩
    rintro ⟨rfl, rfl⟩
    exact signal (by decide)
  have rssi : csqRssi ((a :: b :: 44 :: after).take 6) = Int32.ofNat (csqNumber [a, b]) := by
    have third : ((a :: b :: 44 :: after).take 6)[2]? = some ','.toUInt8 := rfl
    rw [csqRssi, if_pos third]
    change (atoi ([a, b].map fun b => Char.ofNat b.toNat)).getD 0 = _
    rw [read, Option.getD_some]
  rw [csqReport]
  dsimp only
  rw [if_neg (mt (noSignal_iff _).mp noSignal), rssi]
  generalize csqNumber [a, b] = r at small
  have value : (Int32.ofNat r).toInt = r := Int32.toInt_ofNat_of_lt (by omega)
  have rssi64 : (Int32.ofNat r).toInt64 = Int64.ofNat r := by
    rw [← Int64.toInt_inj, Int32.toInt_toInt64, value, Int64.toInt_ofNat_of_lt (by omega)]
  dsimp only
  rw [value, rssi64]

/-- The number of the signal is reported, and its strength. -/
def TellsRssi (r : Nat) (rssi signal : Int64) : Prop := rssi.toInt = r ∧ signal.toInt = -113 + 2 * r

instance (r : Nat) (rssi signal : Int64) : Decidable (TellsRssi r rssi signal) :=
  inferInstanceAs (Decidable (_ ∧ _))

theorem csqReport_told_iff {digits after : Bytes} (decimal : ∀ b ∈ digits, isDigitByte b = true)
    (some : digits ≠ []) (short : digits.length ≤ 3) (figure : ∃ b ∈ after.head?, isDigitByte b = true)
    (signal : csqNumber digits ≠ 99) :
    TellsRssi (csqNumber digits) (csqReport (digits ++ 44 :: after)).2.1
        (csqReport (digits ++ 44 :: after)).2.2 ↔
      csqNumber digits = 0 ∨ digits.length = 2 ∧ ¬[57, 57, 44] <+: after := by
  have zero : TellsRssi (csqNumber digits) 0 (-113) ↔ csqNumber digits = 0 := by
    have signal : (-113 : Int64).toInt = -113 := by decide
    rw [TellsRssi, signal, Int64.toInt_zero]
    omega
  have other {d : UInt8} (one : isDigitByte d = true) : d ≠ ','.toUInt8 := by
    rintro rfl
    exact absurd one (by decide)
  rcases digits with _ | ⟨a, _ | ⟨b, _ | ⟨c, _ | ⟨d, digits⟩⟩⟩⟩
  · exact absurd rfl some
  · -- One digit: the character that has to be the comma is one of the figure.
    obtain ⟨f, head, one⟩ := figure
    obtain ⟨rest, rfl⟩ : ∃ rest, after = f :: rest := by
      cases after with
      | nil => cases head
      | cons g rest =>
        cases head
        exact ⟨rest, rfl⟩
    have none : csqRssi ((a :: 44 :: f :: rest).take 6) = 0 := by
      rw [csqRssi, if_neg]
      simpa using other one
    have report := csqReport_zero (.inr none)
    rw [List.cons_append, List.nil_append, report, zero]
    simp
  · have one := decimal a (.head _)
    have two := decimal b (.tail _ (.head _))
    rw [List.cons_append, List.cons_append, List.nil_append]
    by_cases seen : [57, 57, 44] <+: after
    · have report := csqReport_zero (.inl ((noSignal_pair a b after).mpr (.inr seen)))
      rw [report, zero]
      simp [seen]
    · have report := csqReport_pair one two signal seen
      have small := (csqNumber_pair one two).1
      rw [report, TellsRssi, Int64.toInt_ofNat_of_lt (by omega),
        Int64.toInt_ofInt_of_le (by omega) (by omega)]
      simp [seen]
  · -- Three digits: the code never looks for their comma.
    have third := decimal c (.tail _ (.tail _ (.head _)))
    have none : csqRssi ((a :: b :: c :: 44 :: after).take 6) = 0 := by
      rw [csqRssi, if_neg]
      simpa using other third
    have report := csqReport_zero (.inr none)
    rw [List.cons_append, List.cons_append, List.cons_append, List.nil_append, report, zero]
    simp
  · rw [List.length_cons, List.length_cons, List.length_cons, List.length_cons] at short
    omega

/-- What `send_at_get_rssi` makes of an answer. -/
theorem sendAtGetRssi_received {modem : LteModem} {device : String} {p : LteSerialPort}
    {bytes rest : Bytes} (reply : modem.reply device "AT+CSQ\r\n" = .received bytes)
    (found : strstr (textBytes "+CSQ: ") (recvText bytes (modem.behind device "AT+CSQ\r\n")) =
      some rest) :
    Ends (sendAtGetRssi modem device) p
      (fun rc p' => rc = 0 ∧ p'.upload = { p.upload with
        level := (csqReport rest).1
        rssi := (csqReport rest).2.1
        signal := (csqReport rest).2.2 })
      fun _ _ => False := by
  apply ends_bind
  apply ends_bind
  apply ends_modify
  rw [reply]
  apply ends_bind
  apply ends_modify
  apply ends_pure
  rw [if_neg (by decide)]
  apply ends_bind
  apply ends_get
  dsimp only
  rw [found]
  apply ends_bind
  apply ends_modify
  exact ends_pure ⟨rfl, rfl⟩

/-- The signal is reported as the modem has said exactly if its number is zero, or has two digits and
no bit-error figure of 99 with a comma after it. The level is that of the reported signal, and does
not fall while the signal rises up to -50. -/
theorem rssi_told_iff {modem : LteModem} {device : String} {bytes digits after : Bytes}
    (reply : modem.reply device "AT+CSQ\r\n" = .received bytes)
    (found : strstr (textBytes "+CSQ: ") (recvText bytes (modem.behind device "AT+CSQ\r\n")) =
      some (digits ++ 44 :: after))
    (decimal : ∀ b ∈ digits, isDigitByte b = true) (some : digits ≠ []) (short : digits.length ≤ 3)
    (figure : ∃ b ∈ after.head?, isDigitByte b = true)
    (signal : csqNumber digits ≠ 99 ∧ csqNumber digits ≠ 199) (p : LteSerialPort) :
    Ends (sendAtGetRssi modem device) p
        (fun rc p' => rc = 0 ∧ p'.upload.level = signalLevel p'.upload.signal.toInt ∧
          (TellsRssi (csqNumber digits) p'.upload.rssi p'.upload.signal ↔
            csqNumber digits = 0 ∨ digits.length = 2 ∧ ¬[57, 57, 44] <+: after))
        (fun _ _ => False) ∧
      ∀ s t : Int, s ≤ t → t ≤ -50 → signalLevel s ≤ signalLevel t := by
  refine ⟨(sendAtGetRssi_received reply found).imp ?_ fun _ _ => id, fun _ _ => signalLevel_mono⟩
  rintro rc p' ⟨rfl, upload⟩
  rw [upload]
  exact ⟨rfl, csqReport_level _, csqReport_told_iff decimal some short figure signal.1⟩

/-- A modem that answers all commands with this text. -/
def modemSaying (text : String) : LteModem where
  opens _ := true
  bleCount := none
  reply _ _ := .received (textBytes text)
  behind _ _ := []
  uninitialised := []

/-- The object before its first command, on a gateway without files. -/
def freshPort : LteSerialPort := { gateway := ⟨fun _ => none, fun _ => false, "", []⟩, recvBuf := [] }

theorem answer_found :
    strstr (textBytes "+CSQ: ") (recvText (textBytes "\r\n+CSQ: 24,99\r\n\r\nOK\r\n") []) =
      some ([50, 52] ++ 44 :: textBytes "99\r\n\r\nOK\r\n") := by
  decide +kernel

/-- The usual answer. -/
theorem rssi_24 :
    Ends (sendAtGetRssi (modemSaying "\r\n+CSQ: 24,99\r\n\r\nOK\r\n") "/dev/ttyUSB2") freshPort
      (fun _ p' => TellsRssi 24 p'.upload.rssi p'.upload.signal) (fun _ _ => False) := by
  have digits : ∀ b ∈ ([50, 52] : Bytes), isDigitByte b = true :=
    List.all_iff_forall_prop.mp (by decide)
  have figure : ∃ b ∈ (textBytes "99\r\n\r\nOK\r\n").head?, isDigitByte b = true :=
    ⟨57, by decide +kernel, by decide⟩
  have told := (@rssi_told_iff (modemSaying "\r\n+CSQ: 24,99\r\n\r\nOK\r\n") "/dev/ttyUSB2" _ _ _
    rfl answer_found digits (List.cons_ne_nil _ _) (by decide) figure (by decide) freshPort).1
  refine told.imp ?_ fun _ _ => id
  rintro _ _ ⟨-, -, told⟩
  exact told.mpr (.inr ⟨rfl, by decide +kernel⟩)

/-- A number of one digit and one of three are lost, and one of two digits with a figure of 99 that has
a comma behind it. -/
theorem numbers_lost :
    let report (text : String) : LteUpload :=
      (sendAtGetRssi (modemSaying text) "/dev/ttyUSB2" freshPort).2.upload
    ¬TellsRssi 5 (report "\r\n+CSQ: 5,0\r\n\r\nOK\r\n").rssi (report "\r\n+CSQ: 5,0\r\n\r\nOK\r\n").signal ∧
      ¬TellsRssi 150 (report "\r\n+CSQ: 150,0\r\n\r\nOK\r\n").rssi
        (report "\r\n+CSQ: 150,0\r\n\r\nOK\r\n").signal ∧
      ¬TellsRssi 24 (report "\r\n+CSQ: 24,99,\r\n\r\nOK\r\n").rssi
        (report "\r\n+CSQ: 24,99,\r\n\r\nOK\r\n").signal := by
  decide +kernel

end LorawanFeeds.Cgi
