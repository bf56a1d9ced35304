import LorawanFeeds.Cgi.BridgeToml

/-!
# Durations and addresses of the configuration

A duration is written as hours, minutes and seconds, an address together with its port. The readers
take the texts apart again, with numbers that have to fit in an `int`.
-/
namespace LorawanFeeds.Cgi

open Lib CText Decimal

theorem notMem_writeNat {c : Char} (other : isDigit c = false) (n : Nat) : c ∉ writeNat n := by
  intro member
  rw [isDigit_of_mem_writeNat n c member] at other
  cases other

theorem writeNat_ne_nil (n : Nat) : writeNat n ≠ [] := by
  obtain ⟨c, tail, eq, _⟩ := writeNat_head n
  simp [eq]

/-! ### Durations -/

/-- The first duration that is not read back: its hours, as seconds, do not fit in an `int`. -/
def durationLimit : Nat := 2147486400

/-- A number with its unit, if it is written. -/
def writtenPart (some : Bool) (n : Nat) (unit : Char) : List Char :=
  if some = true then writeNat n ++ [unit] else []

theorem mem_writtenPart {c : Char} (other : isDigit c = false) (some : Bool) (n : Nat)
    (unit : Char) : c ∈ writtenPart some n unit ↔ some = true ∧ c = unit := by
  rw [writtenPart]
  split
  next yes => simp [notMem_writeNat other n, yes]
  next no => simp [no]

/-- A part is read as it has been written, also where it has been left out as zero. -/
theorem durationPart_written {t : String} {unit : Char} {some : Bool} {n scale : Nat}
    (there : unit ∈ t.toList ↔ some = true) (zero : some = false → n = 0)
    (other : isDigit unit = false) (fits : n * scale < 2 ^ 31) (positive : 0 < scale)
    (rest : List Char) :
    durationPart t unit scale (writtenPart some n unit ++ rest) =
      .ok (UInt32.ofNat (n * scale), rest) := by
  cases some with
  | false =>
    rw [durationPart, if_neg (by simp [there]), zero rfl, Nat.zero_mul]
    rfl
  | true =>
    have small : n < 2 ^ 31 := (Nat.le_mul_of_pos_right n positive).trans_lt fits
    have seconds : toInt ((Int32.ofNat n).toInt * scale) = Option.some (Int32.ofNat (n * scale)) := by
      rw [Int32.toInt_ofNat_of_lt small, toInt, if_pos (by norm_cast; omega), ← Int.natCast_mul,
        Int32.ofInt_eq_ofNat]
    rw [durationPart, if_pos (there.mpr rfl), writtenPart, if_pos rfl, List.append_assoc,
      List.singleton_append, strtok_token (writeNat_ne_nil n) (notMem_writeNat other n)]
    simp only [undefined, Option.elim, bind, Except.bind, atoi_writeNat small, seconds,
      Int32.toUInt32_ofNat']
    rfl

theorem decimal_toList (n : UInt32) : (decimal n).toList = writeNat n.toNat := by
  rw [decimal, String.toList_ofList]

theorem parseJsonSecToString_toList (sec : UInt32) :
    (parseJsonSecToString sec).toList =
      writtenPart (0 < sec.toNat / 3600) (sec.toNat / 3600) 'h' ++
      writtenPart (0 < sec.toNat % 3600 / 60 ∨ 0 < sec.toNat / 3600) (sec.toNat % 3600 / 60) 'm' ++
      writtenPart true (sec.toNat % 3600 % 60) 's' := by
  have hours : 0 < sec / 3600 ↔ 0 < sec.toNat / 3600 := by
    rw [UInt32.lt_iff_toNat_lt, UInt32.toNat_div]
    rfl
  have minutes : 0 < sec % 3600 / 60 ↔ 0 < sec.toNat % 3600 / 60 := by
    rw [UInt32.lt_iff_toNat_lt, UInt32.toNat_div, UInt32.toNat_mod]
    rfl
  simp only [parseJsonSecToString, gt_iff_lt, hours, minutes, String.toList_append, writtenPart,
    decide_eq_true_eq, apply_ite String.toList, decimal_toList, UInt32.toNat_div, UInt32.toNat_mod,
    if_true, List.append_assoc]
  rfl

/-- The parts of a duration add up to it. -/
theorem duration_sum (sec : UInt32) :
    UInt32.ofNat (sec.toNat / 3600 * 3600) + UInt32.ofNat (sec.toNat % 3600 / 60 * 60) +
      UInt32.ofNat (sec.toNat % 3600 % 60 * 1) = sec := by
  have bound := sec.toNat_lt
  apply UInt32.toNat_inj.mp
  simp only [UInt32.toNat_add, UInt32.toNat_ofNat']
  omega

/-- The three steps of `parse_toml_string_to_sec`, with any reader for one of them. -/
def addParts (part : Char → Int → List Char → Except Fault (UInt32 × List Char))
    (text : List Char) : Except Fault UInt32 := do
  let (hours, rest) ← part 'h' 3600 text
  let (minutes, rest) ← part 'm' 60 rest
  let (seconds, _) ← part 's' 1 rest
  return hours + minutes + seconds

theorem parseTomlStringToSec_eq (t : String) :
    parseTomlStringToSec t = addParts (durationPart t) (cString t) := rfl

/-- A written duration is read back, if its three parts are. -/
theorem addParts_written {sec : UInt32}
    {part : Char → Int → List Char → Except Fault (UInt32 × List Char)}
    (reads : ∀ (unit : Char) (some : Bool) (n scale : Nat),
      (unit ∈ (parseJsonSecToString sec).toList ↔ some = true) → (some = false → n = 0) →
      isDigit unit = false → 0 < scale → n < 2 ^ 31 →
      n * scale ≤ sec.toNat / 3600 * 3600 ∨ n * scale < 3600 → ∀ rest,
      part unit scale (writtenPart some n unit ++ rest) = .ok (UInt32.ofNat (n * scale), rest)) :
    addParts part (cString (parseJsonSecToString sec)) = .ok sec := by
  have text := parseJsonSecToString_toList sec
  have letter {c : Char} (other : isDigit c = false) :
      c ∈ (parseJsonSecToString sec).toList ↔
        (0 < sec.toNat / 3600 ∧ c = 'h') ∨
        ((0 < sec.toNat % 3600 / 60 ∨ 0 < sec.toNat / 3600) ∧ c = 'm') ∨ c = 's' := by
    rw [text, List.mem_append, List.mem_append, mem_writtenPart other, mem_writtenPart other,
      mem_writtenPart other]
    simp only [decide_eq_true_eq, true_and, or_assoc]
  have whole : cString (parseJsonSecToString sec) = (parseJsonSecToString sec).toList := by
    apply cString_eq
    rw [letter (by decide)]
    simp
  rw [addParts, whole, text]
  have range := sec.toNat_lt
  have hours (rest : List Char) : part 'h' 3600
      (writtenPart (0 < sec.toNat / 3600) (sec.toNat / 3600) 'h' ++ rest) =
      .ok (UInt32.ofNat (sec.toNat / 3600 * 3600), rest) :=
    reads 'h' _ _ 3600 (by rw [letter (by decide)]; simp) (by simp) (by decide) (by omega)
      (by omega) (.inl (le_refl _)) rest
  have minutes (rest : List Char) : part 'm' 60
      (writtenPart (0 < sec.toNat % 3600 / 60 ∨ 0 < sec.toNat / 3600)
        (sec.toNat % 3600 / 60) 'm' ++ rest) =
      .ok (UInt32.ofNat (sec.toNat % 3600 / 60 * 60), rest) :=
    reads 'm' _ _ 60 (by rw [letter (by decide)]; simp) (by simp; omega) (by decide) (by omega)
      (by omega) (.inr (by omega)) rest
  have seconds : part 's' 1 (writtenPart true (sec.toNat % 3600 % 60) 's' ++ []) =
      .ok (UInt32.ofNat (sec.toNat % 3600 % 60 * 1), []) :=
    reads 's' _ _ 1 (by rw [letter (by decide)]; simp) (by simp) (by decide) (by omega)
      (by omega) (.inr (by omega)) []
  rw [List.append_nil] at seconds
  rw [List.append_assoc]
  simp only [bind, Except.bind, hours, minutes, seconds]
  exact congrArg Except.ok (duration_sum sec)

/-- A written duration is read back, unless its hours do not fit. -/
theorem parseTomlStringToSec_written {sec : UInt32} (fits : sec.toNat < durationLimit) :
    parseTomlStringToSec (parseJsonSecToString sec) = .ok sec := by
  rw [durationLimit] at fits
  rw [parseTomlStringToSec_eq]
  apply addParts_written
  intro unit some n scale there zero other positive _ bound rest
  exact durationPart_written there zero other (by omega) positive rest

/-- `durationPart` on a machine whose product of two `int` wraps. -/
def durationPartWrapping (t : String) (unit : Char) (scale : Int) (rest : List Char) :
    Except Fault (UInt32 × List Char) :=
  if unit ∈ t.toList then do
    let (number, rest) ← undefined (strtok unit rest)
    let number ← undefined (atoi number)
    return ((number * Int32.ofInt scale).toUInt32, rest)
  else .ok (0, rest)

/-- `parse_toml_string_to_sec` on such a machine. -/
def parseTomlStringToSecWrapping (t : String) : Except Fault UInt32 :=
  addParts (durationPartWrapping t) (cString t)

/-- Where no product is too great, both are the same. -/
theorem durationPart_wraps {t : String} {unit : Char} {scale : Int} {text : List Char}
    {part : UInt32 × List Char} (read : durationPart t unit scale text = .ok part) :
    durationPartWrapping t unit scale text = .ok part := by
  rw [durationPart] at read
  rw [durationPartWrapping]
  by_cases there : unit ∈ t.toList
  · rw [if_pos there] at read ⊢
    cases token : strtok unit text with
    | none => simp [token, undefined, bind, Except.bind] at read
    | some found =>
      cases value : atoi found.1 with
      | none => simp [token, value, undefined, bind, Except.bind] at read
      | some number =>
        simp only [token, value, undefined, Option.elim, bind, Except.bind, toInt] at read ⊢
        by_cases fits : -2 ^ 31 ≤ number.toInt * scale ∧ number.toInt * scale < 2 ^ 31
        · rw [if_pos fits, Int32.ofInt_mul, Int32.ofInt_toInt] at read
          exact read
        · rw [if_neg fits] at read
          cases read
  · rw [if_neg there] at read ⊢
    exact read

theorem addParts_imp {part other : Char → Int → List Char → Except Fault (UInt32 × List Char)}
    (agree : ∀ unit scale text read, part unit scale text = .ok read →
      other unit scale text = .ok read) {text : List Char} {sec : UInt32}
    (read : addParts part text = .ok sec) : addParts other text = .ok sec := by
  rw [addParts] at read ⊢
  cases hours : part 'h' 3600 text with
  | error => simp [hours, bind, Except.bind] at read
  | ok h =>
    cases minutes : part 'm' 60 h.2 with
    | error => simp [hours, minutes, bind, Except.bind] at read
    | ok m =>
      cases seconds : part 's' 1 m.2 with
      | error => simp [hours, minutes, seconds, bind, Except.bind] at read
      | ok s =>
        simp only [hours, minutes, seconds, bind, Except.bind] at read
        simp only [agree _ _ _ _ hours, agree _ _ _ _ minutes, agree _ _ _ _ seconds, bind,
          Except.bind]
        exact read

theorem parseTomlStringToSec_wraps {t : String} {sec : UInt32}
    (read : parseTomlStringToSec t = .ok sec) : parseTomlStringToSecWrapping t = .ok sec :=
  addParts_imp (fun _ _ _ _ => durationPart_wraps) read

theorem durationPartWrapping_written {t : String} {unit : Char} {some : Bool} {n scale : Nat}
    (there : unit ∈ t.toList ↔ some = true) (zero : some = false → n = 0)
    (other : isDigit unit = false) (fits : n < 2 ^ 31) (rest : List Char) :
    durationPartWrapping t unit scale (writtenPart some n unit ++ rest) =
      .ok (UInt32.ofNat (n * scale), rest) := by
  cases some with
  | false =>
    rw [durationPartWrapping, if_neg (by simp [there]), zero rfl, Nat.zero_mul]
    rfl
  | true =>
    have seconds : (Int32.ofNat n * Int32.ofInt scale).toUInt32 = UInt32.ofNat (n * scale) := by
      rw [Int32.ofInt_eq_ofNat, ← Int32.ofNat_mul, Int32.toUInt32_ofNat']
    rw [durationPartWrapping, if_pos (there.mpr rfl), writtenPart, if_pos rfl, List.append_assoc,
      List.singleton_append, strtok_token (writeNat_ne_nil n) (notMem_writeNat other n)]
    simp only [undefined, Option.elim, bind, Except.bind, atoi_writeNat fits, seconds]
    rfl

/-- Every written duration is read back if the product of two `int` wraps. -/
theorem parseTomlStringToSecWrapping_written (sec : UInt32) :
    parseTomlStringToSecWrapping (parseJsonSecToString sec) = .ok sec := by
  apply addParts_written
  intro unit some n scale there zero other _ fits _ rest
  exact durationPartWrapping_written there zero other fits rest

/-! ### Addresses -/

/-- An address with its port, as it is written. -/
def joined (ip : String) (port : UInt32) : String := ip ++ ":" ++ decimal port

/-- A text that is one token of an address. -/
def Token (s : String) : Prop := s ≠ "" ∧ ':' ∉ s.toList ∧ Char.ofNat 0 ∉ s.toList

instance (s : String) : Decidable (Token s) := inferInstanceAs (Decidable (_ ∧ _ ∧ _))

/-- An address whose text is split in itself and its port; nothing is read for an empty one. -/
def KeptBind (ip : String) (port : UInt32) : Prop :=
  (ip = "" ∧ port = 0) ∨ (Token ip ∧ port.toNat < 2 ^ 31)

/-- Such an address of a server: a scheme is shorter than an address without one. -/
def KeptServer (ip : String) (port : UInt32) : Prop :=
  (ip = "" ∧ port = 0) ∨ port.toNat < 2 ^ 31 ∧ ((Token ip ∧ 7 ≤ strlen ip.toList) ∨
    ∃ scheme host, ip = scheme ++ ":" ++ host ∧ Token scheme ∧ Token host ∧
      strlen scheme.toList < 7)

section

variable {s : String} (token : Token s)

include token

theorem Token.toList_ne_nil : s.toList ≠ [] := by
  intro empty
  exact token.1 (String.toList_inj.mp empty)

theorem Token.head {rest : List Char} : (s.toList ++ rest).head? ≠ some ':' := by
  rw [List.head?_append_of_ne_nil _ token.toList_ne_nil]
  intro head
  exact token.2.1 (List.mem_of_head? head)

theorem Token.strtok (rest : List Char) :
    CText.strtok ':' (s.toList ++ ':' :: rest) = some (s.toList, rest) :=
  strtok_token token.toList_ne_nil token.2.1 rest

end

theorem joined_toList (ip : String) (port : UInt32) :
    (joined ip port).toList = ip.toList ++ ':' :: writeNat port.toNat := by
  rw [joined, String.toList_append, String.toList_append, decimal_toList, List.append_assoc]
  rfl

theorem cString_joined {ip : String} (whole : Char.ofNat 0 ∉ ip.toList) (port : UInt32) :
    cString (joined ip port) = ip.toList ++ ':' :: writeNat port.toNat := by
  rw [cString_eq, joined_toList]
  rw [joined_toList, List.mem_append, List.mem_cons]
  rintro (here | colon | digits)
  · exact whole here
  · cases colon
  · exact notMem_writeNat (by decide) _ digits

/-- The port at the end of an address. -/
theorem strtok_port (port : UInt32) :
    strtok ':' (writeNat port.toNat) = some (writeNat port.toNat, []) :=
  strtok_last (writeNat_ne_nil _) (notMem_writeNat (by decide) _)

theorem atoi_port {port : UInt32} (fits : port.toNat < 2 ^ 31) :
    ∃ n, atoi (writeNat port.toNat) = some n ∧ n.toUInt32 = port := by
  refine ⟨_, atoi_writeNat fits, ?_⟩
  rw [Int32.toUInt32_ofNat', UInt32.ofNat_toNat]

theorem splitBind_token {ip : String} {port : UInt32} (token : Token ip)
    (fits : port.toNat < 2 ^ 31) : splitBind (joined ip port) = .ok (some (ip, port)) := by
  obtain ⟨n, read, same⟩ := atoi_port fits
  rw [splitBind, joined_toList, if_neg token.head, cString_joined token.2.2]
  simp only [undefined, Option.elim, bind, Except.bind, token.strtok, strtok_port, read, same,
    String.ofList_toList]
  rfl

theorem splitServer_token {ip : String} {port : UInt32} (token : Token ip)
    (long : 7 ≤ strlen ip.toList) (fits : port.toNat < 2 ^ 31) :
    splitServer (joined ip port) = .ok (some (ip, port)) := by
  obtain ⟨n, read, same⟩ := atoi_port fits
  rw [splitServer, joined_toList, if_neg token.head, cString_joined token.2.2]
  simp only [undefined, Option.elim, bind, Except.bind, token.strtok, strtok_port, read, same,
    String.ofList_toList, if_neg (Nat.not_lt.mpr long)]
  rfl

theorem splitServer_scheme {scheme host : String} {port : UInt32} (first : Token scheme)
    (second : Token host) (short : strlen scheme.toList < 7) (fits : port.toNat < 2 ^ 31) :
    splitServer (joined (scheme ++ ":" ++ host) port) =
      .ok (some (scheme ++ ":" ++ host, port)) := by
  obtain ⟨n, read, same⟩ := atoi_port fits
  have text : (scheme ++ ":" ++ host).toList = scheme.toList ++ ':' :: host.toList := by
    rw [String.toList_append, String.toList_append, List.append_assoc]
    rfl
  have whole : Char.ofNat 0 ∉ (scheme ++ ":" ++ host).toList := by
    rw [text, List.mem_append, List.mem_cons]
    rintro (here | colon | here)
    · exact first.2.2 here
    · cases colon
    · exact second.2.2 here
  rw [splitServer, joined_toList, cString_joined whole, text, List.append_assoc, List.cons_append,
    if_neg first.head]
  simp only [undefined, Option.elim, bind, Except.bind, first.strtok, second.strtok, strtok_port,
    read, same, String.ofList_toList, if_pos short]
  rfl

/-- What is in members without an address after a text has been split. -/
def addressRead (address : Option (String × UInt32)) : String × UInt32 := address.getD ("", 0)

theorem splitBind_kept {ip : String} {port : UInt32} (kept : KeptBind ip port) :
    ∃ address, splitBind (joined ip port) = .ok address ∧ addressRead address = (ip, port) := by
  rcases kept with ⟨rfl, rfl⟩ | ⟨token, fits⟩
  · exact ⟨none, if_pos (by rw [joined_toList]; rfl), rfl⟩
  · exact ⟨_, splitBind_token token fits, rfl⟩

theorem splitServer_kept {ip : String} {port : UInt32} (kept : KeptServer ip port) :
    ∃ address, splitServer (joined ip port) = .ok address ∧ addressRead address = (ip, port) := by
  rcases kept with ⟨rfl, rfl⟩ | ⟨fits, ⟨token, long⟩ | ⟨scheme, host, rfl, first, second, short⟩⟩
  · exact ⟨none, if_pos (by rw [joined_toList]; rfl), rfl⟩
  · exact ⟨_, splitServer_token token long fits, rfl⟩
  · exact ⟨_, splitServer_scheme first second short fits, rfl⟩

end LorawanFeeds.Cgi
