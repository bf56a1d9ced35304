import LorawanFeeds.IpConfig.Network
import LorawanFeeds.Lib.CText

/-!
# What the AT channel says of the network

`at_tok_scanf` of `at_tok.c` takes a line apart, and `requestGetIPAddress` and `at_netdevstatus` of
`atc.c` make an address of the text they find. Of the conversions of `at_tok_scanf` these functions
use `%d` and `%s`.
-/
namespace LorawanFeeds.IpConfig

open Lib CText Decimal

/-! ### Tokens -/

/-- `strsep`: the text up to the delimiter, and what follows it. -/
def strsep (delimiter : Char) (text : List Char) : List Char × Option (List Char) :=
  (text.takeWhile (· ≠ delimiter),
    match text.dropWhile (· ≠ delimiter) with
    | [] => none
    | _ :: rest => some rest)

/-- `at_tok_start`: what follows the first colon. -/
def atTokStart (line : List Char) : Option (List Char) := (strsep ':' line).2

/-- `skipNextComma`. -/
def skipNextComma (text : List Char) : List Char := (text.dropWhile (· ≠ ',')).drop 1

/-- `nextTok`, at a place in the line. -/
def nextTok (text : List Char) : List Char × Option (List Char) :=
  match text.dropWhile isspace with
  | '"' :: quoted => ((strsep '"' quoted).1, (strsep '"' quoted).2.map skipNextComma)
  | plain => strsep ',' plain

/-- A number as `strtol` and `%d` read it, if there is one. -/
def scanInt (text : List Char) : Option (Int × List Char) :=
  let signed (sign : Int) (digits : List Char) : Option (Int × List Char) :=
    if (digits.head?.any isDigit) then
      some (sign * (readNat 0 digits).1, (readNat 0 digits).2)
    else none
  match text.dropWhile isspace with
  | '-' :: digits => signed (-1) digits
  | '+' :: digits => signed 1 digits
  | digits => signed 1 digits

/-- The value of a `long`: a number that does not fit is cut off. -/
def strtol (text : List Char) : Option Int :=
  (scanInt text).map fun (i, _) => max (-2 ^ 63) (min i (2 ^ 63 - 1))

inductive Conversion where
  | d
  | s
  deriving DecidableEq, Repr

/-- What a conversion stores. -/
inductive Scanned where
  | int (i : Int)
  | str (text : Option (List Char))
  deriving DecidableEq, Repr

/-- The loop of `at_tok_scanf` over the format; as many conversions have succeeded as it stores. -/
def scanTokens : List Conversion → Option (List Char) → List Scanned
  | [], _ => []
  | _, none => []
  | _, some [] => []
  | .d :: fmt, some ('-' :: ',' :: line) => .int (-1) :: scanTokens fmt (some line)
  | .s :: fmt, some ('-' :: ',' :: line) => .str none :: scanTokens fmt (some line)
  | .d :: fmt, some line =>
    match strtol (nextTok line).1 with
    | some i => .int (Int32.ofInt i).toInt :: scanTokens fmt (nextTok line).2
    | none => []
  | .s :: fmt, some line => .str (some (nextTok line).1) :: scanTokens fmt (nextTok line).2

/-- `at_tok_scanf`. The line is copied into a buffer first. -/
def atTokScanf (line : List Char) (fmt : List Conversion) : List Scanned :=
  match atTokStart (line.take 1023) with
  | none => []
  | some rest => scanTokens fmt (some rest)

/-! ### Addresses -/

/-- `sscanf` with numbers between dots. -/
def scanDotted : Nat → List Char → List Int
  | 0, _ => []
  | n + 1, text =>
    match scanInt text with
    | none => []
    | some (i, '.' :: rest) => i :: scanDotted n rest
    | some (i, _) => [i]

/-- `isxdigit`. -/
def isxdigit (c : Char) : Bool := isDigit c || ('a' ≤ c && c ≤ 'f') || ('A' ≤ c && c ≤ 'F')

def hexValue (digits : List Char) : Nat :=
  digits.foldl (fun value c => value * 16 + if isDigit c then c.toNat - 48 else c.toUpper.toNat - 55) 0

/-- `sscanf` with numbers of up to two hexadecimal digits. -/
def scanHex : Nat → List Char → List Int
  | 0, _ => []
  | n + 1, text =>
    let digits := ((text.dropWhile isspace).take 2).takeWhile isxdigit
    if digits = [] then []
    else (hexValue digits : Int) :: scanHex n ((text.dropWhile isspace).drop digits.length)

/-- The address of four numbers, as a little-endian host puts it together. -/
def composeAddress (addr : List Int) : UInt32 :=
  UInt32.ofInt (addr.getD 0 0) ||| UInt32.ofInt (addr.getD 1 0) <<< 8 |||
    UInt32.ofInt (addr.getD 2 0) <<< 16 ||| UInt32.ofInt (addr.getD 3 0) <<< 24

/-- The modem behind the channel: its kind, whether an EG800Q says that it is connected, and the lines
of its answers to `AT+CGPADDR` and to `AT+QNETDEVSTATUS`, if these are successful. -/
structure AtModem where
  asrStyleAtc : Bool
  eg800q : Bool
  connected : Bool
  cgpaddr : Option (List (List Char))
  netdevstatus : Option (List (List Char))
  deriving DecidableEq, Repr

/-- The address in a line of `+CGPADDR`, if the line is one of this context. -/
def cgpaddrAddress (pdp : Int) (line : List Char) : Option UInt32 :=
  match atTokScanf line [.d, .s, .s] with
  | .int cid :: .str (some ipv4) :: _ =>
    if cid = pdp then some (composeAddress (scanDotted 4 ipv4)) else none
  | _ => none

/-- The loop over the lines, which stops at the first that fits. -/
def cgpaddr (modem : AtModem) (pdp : Int) : UInt32 :=
  ((modem.cgpaddr.getD []).findSome? (cgpaddrAddress pdp)).getD 0

/-- `at_netdevstatus`. An address without dots is hexadecimal, the last byte first. -/
def atNetdevstatus (modem : AtModem) (pdp : Int) : UInt32 :=
  if modem.eg800q then
    if modem.connected then cgpaddr modem pdp else 0
  else
    match (modem.netdevstatus.bind List.head?).map
        fun line => atTokScanf line (List.replicate 10 .s) with
    | some (.str (some ipv4) :: _) =>
      if ipv4 = [] then 0
      else if '.' ∈ ipv4 then composeAddress (scanDotted 4 ipv4)
      else
        let addr := scanHex 4 ipv4
        composeAddress [addr.getD 3 0, addr.getD 2 0, addr.getD 1 0, addr.getD 0 0]
    | _ => 0

/-- `requestGetIPAddress` of `atc.c`. -/
def atRequestGetIPAddress (modem : AtModem) (profile : Profile) : Int × Profile :=
  let v4Addr :=
    if modem.asrStyleAtc then cgpaddr modem profile.pdp else atNetdevstatus modem profile.pdp
  (if v4Addr ≠ 0 then 0 else -1,
    if v4Addr ≠ 0 ∧ profile.ipv4.address ≠ v4Addr then
      { profile with ipv4 := { profile.ipv4 with address := v4Addr } }
    else profile)

/-! ### The dotted form -/

theorem strsep_token {delimiter : Char} {token : List Char} (free : delimiter ∉ token)
    (rest : List Char) : strsep delimiter (token ++ delimiter :: rest) = (token, some rest) := by
  obtain ⟨take, drop⟩ := takeWhile_token free rest
  rw [strsep, take, drop]

theorem ended_cons {c : Char} (other : isDigit c = false) (rest : List Char) : Ended (c :: rest) := by
  rintro d ⟨⟩
  exact other

theorem scanInt_writeNat (n : Nat) {rest : List Char} (ended : Ended rest) :
    scanInt (writeNat n ++ rest) = some ((n : Int), rest) := by
  obtain ⟨c, tail, written, one⟩ := writeNat_head n
  have read := readNat_write n ended
  rw [written, List.cons_append] at read ⊢
  rw [scanInt, List.dropWhile_cons_of_neg (by simp [isspace_of_isDigit one])]
  have minus : c ≠ '-' := ne_of_isDigit one rfl
  have plus : c ≠ '+' := ne_of_isDigit one rfl
  simp [one, read, minus, plus]

theorem scanDotted_dotted (a b c d : UInt8) :
    scanDotted 4 (dotted a b c d) = [a.toNat, b.toNat, c.toNat, d.toNat].map Int.ofNat := by
  have dot (rest : List Char) : Ended ('.' :: rest) := ended_cons rfl rest
  have last : scanInt (writeNat d.toNat) = some ((d.toNat : Int), []) := by
    have read := @scanInt_writeNat d.toNat [] (by rintro c ⟨⟩)
    rwa [List.append_nil] at read
  simp only [dotted, scanDotted, scanInt_writeNat _ (dot _), last]
  rfl

theorem composeAddress_bytes (a b c d : UInt8) :
    composeAddress ([a.toNat, b.toNat, c.toNat, d.toNat].map Int.ofNat) = Memory.word a b c d := by
  have byte (x : UInt8) : UInt32.ofInt (Int.ofNat x.toNat) = x.toUInt32 := by
    have small := x.toNat_lt
    rw [← UInt32.toNat_inj, UInt8.toNat_toUInt32, UInt32.ofInt]
    simp only [Int.ofNat_eq_natCast, UInt32.toNat_ofNat']
    omega
  simp only [composeAddress, List.map_cons, List.map_nil, List.getD_cons_zero, List.getD_cons_succ,
    byte, Memory.word]

/-- A line of `+CGPADDR` with this address. -/
structure CgpaddrLine (pdp : Nat) (ip : Ip4) (line : List Char) : Prop where
  short : line.length ≤ 1023
  form : ∃ lead rest, ':' ∉ lead ∧
    line = lead ++ ':' :: ' ' :: (writeNat pdp ++ ',' :: '"' :: (ip.text ++ '"' :: rest))

/-- A line of `+QNETDEVSTATUS` with this address. -/
structure NetdevLine (ip : Ip4) (line : List Char) : Prop where
  short : line.length ≤ 1023
  form : ∃ lead rest, ':' ∉ lead ∧ line = lead ++ ':' :: ' ' :: (ip.text ++ ',' :: rest)

theorem mem_text {ip : Ip4} {c : Char} (member : c ∈ ip.text) : isDigit c = true ∨ c = '.' := by
  simp only [Ip4.text, dotted, List.mem_append, List.mem_cons] at member
  have digit {n : Nat} (inside : c ∈ writeNat n) := isDigit_of_mem_writeNat n c inside
  rcases member with first | rfl | second | rfl | third | rfl | fourth
  · exact .inl (digit first)
  · exact .inr rfl
  · exact .inl (digit second)
  · exact .inr rfl
  · exact .inl (digit third)
  · exact .inr rfl
  · exact .inl (digit fourth)

theorem not_mem_text {ip : Ip4} {c : Char} (other : isDigit c = false) (dot : c ≠ '.') :
    c ∉ ip.text := by
  intro member
  rcases mem_text member with one | same
  · exact absurd one (by simp [other])
  · exact dot same

theorem atTokScanf_eq {line lead rest : List Char} (short : line.length ≤ 1023)
    (free : ':' ∉ lead) (form : line = lead ++ ':' :: rest) (fmt : List Conversion) :
    atTokScanf line fmt = scanTokens fmt (some rest) := by
  rw [atTokScanf, List.take_of_length_le short, form, atTokStart, strsep_token free]

/-- A token without quotes, with a comma after it. -/
theorem nextTok_plain {token : List Char} {c : Char} (solid : isspace c = false) (quote : c ≠ '"')
    (free : ',' ∉ c :: token) (rest : List Char) :
    nextTok (' ' :: c :: token ++ ',' :: rest) = (c :: token, some rest) := by
  have start : (' ' :: c :: token ++ ',' :: rest).dropWhile isspace = c :: (token ++ ',' :: rest) := by
    rw [List.cons_append, List.dropWhile_cons_of_pos rfl, List.cons_append,
      List.dropWhile_cons_of_neg (by simp [solid])]
  have parted := strsep_token free rest
  rw [nextTok, start]
  split
  next first => exact absurd (List.cons.inj first).1 quote
  next => exact parted

/-- A token in quotes. -/
theorem nextTok_quoted {token : List Char} (free : '"' ∉ token) (rest : List Char) :
    nextTok ('"' :: (token ++ '"' :: rest)) = (token, some (skipNextComma rest)) := by
  rw [nextTok, List.dropWhile_cons_of_neg (by decide)]
  simp only [strsep_token free, Option.map_some]

theorem strtol_writeNat {n : Nat} (fits : n < 2 ^ 31) : strtol (writeNat n) = some (n : Int) := by
  have read := @scanInt_writeNat n [] (by rintro c ⟨⟩)
  rw [List.append_nil] at read
  have value : max (-2 ^ 63) (min (n : Int) (2 ^ 63 - 1)) = n := by omega
  rw [strtol, read, Option.map_some]
  simp only [value]

theorem scanTokens_d {c : Char} (minus : c ≠ '-') {line token : List Char} {rest : Option (List Char)}
    (next : nextTok (c :: line) = (token, rest)) {i : Int} (value : strtol token = some i)
    (fmt : List Conversion) :
    scanTokens (.d :: fmt) (some (c :: line)) = .int (Int32.ofInt i).toInt :: scanTokens fmt rest := by
  rw [scanTokens]
  · rw [next, value]
  · simp
  · rintro tail ⟨⟩
    exact minus rfl

theorem scanTokens_s {c : Char} (minus : c ≠ '-') {line token : List Char} {rest : Option (List Char)}
    (next : nextTok (c :: line) = (token, rest)) (fmt : List Conversion) :
    scanTokens (.s :: fmt) (some (c :: line)) = .str (some token) :: scanTokens fmt rest := by
  rw [scanTokens]
  · rw [next]
  · simp
  · rintro tail ⟨⟩
    exact minus rfl

theorem CgpaddrLine.address {pdp : Nat} {ip : Ip4} {line : List Char} (fits : pdp < 2 ^ 31)
    (carries : CgpaddrLine pdp ip line) :
    cgpaddrAddress pdp line = some (Memory.word ip.a ip.b ip.c ip.d) := by
  obtain ⟨short, lead, rest, free, form⟩ := carries
  obtain ⟨c, tail, written, one⟩ := writeNat_head pdp
  have comma : ',' ∉ c :: tail := by
    rw [← written]
    intro member
    exact absurd (isDigit_of_mem_writeNat pdp _ member) (by decide)
  have number := nextTok_plain (isspace_of_isDigit one) (ne_of_isDigit one rfl) comma
    ('"' :: (ip.text ++ '"' :: rest))
  have address := nextTok_quoted (@not_mem_text ip '"' rfl (by decide)) rest
  have value := strtol_writeNat fits
  have back : (Int32.ofInt pdp).toInt = pdp := by
    rw [Int32.toInt_ofInt_of_le] <;> omega
  rw [written] at value form
  rw [cgpaddrAddress, atTokScanf_eq short free form]
  rw [List.cons_append, List.cons_append] at number
  rw [List.cons_append, scanTokens_d (by decide) number value, scanTokens_s (by decide) address, back]
  simp only [if_true]
  rw [Ip4.text, scanDotted_dotted, composeAddress_bytes]

theorem NetdevLine.scanned {ip : Ip4} {line : List Char} (carries : NetdevLine ip line)
    (fmt : List Conversion) :
    ∃ more, atTokScanf line (.s :: fmt) = .str (some ip.text) :: more := by
  obtain ⟨short, lead, rest, free, form⟩ := carries
  obtain ⟨c, tail, written, one⟩ := writeNat_head ip.a.toNat
  obtain ⟨rest', text⟩ : ∃ rest', ip.text = c :: rest' := by
    rw [Ip4.text, dotted, written]
    exact ⟨_, rfl⟩
  have comma : ',' ∉ c :: rest' := by
    rw [← text]
    exact not_mem_text rfl (by decide)
  have token := nextTok_plain (isspace_of_isDigit one) (ne_of_isDigit one rfl) comma rest
  rw [atTokScanf_eq short free form, text]
  rw [List.cons_append, List.cons_append] at token
  exact ⟨_, scanTokens_s (by decide) token fmt⟩

/-- The answer of the modem has this address in its dotted form. -/
inductive AtCarries (modem : AtModem) (pdp : Nat) (ip : Ip4) : Prop where
  | asr (line : List Char) (rest : List (List Char)) (style : modem.asrStyleAtc = true)
      (answer : modem.cgpaddr = some (line :: rest)) (carries : CgpaddrLine pdp ip line)
  | eg800q (line : List Char) (rest : List (List Char)) (style : modem.asrStyleAtc = false)
      (kind : modem.eg800q = true) (connected : modem.connected = true)
      (answer : modem.cgpaddr = some (line :: rest)) (carries : CgpaddrLine pdp ip line)
  | netdev (line : List Char) (rest : List (List Char)) (style : modem.asrStyleAtc = false)
      (kind : modem.eg800q = false) (answer : modem.netdevstatus = some (line :: rest))
      (carries : NetdevLine ip line)

/-- The bytes of the address come into the profile in the order in which they are printed. -/
theorem AtCarries.address {modem : AtModem} {pdp : Nat} {ip : Ip4}
    (carries : AtCarries modem pdp ip) (fits : pdp < 2 ^ 31) {profile : Profile}
    (context : profile.pdp = pdp) (zeroed : profile.ipv4.address = 0) :
    (atRequestGetIPAddress modem profile).2.ipv4.address = Memory.word ip.a ip.b ip.c ip.d := by
  have stored {v4Addr : UInt32} (same : v4Addr = Memory.word ip.a ip.b ip.c ip.d) :
      (if v4Addr ≠ 0 ∧ profile.ipv4.address ≠ v4Addr then
        { profile with ipv4 := { profile.ipv4 with address := v4Addr } }
      else profile).ipv4.address = Memory.word ip.a ip.b ip.c ip.d := by
    rw [← same]
    by_cases zero : v4Addr = 0
    · simp [zero, zeroed]
    · simp [zero, zeroed, Ne.symm zero]
  have listed {line : List Char} {rest : List (List Char)} (carries : CgpaddrLine pdp ip line)
      (answer : modem.cgpaddr = some (line :: rest)) :
      cgpaddr modem profile.pdp = Memory.word ip.a ip.b ip.c ip.d := by
    rw [cgpaddr, answer, context, Option.getD_some,
      List.findSome?_cons_of_isSome (by rw [carries.address fits]; rfl), carries.address fits,
      Option.getD_some]
  rw [atRequestGetIPAddress]
  apply stored
  cases carries with
  | asr line rest style answer carries =>
    rw [if_pos style]
    exact listed carries answer
  | eg800q line rest style kind connected answer carries =>
    rw [if_neg (by simp [style]), atNetdevstatus, if_pos kind, if_pos connected]
    exact listed carries answer
  | netdev line rest style kind answer carries =>
    obtain ⟨more, scanned⟩ := carries.scanned (List.replicate 9 .s)
    have dot : '.' ∈ ip.text := by simp [Ip4.text, dotted]
    have some : ip.text ≠ [] := List.ne_nil_of_mem dot
    rw [if_neg (by simp [style]), atNetdevstatus, if_neg (by simp [kind]), answer, Option.bind_some,
      List.head?_cons, Option.map_some, List.replicate_succ, scanned]
    simp only [some, dot, if_true, if_false]
    rw [Ip4.text, scanDotted_dotted, composeAddress_bytes]

end LorawanFeeds.IpConfig
