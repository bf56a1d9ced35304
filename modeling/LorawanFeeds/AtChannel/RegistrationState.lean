import LorawanFeeds.AtChannel.Scanf

/-!
# The registration state over the AT channel

`requestRegistrationState` of `atc.c` asks for the access technology, and with the command for it for
the registration. The format of the reply is guessed from the number of commas, and each number has
a scan format of its own.
-/
namespace LorawanFeeds.AtChannel.RegistrationState

open Lib CText Decimal IpConfig Scanf

abbrev Line := List Char

/-! ### The code -/

/-- The commands for the registration. -/
inductive Command where
  | cgreg
  | cereg
  | c5greg
  deriving DecidableEq, Repr

/-- What the lines of the reply begin with. -/
def Command.lead : Command → Line
  | cgreg => "+CGREG".toList
  | cereg => "+CEREG".toList
  | c5greg => "+C5GREG".toList

/-- The `switch` over the access technology. -/
def registrationCommand (copsAct : Int) : Option Command :=
  if copsAct = 2 ∨ copsAct = 3 ∨ copsAct = 4 ∨ copsAct = 5 ∨ copsAct = 6 then some .cgreg
  else if copsAct = 7 ∨ copsAct = 13 then some .cereg
  else if copsAct = 10 ∨ copsAct = 11 ∨ copsAct = 12 then some .c5greg
  else none

/-- The modem, by the lines of its answers where these are successful. -/
structure Modem where
  cops : Option (List Line)
  registration : Command → Option (List Line)

/-- What the conversion at a place has stored in its variable. -/
def storedInt (result : Result) (place : Nat) (old : Int) : Int :=
  match result.stores[place]? with
  | some (some (.int i)) => i
  | _ => old

/-- The access technology in the first line, or -1 where there is no line. -/
def copsAct : List Line → Option Int
  | [] => some (-1)
  | line :: _ =>
    let result := Scanf.atTokScanf line "%d%d%s%d".toList
    if result.n = 4 then some (storedInt result 3 (-1)) else none

/-- `at_tok_count`. -/
def atTokCount (line : Line) : Nat := line.count ','

/-- The `switch` over the number of commas: the value of `state`, or nothing for `goto error`. -/
def registrationState (line : Line) : Option Int :=
  let scanned (fmt : String) (n : Nat) : Option Int :=
    let result := Scanf.atTokScanf line fmt.toList
    -- In each format the second conversion stores into `state`.
    if result.n = n then some (storedInt result 1 0) else none
  if atTokCount line = 0 then
    -- The line is not started: its prefix is still there.
    let (state, ok, _) := nextInt line
    if ok then some state else none
  else if atTokCount line = 1 then scanned "%d%d" 2
  else if atTokCount line = 2 then scanned "%d%x%x" 3
  else if atTokCount line = 3 then scanned "%d%d%x%x" 4
  else if atTokCount line = 4 ∨ atTokCount line = 5 ∨ atTokCount line = 6 ∨ atTokCount line = 7 then
    scanned "%d%d%x%x%d" 5
  else none

/-- `requestRegistrationState`: what it returns, and `PSAttachedState`. -/
def requestRegistrationState (modem : Modem) : Int × UInt8 :=
  match modem.cops with
  | none => (-1, 0)
  | some lines =>
    match (copsAct lines).bind registrationCommand with
    | none => (0, 0)
    | some command =>
      match modem.registration command with
      | some (line :: _) =>
        (0, if registrationState line = some 1 ∨ registrationState line = some 5 then 1 else 0)
      | _ => (0, 0)

/-! ### The replies -/

/-- A hexadecimal number between quotes. -/
structure HexText where
  digits : List Char
  some : digits ≠ []
  hexadecimal : ∀ c ∈ digits, isxdigit c = true

/-- A field of a reply. -/
inductive Token where
  | int (numeral : Numeral)
  | hex (number : HexText)

namespace Token

def text : Token → List Char
  | int numeral => numeral.sign ++ numeral.digits
  | hex number => '"' :: (number.digits ++ ['"'])

/-- The conversion for the field, and what it stores. -/
def conversion : Token → Char
  | int _ => 'd'
  | hex _ => 'x'

/-- A hexadecimal number in an `int`. -/
def hexInt (number : HexText) : Int :=
  (Int32.ofInt (if 2 ^ 64 ≤ hexValue number.digits then 2 ^ 64 - 1
    else (hexValue number.digits : Int))).toInt

def stored : Token → Int
  | int numeral => numeral.value
  | hex number => hexInt number

end Token

/-- The formats of a reply. -/
inductive Format where
  | stat (stat : Numeral)
  | mode (n stat : Numeral)
  | cell (stat : Numeral) (lac cid : HexText)
  | modeCell (n stat : Numeral) (lac cid : HexText)
  | access (n stat : Numeral) (lac cid : HexText) (act : Numeral)

namespace Format

def tokens : Format → List Token
  | stat s => [.int s]
  | mode n s => [.int n, .int s]
  | cell s lac cid => [.int s, .hex lac, .hex cid]
  | modeCell n s lac cid => [.int n, .int s, .hex lac, .hex cid]
  | access n s lac cid act => [.int n, .int s, .hex lac, .hex cid, .int act]

/-- The status field. -/
def status : Format → Int
  | stat s => s.value
  | mode _ s => s.value
  | cell s _ _ => s.value
  | modeCell _ s _ _ => s.value
  | access _ s _ _ _ => s.value

end Format

/-- The fields with commas between them, and blanks behind the commas. -/
def spaced (gap : List Char) : List Token → List Char
  | [] => []
  | [token] => token.text
  | token :: next :: tokens => token.text ++ ',' :: (gap ++ spaced gap (next :: tokens))

/-- A well-formed reply: up to three further fields stand behind the access technology. -/
structure Reply (command : Command) where
  start : List Char
  gap : List Char
  format : Format
  further : List (List Char)
  blankStart : ∀ c ∈ start, c = ' '
  blankGap : ∀ c ∈ gap, c = ' '
  few : further.length ≤ 3
  last : further ≠ [] → ∃ n stat lac cid act, format = .access n stat lac cid act
  free : ∀ field ∈ further, ',' ∉ field
  short : (command.lead ++ ':' :: (start ++ spaced gap format.tokens)).length ≤ 1023

/-- The further fields, each with its comma. -/
def tail (further : List (List Char)) : List Char := further.flatMap fun field => ',' :: field

def Reply.line {command : Command} (reply : Reply command) : Line :=
  command.lead ++ ':' :: (reply.start ++ spaced reply.gap reply.format.tokens) ++ tail reply.further

/-- A reply to `AT+COPS?` with this access technology. -/
structure CopsLine (act : Int) (line : Line) : Prop where
  short : line.length ≤ 1023
  form : ∃ (mode format access : Numeral) (oper : Quotable), access.value = act ∧
    line = "+COPS".toList ++ ':' :: ' ' :: joined [.int mode, .int format, .str oper, .int access]

/-! ### One field -/

theorem isspace_of_blank {gap : List Char} (blank : ∀ c ∈ gap, c = ' ') :
    ∀ c ∈ gap, isspace c = true := by
  intro c member
  rw [blank c member]
  rfl

namespace Token

theorem text_bare (token : Token) :
    ∃ c more, token.text = c :: more ∧ (c = '-' → more.head? ≠ some ',') ∧ c ≠ ' ' := by
  cases token with
  | hex number => exact ⟨'"', _, rfl, fun same => absurd same (by decide), by decide⟩
  | int numeral =>
    obtain ⟨sign, digits, signed, some, decimal, fits⟩ := numeral
    obtain ⟨c, more, rfl⟩ := List.exists_cons_of_ne_nil some
    have one : isDigit c = true := decimal c (.head _)
    have minus : c ≠ '-' := ne_of_isDigit one rfl
    have comma : c ≠ ',' := ne_of_isDigit one rfl
    have blank : c ≠ ' ' := ne_of_isDigit one rfl
    rcases signed with rfl | rfl | rfl
    · exact ⟨c, more, rfl, fun same => absurd same minus, blank⟩
    · exact ⟨'-', c :: more, rfl, by simp [comma], by decide⟩
    · exact ⟨'+', c :: more, rfl, fun same => absurd same (by decide), by decide⟩

theorem text_ne_nil (token : Token) : token.text ≠ [] := by
  obtain ⟨c, more, form, -⟩ := token.text_bare
  simp [form]

theorem comma_notMem (token : Token) : ',' ∉ token.text := by
  cases token with
  | hex number =>
    have inside : ',' ∉ number.digits := fun member => by
      exact absurd (number.hexadecimal _ member) (by decide)
    simp [text, inside]
  | int numeral =>
    have inside : ',' ∉ numeral.digits := fun member => by
      exact absurd (numeral.decimal _ member) (by decide)
    rcases numeral.signed with same | same | same <;> simp [text, inside, same]

/-- The field does not look like a placeholder. -/
theorem take_two {gap : List Char} (blank : ∀ c ∈ gap, c = ' ') (token : Token)
    (rest : List Char) : (gap ++ (token.text ++ rest)).take 2 ≠ ['-', ','] := by
  cases gap with
  | cons c gap => simp [blank c (.head _)]
  | nil =>
    obtain ⟨c, more, form, comma, -⟩ := token.text_bare
    rw [List.nil_append, form, List.cons_append]
    intro same
    obtain ⟨minus, second⟩ := List.cons.inj same
    cases more with
    | cons d more => exact comma minus (by simpa using second)
    | nil =>
      -- A sign alone is no number.
      subst minus
      cases token with
      | hex number => cases form
      | int numeral =>
        rcases numeral.signed with none | minus | plus
        · rw [text, none, List.nil_append] at form
          exact absurd (numeral.decimal '-' (form ▸ .head _)) (by decide)
        · rw [text, minus] at form
          exact numeral.some (List.cons.inj form).2
        · rw [text, plus] at form
          cases form

/-- The conversion of a field succeeds, and the scan goes on behind its comma. -/
theorem take_token {gap : List Char} (blank : ∀ c ∈ gap, c = ' ') (token : Token)
    (rest : Option (List Char)) :
    ∃ left, take token.conversion (gap ++ (token.text ++ behind rest)) =
      (some (.int token.stored), true, left) ∧ ∀ more, rest = some more → left = some more := by
  have blanks := isspace_of_blank blank
  rw [take, if_neg (take_two blank token _)]
  cases token with
  | int numeral =>
    obtain ⟨store, left, converted, wanted, goesOn⟩ :=
      convert_field blanks (.d numeral) (fun absent => by cases absent) rest
    refine ⟨left, ?_, goesOn⟩
    rw [wanted _ rfl] at converted
    exact converted
  | hex number =>
    have quote : '"' ∉ number.digits := fun member => by
      exact absurd (number.hexadecimal _ member) (by decide)
    obtain ⟨left, next, goesOn⟩ := nextTok_quotable blanks ⟨number.digits, quote⟩ rest
    refine ⟨left, ?_, goesOn⟩
    have value := strtoulHex_hexadecimal number.some number.hexadecimal
    change nextTok (gap ++ ((Token.hex number).text ++ behind rest)) = (number.digits, left) at next
    rw [conversion, convert, if_neg (by decide), if_pos rfl, nextHexInt, nextIntBase, next]
    simp only [value, Option.getD_some, Option.isSome_some]
    rfl

end Token

/-! ### One line -/

/-- The fields of a line are scanned one by one. -/
theorem takeAll_tokens {gap : List Char} (blank : ∀ c ∈ gap, c = ' ') (token : Token)
    (tokens : List Token) {start : List Char} (blankStart : ∀ c ∈ start, c = ' ')
    (rest : Option (List Char)) :
    takeAll ((token :: tokens).map Token.conversion)
        (some (start ++ (spaced gap (token :: tokens) ++ behind rest))) =
      ⟨tokens.length + 1, (token :: tokens).map fun t => some (.int t.stored)⟩ := by
  induction tokens generalizing token start with
  | nil =>
    obtain ⟨left, taken, -⟩ := token.take_token blankStart rest
    rw [List.map_singleton, spaced, takeAll_true taken]
    · rfl
    · exact List.append_ne_nil_of_right_ne_nil _
        (List.append_ne_nil_of_left_ne_nil token.text_ne_nil _)
  | cons next tokens ih =>
    obtain ⟨left, taken, goesOn⟩ := token.take_token blankStart
      (some (gap ++ (spaced gap (next :: tokens) ++ behind rest)))
    have form : start ++ (spaced gap (token :: next :: tokens) ++ behind rest) =
        start ++ (token.text ++
          behind (some (gap ++ (spaced gap (next :: tokens) ++ behind rest)))) := by
      simp [spaced, behind]
    rw [form, List.map_cons, takeAll_true taken, goesOn _ rfl, ih next blank]
    · rfl
    · exact List.append_ne_nil_of_right_ne_nil _
        (List.append_ne_nil_of_left_ne_nil token.text_ne_nil _)

/-- What the further fields leave of the buffer. -/
theorem take_tail (further : List (List Char)) (room : Nat) :
    ∃ rest, (tail further).take room = behind rest := by
  cases room with
  | zero => exact ⟨none, rfl⟩
  | succ room =>
    cases further with
    | nil => exact ⟨none, rfl⟩
    | cons field further => exact ⟨some ((field ++ tail further).take room), rfl⟩

theorem lead_free (command : Command) : ':' ∉ command.lead ∧ ',' ∉ command.lead := by
  cases command <;> decide

section

variable {command : Command} (reply : Reply command)

theorem tokens_eq_cons (format : Format) : ∃ token tokens, format.tokens = token :: tokens := by
  cases format <;> exact ⟨_, _, rfl⟩

/-- The fields that the format names stand in the buffer as they are. -/
theorem scanned {fmt : List Char} (spells : Spells fmt (reply.format.tokens.map Token.conversion)) :
    Scanf.atTokScanf reply.line fmt =
      ⟨reply.format.tokens.length, reply.format.tokens.map fun t => some (.int t.stored)⟩ := by
  obtain ⟨token, tokens, form⟩ := tokens_eq_cons reply.format
  obtain ⟨rest, left⟩ := take_tail reply.further
    (1023 - (command.lead ++ ':' :: (reply.start ++ spaced reply.gap reply.format.tokens)).length)
  have line : reply.line.take 1023 = command.lead ++
      ':' :: (reply.start ++ (spaced reply.gap reply.format.tokens ++ behind rest)) := by
    rw [Reply.line, List.take_append, List.take_of_length_le reply.short, left]
    simp
  rw [Scanf.atTokScanf, line, atTokStart, strsep_token (lead_free command).1]
  dsimp only
  rw [scan_spells spells, form, takeAll_tokens reply.blankGap token tokens reply.blankStart]
  rfl

theorem count_spaced {gap : List Char} (blank : ∀ c ∈ gap, c = ' ') (token : Token)
    (tokens : List Token) : (spaced gap (token :: tokens)).count ',' = tokens.length := by
  have none : gap.count ',' = 0 := List.count_eq_zero.mpr fun member => by
    exact absurd (blank _ member) (by decide)
  induction tokens generalizing token with
  | nil => rw [spaced, List.count_eq_zero.mpr token.comma_notMem, List.length_nil]
  | cons next tokens ih =>
    rw [spaced, List.count_append, List.count_eq_zero.mpr token.comma_notMem, List.count_cons_self,
      List.count_append, none, ih, List.length_cons]
    omega

theorem count_tail {further : List (List Char)} (free : ∀ field ∈ further, ',' ∉ field) :
    (tail further).count ',' = further.length := by
  induction further with
  | nil => rfl
  | cons field further ih =>
    rw [List.forall_mem_cons] at free
    have rest := ih free.2
    rw [tail] at rest
    rw [tail, List.flatMap_cons, List.count_append, List.count_cons_self,
      List.count_eq_zero.mpr free.1, rest, List.length_cons]
    omega

/-- The commas stand between the fields. -/
theorem atTokCount_line :
    atTokCount reply.line = reply.format.tokens.length - 1 + reply.further.length := by
  obtain ⟨token, tokens, form⟩ := tokens_eq_cons reply.format
  have none : reply.start.count ',' = 0 := List.count_eq_zero.mpr fun member => by
    exact absurd (reply.blankStart _ member) (by decide)
  rw [atTokCount, Reply.line, form, List.count_append, List.count_append,
    List.count_eq_zero.mpr (lead_free command).2, List.count_cons_of_ne (by decide),
    List.count_append, none, count_spaced reply.blankGap, count_tail reply.free, List.length_cons]
  omega

/-- With its prefix, a line is no number. -/
theorem nextInt_line (none : atTokCount reply.line = 0) : (nextInt reply.line).2.1 = false := by
  have free : ',' ∉ reply.line := List.count_eq_zero.mp none
  obtain ⟨more, form⟩ : ∃ more, reply.line = '+' :: 'C' :: more := by
    rw [Reply.line]
    cases command <;> exact ⟨_, rfl⟩
  rw [form] at free ⊢
  have parted := strsep_behind free Option.none
  rw [behind, List.append_nil] at parted
  have token : nextTok ('+' :: 'C' :: more) = ('+' :: 'C' :: more, Option.none) := by
    rw [nextTok, List.dropWhile_cons_of_neg (by decide)]
    exact parted
  rw [nextInt, nextIntBase, token]
  rfl

/-- The value of `state` for each of the formats. -/
theorem registrationState_line :
    registrationState reply.line =
      match reply.format with
      | .stat _ => none
      | .cell _ lac _ => some (Token.hexInt lac)
      | format => some format.status := by
  have count := atTokCount_line reply
  have few := reply.few
  have alone (other : ∀ n stat lac cid act, reply.format ≠ .access n stat lac cid act) :
      reply.further = [] := by
    by_contra some
    obtain ⟨n, stat, lac, cid, act, same⟩ := reply.last some
    exact other n stat lac cid act same
  have scanned := @scanned command reply
  rw [registrationState]
  cases form : reply.format with
  | stat s =>
    have none : atTokCount reply.line = 0 := by
      rw [count, alone (by simp [form]), form]
      rfl
    simp only [none, if_true, nextInt_line reply none]
    rfl
  | mode n s =>
    have one : atTokCount reply.line = 1 := by
      rw [count, alone (by simp [form]), form]
      rfl
    have spells : Spells "%d%d".toList (reply.format.tokens.map Token.conversion) := by
      rw [form]
      exact .conversion (.conversion .nil)
    rw [form] at scanned spells
    simp only [one, scanned spells]
    rfl
  | cell s lac cid =>
    have two : atTokCount reply.line = 2 := by
      rw [count, alone (by simp [form]), form]
      rfl
    have spells : Spells "%d%x%x".toList (reply.format.tokens.map Token.conversion) := by
      rw [form]
      exact .conversion (.conversion (.conversion .nil))
    rw [form] at scanned spells
    simp only [two, scanned spells]
    rfl
  | modeCell n s lac cid =>
    have three : atTokCount reply.line = 3 := by
      rw [count, alone (by simp [form]), form]
      rfl
    have spells : Spells "%d%d%x%x".toList (reply.format.tokens.map Token.conversion) := by
      rw [form]
      exact .conversion (.conversion (.conversion (.conversion .nil)))
    rw [form] at scanned spells
    simp only [three, scanned spells]
    rfl
  | access n s lac cid act =>
    have many : atTokCount reply.line = 4 ∨ atTokCount reply.line = 5 ∨ atTokCount reply.line = 6 ∨
        atTokCount reply.line = 7 := by
      rw [form] at count
      simp only [Format.tokens, List.length_cons, List.length_nil] at count
      omega
    have spells : Spells "%d%d%x%x%d".toList (reply.format.tokens.map Token.conversion) := by
      rw [form]
      exact .conversion (.conversion (.conversion (.conversion (.conversion .nil))))
    rw [form] at scanned spells
    rw [if_neg (by omega), if_neg (by omega), if_neg (by omega), if_neg (by omega), if_pos many]
    simp only [scanned spells]
    rfl

end

theorem copsAct_line {act : Int} {line : Line} (known : CopsLine act line) (rest : List Line) :
    copsAct (line :: rest) = some act := by
  obtain ⟨short, mode, format, access, oper, rfl, rfl⟩ := known
  have spells : Spells "%d%d%s%d".toList ['d', 'd', 's', 'd'] :=
    .conversion (.conversion (.conversion (.conversion .nil)))
  have matched : Matched ['d', 's', 'd'] [.int format, .str oper, .int access] :=
    .field (.d format) (.field (.s oper) (.field (.d access) (.beyond [])))
  -- No field is a placeholder.
  have inverts : Inverts ['d', 'd', 's', 'd'] [.int mode, .int format, .str oper, .int access]
      (takeAll ['d', 'd', 's', 'd']
        (some ([' '] ++ joined [.int mode, .int format, .str oper, .int access]))) := by
    refine (inverts_take (.inr rfl) (.d mode) matched).mpr ⟨(fun absent => by cases absent), ?_⟩
    refine (inverts_later matched).mpr fun _ last => ?_
    cases last
  obtain ⟨count, stores⟩ := inverts
  have last := stores 3 (.int access.value) rfl
  rw [List.singleton_append] at count last
  rw [copsAct]
  simp only [atTokScanf_line (by decide) short spells]
  rw [if_pos (show _ = 4 from count), storedInt, last]

/-! ### The state -/

/-- The status says that the modem is registered, at home or roaming. -/
def Registered (status : Int) : Prop := status = 1 ∨ status = 5

instance (status : Int) : Decidable (Registered status) := inferInstanceAs (Decidable (_ ∨ _))

/-- The formats whose status is read: a status alone is not, and before a cell it is the area code
that is read as the status. -/
def ReadsStatus : Format → Prop
  | .stat s => ¬Registered s.value
  | .cell s lac _ => Registered s.value ↔ Registered (Token.hexInt lac)
  | _ => True

/-- An `int` of 1 or 5, by the digits of the area code. -/
theorem registered_hexInt (number : HexText) :
    Registered (Token.hexInt number) ↔
      hexValue number.digits < 2 ^ 64 ∧
        (hexValue number.digits % 2 ^ 32 = 1 ∨ hexValue number.digits % 2 ^ 32 = 5) := by
  rw [Registered, Token.hexInt, Int32.toInt_ofInt, Int.bmod, Int32.size]
  split <;> split <;> omega

/-- The modem counts as attached exactly if the status says so, where the status is read. -/
theorem attached_iff_status (modem : Modem) (act : Int) (command : Command)
    (reply : Reply command) (cops : Line) (copsRest lines : List Line)
    (technology : registrationCommand act = some command) (known : CopsLine act cops)
    (asked : modem.cops = some (cops :: copsRest))
    (answered : modem.registration command = some (reply.line :: lines)) :
    ((requestRegistrationState modem).2 = 1 ↔ Registered reply.format.status) ↔
      ReadsStatus reply.format := by
  have attached : (requestRegistrationState modem).2 = 1 ↔
      registrationState reply.line = some 1 ∨ registrationState reply.line = some 5 := by
    rw [requestRegistrationState, asked]
    dsimp only
    rw [copsAct_line known, Option.bind_some, technology]
    dsimp only
    rw [answered]
    dsimp only
    split <;> simp_all
  rw [attached, registrationState_line]
  cases reply.format with
  | stat s => simp [ReadsStatus, Format.status]
  | mode n s => simp [ReadsStatus, Format.status, Registered]
  | cell s lac cid =>
    simp only [ReadsStatus, Format.status, Option.some.injEq, Registered]
    exact iff_comm
  | modeCell n s lac cid => simp [ReadsStatus, Format.status, Registered]
  | access n s lac cid act => simp [ReadsStatus, Format.status, Registered]

theorem seven_decimal : ∀ c ∈ ['7'], isDigit c = true := List.forall_mem_singleton.mpr rfl

theorem seven_fits :
    -2 ^ 31 ≤ (if ([] : List Char) = ['-'] then -((readNat 0 ['7']).1 : Int)
      else (readNat 0 ['7']).1) ∧
    (if ([] : List Char) = ['-'] then -((readNat 0 ['7']).1 : Int)
      else (readNat 0 ['7']).1) < 2 ^ 31 := by
  decide

theorem without_sign : ([] : List Char) = [] ∨ ([] : List Char) = ['-'] ∨ ([] : List Char) = ['+'] :=
  .inl rfl

theorem seven_some : ['7'] ≠ [] := List.cons_ne_nil _ _

def seven : Numeral := ⟨[], ['7'], without_sign, seven_some, seven_decimal, seven_fits⟩

def cmcc : Quotable := ⟨"CMCC".toList, by decide⟩

def lteCops : Line := "+COPS: 1,1,\"CMCC\",7".toList

theorem lteCops_line : CopsLine 7 lteCops :=
  ⟨by decide, one, one, seven, cmcc, by decide, by decide⟩

/-- A modem with LTE that answers with one line. -/
def lteModem (line : Line) : Modem := ⟨some [lteCops], fun _ => some [line]⟩

/-- A reply without further fields. -/
def plainReply (format : Format)
    (short : (Command.cereg.lead ++ ':' :: ([' '] ++ spaced [] format.tokens)).length ≤ 1023) :
    Reply .cereg where
  start := [' ']
  gap := []
  format := format
  further := []
  blankStart := List.forall_mem_singleton.mpr rfl
  blankGap := List.forall_mem_nil _
  few := Nat.zero_le 3
  last := fun some => absurd rfl some
  free := List.forall_mem_nil _
  short := short

theorem two_fits : -2 ^ 31 ≤ (if ([] : List Char) = ['-'] then -((readNat 0 ['2']).1 : Int)
      else (readNat 0 ['2']).1) ∧
    (if ([] : List Char) = ['-'] then -((readNat 0 ['2']).1 : Int) else (readNat 0 ['2']).1) <
      2 ^ 31 := by
  decide

theorem two_decimal : ∀ c ∈ ['2'], isDigit c = true := List.forall_mem_singleton.mpr rfl

theorem two_some : ['2'] ≠ [] := List.cons_ne_nil _ _

def two : Numeral := ⟨[], ['2'], without_sign, two_some, two_decimal, two_fits⟩

theorem areaCode_hexadecimal : ∀ c ∈ ['1', 'A', '2', 'B'], isxdigit c = true :=
  List.all_eq_true.mp rfl

def areaCode : HexText := ⟨['1', 'A', '2', 'B'], List.cons_ne_nil _ _, areaCode_hexadecimal⟩

theorem cellId_hexadecimal : ∀ c ∈ ['0', '1', 'A', '2', 'B', '3', 'C', '4'], isxdigit c = true :=
  List.all_eq_true.mp rfl

def cellId : HexText :=
  ⟨['0', '1', 'A', '2', 'B', '3', 'C', '4'], List.cons_ne_nil _ _, cellId_hexadecimal⟩

/-- A modem that is registered at home, in a cell. -/
theorem attached_home :
    (requestRegistrationState (lteModem "+CEREG: 2,1,\"1A2B\",\"01A2B3C4\",7".toList)).2 = 1 ↔
      Registered 1 := by
  have short : (Command.cereg.lead ++ ':' ::
      ([' '] ++ spaced [] (Format.access two one areaCode cellId seven).tokens)).length ≤ 1023 := by
    decide
  exact (attached_iff_status (lteModem "+CEREG: 2,1,\"1A2B\",\"01A2B3C4\",7".toList) 7 .cereg
    (plainReply (.access two one areaCode cellId seven) short) lteCops [] [] rfl lteCops_line rfl
    rfl).mpr trivial

/-- A status alone is not read, and before a cell it is mistaken for the area code. -/
theorem attached_not_status :
    ¬∀ (modem : Modem) (act : Int) (command : Command) (reply : Reply command) (cops : Line)
      (copsRest lines : List Line), registrationCommand act = some command → CopsLine act cops →
      modem.cops = some (cops :: copsRest) →
      modem.registration command = some (reply.line :: lines) →
      ((requestRegistrationState modem).2 = 1 ↔ Registered reply.format.status) := by
  intro reads
  have short : (Command.cereg.lead ++ ':' :: ([' '] ++ spaced [] (Format.stat one).tokens)).length
      ≤ 1023 := by decide
  have attached := (reads (lteModem "+CEREG: 1".toList) 7 .cereg (plainReply (.stat one) short)
    lteCops [] [] rfl lteCops_line rfl rfl).mpr (.inl (by decide : one.value = 1))
  exact absurd attached (by decide)

end LorawanFeeds.AtChannel.RegistrationState
