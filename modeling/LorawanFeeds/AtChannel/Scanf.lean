import LorawanFeeds.IpConfig.AtTokens

/-!
# The scanner of the AT lines

`at_tok_scanf` of `at_tok.c` walks through a format and takes the fields of a line one by one. A `-`
in place of a field is found by a look at the two characters at the cursor.
-/
namespace LorawanFeeds.AtChannel.Scanf

open Lib CText Decimal IpConfig

/-! ### The scanner -/

/-- What a conversion stores where its argument points to. -/
inductive Stored where
  | int (i : Int)
  | bool (b : Bool)
  | str (text : List Char)
  deriving DecidableEq, Repr

/-- How many conversions count, and for each one that the loop has come to what has been stored. -/
structure Result where
  n : Nat := 0
  stores : List (Option Stored) := []
  deriving DecidableEq, Repr

/-- The conversion counts. -/
def Result.counted (result : Result) (store : Option Stored) : Result :=
  { n := result.n + 1, stores := store :: result.stores }

/-- `strtoul` with base 16: a number that does not fit is cut off, a sign is taken modulo `2 ^ 64`. -/
def strtoulHex (text : List Char) : Option Int :=
  let digitsOf (text : List Char) : List Char :=
    match text with
    | '0' :: x :: d :: rest =>
      if (x = 'x' ∨ x = 'X') ∧ isxdigit d then (d :: rest).takeWhile isxdigit
      else text.takeWhile isxdigit
    | _ => text.takeWhile isxdigit
  let value (negative : Bool) (digits : List Char) : Option Int :=
    if digits = [] then none
    else if 2 ^ 64 ≤ hexValue digits then some (2 ^ 64 - 1)
    else if negative then some ((2 ^ 64 - hexValue digits) % 2 ^ 64)
    else some (hexValue digits)
  match text.dropWhile isspace with
  | '-' :: text => value true (digitsOf text)
  | '+' :: text => value false (digitsOf text)
  | text => value false (digitsOf text)

/-- `at_tok_nextint_base`: the `int` that is stored, which is 0 where there is no number, whether there
is one, and what is left of the line. -/
def nextIntBase (read : List Char → Option Int) (line : List Char) :
    Int × Bool × Option (List Char) :=
  let (ret, rest) := nextTok line
  ((Int32.ofInt ((read ret).getD 0)).toInt, (read ret).isSome, rest)

/-- `at_tok_nextint`. -/
def nextInt (line : List Char) : Int × Bool × Option (List Char) := nextIntBase strtol line

/-- `at_tok_nexthexint`. -/
def nextHexInt (line : List Char) : Int × Bool × Option (List Char) := nextIntBase strtoulHex line

/-- `at_tok_nextbool`. -/
def nextBool (line : List Char) : Option Bool × Option (List Char) :=
  let (result, ok, rest) := nextInt line
  if ok ∧ (result = 0 ∨ result = 1) then (some (result = 1), rest) else (none, rest)

/-- The `switch` of `at_tok_scanf`: what is stored, whether the conversion succeeds, and what is left
of the line. -/
def convert (conversion : Char) (line : List Char) :
    Option Stored × Bool × Option (List Char) :=
  if conversion = 'd' then
    let (i, ok, rest) := nextInt line
    (some (.int i), ok, rest)
  else if conversion = 'x' then
    let (i, ok, rest) := nextHexInt line
    (some (.int i), ok, rest)
  else if conversion = 'b' then
    let (b, rest) := nextBool line
    (b.map .bool, b.isSome, rest)
  else if conversion = 's' then
    let (ret, rest) := nextTok line
    (some (.str ret), true, rest)
  else (none, false, some line)

/-- What one conversion does to the line: a field that is just `-` is passed over, and only `%d` stores
something for it. -/
def take (conversion : Char) (line : List Char) : Option Stored × Bool × Option (List Char) :=
  if line.take 2 = ['-', ','] then
    (if conversion = 'd' then some (.int (-1)) else none, true, some (line.drop 2))
  else convert conversion line

/-- The loop of `at_tok_scanf` over the format. -/
def scan : List Char → Option (List Char) → Result
  | [], _ => {}
  | [_], _ => {}
  | c :: conversion :: fmt, line =>
    if c = ',' ∨ c = ' ' then scan (conversion :: fmt) line
    else if c ≠ '%' ∨ line.getD [] = [] then {}
    else
      match take conversion (line.getD []) with
      | (store, true, rest) => (scan fmt rest).counted store
      | (store, false, _) => { stores := [store] }

/-- `at_tok_scanf`. The line is copied into a buffer first. -/
def atTokScanf (line fmt : List Char) : Result :=
  match atTokStart (line.take 1023) with
  | none => {}
  | some rest => scan fmt (some rest)

/-! ### Lines of fields -/

/-- An integer in the range of an `int`, as it is written. -/
structure Numeral where
  sign : List Char
  digits : List Char
  signed : sign = [] ∨ sign = ['-'] ∨ sign = ['+']
  some : digits ≠ []
  decimal : ∀ c ∈ digits, isDigit c = true
  fits : -2 ^ 31 ≤ (if sign = ['-'] then -((readNat 0 digits).1 : Int) else (readNat 0 digits).1) ∧
    (if sign = ['-'] then -((readNat 0 digits).1 : Int) else (readNat 0 digits).1) < 2 ^ 31

def Numeral.value (numeral : Numeral) : Int :=
  if numeral.sign = ['-'] then -(readNat 0 numeral.digits).1 else (readNat 0 numeral.digits).1

/-- A hexadecimal number in the range of an `int`. -/
structure HexNumeral where
  digits : List Char
  some : digits ≠ []
  hexadecimal : ∀ c ∈ digits, isxdigit c = true
  fits : hexValue digits < 2 ^ 31

/-- A text that can stand between quotes. -/
structure Quotable where
  text : List Char
  free : '"' ∉ text

/-- A field of a line; `absent` is the placeholder. -/
inductive Field where
  | int (numeral : Numeral)
  | hex (numeral : HexNumeral)
  | str (quotable : Quotable)
  | absent

def Field.text : Field → List Char
  | .int numeral => numeral.sign ++ numeral.digits
  | .hex numeral => numeral.digits
  | .str quotable => '"' :: (quotable.text ++ ['"'])
  | .absent => ['-']

/-- What a scanner of the line has to find in the field. -/
def Field.token : Field → List Char
  | .str quotable => quotable.text
  | field => field.text

/-- The fields with commas between them. -/
def joined : List Field → List Char
  | [] => []
  | [field] => field.text
  | field :: next :: fields => field.text ++ ',' :: joined (next :: fields)

/-- What is left of a line after a field. -/
def later : List Field → Option (List Char)
  | [] => none
  | field :: fields => some (joined (field :: fields))

/-- The conversion is one for the field. -/
inductive Matches : Char → Field → Prop where
  | d (numeral : Numeral) : Matches 'd' (.int numeral)
  | x (numeral : HexNumeral) : Matches 'x' (.hex numeral)
  | b (numeral : Numeral) (boolean : numeral.value = 0 ∨ numeral.value = 1) :
      Matches 'b' (.int numeral)
  | s (quotable : Quotable) : Matches 's' (.str quotable)
  | absent {conversion : Char} (known : conversion ∈ ['d', 'x', 'b', 's']) :
      Matches conversion .absent

/-- What the conversion has to store for the field. -/
def wanted : Char → Field → Option Stored
  | 'b', .int numeral => some (.bool (numeral.value = 1))
  | _, .int numeral => some (.int numeral.value)
  | _, .hex numeral => some (.int (hexValue numeral.digits))
  | _, .str quotable => some (.str quotable.text)
  | 'd', .absent => some (.int (-1))
  | _, .absent => none

/-- The format has these conversions, with commas and blanks between them. -/
inductive Spells : List Char → List Char → Prop where
  | nil : Spells [] []
  | skip {c : Char} {fmt conversions : List Char} (separator : c = ',' ∨ c = ' ')
      (spells : Spells fmt conversions) : Spells (c :: fmt) conversions
  | conversion {c : Char} {fmt conversions : List Char} (spells : Spells fmt conversions) :
      Spells ('%' :: c :: fmt) (c :: conversions)

/-- There is a matching conversion for each of the first fields. -/
inductive Matched : List Char → List Field → Prop where
  | beyond (fields : List Field) : Matched [] fields
  | field {conversion : Char} {conversions : List Char} {field : Field} {fields : List Field}
      (here : Matches conversion field) (rest : Matched conversions fields) :
      Matched (conversion :: conversions) (field :: fields)

/-- All the conversions count, and each has stored what it has to. -/
def Inverts (conversions : List Char) (fields : List Field) (result : Result) : Prop :=
  result.n = conversions.length ∧
    ∀ (i : Nat) (v : Stored), (List.zipWith wanted conversions fields)[i]? = some (some v) →
      result.stores[i]? = some (some v)

/-- A placeholder that ends the line is read as a text. -/
def LastRecognised (conversions : List Char) (fields : List Field) : Prop :=
  fields.length = conversions.length → fields.getLast? = some .absent →
    ∀ c ∈ conversions.getLast?, c = 's'

/-- A placeholder that is not read as a text is neither the first field, before which there is a
blank, nor the last one, after which there is no comma. -/
def Recognised (conversions : List Char) (fields : List Field) : Prop :=
  (fields.head? = some .absent → ∀ c ∈ conversions.head?, c = 's') ∧ LastRecognised conversions fields

/-! ### The format -/

/-- The loop over the conversions alone. -/
def takeAll : List Char → Option (List Char) → Result
  | [], _ => {}
  | conversion :: conversions, line =>
    if line.getD [] = [] then {}
    else
      match take conversion (line.getD []) with
      | (store, true, rest) => (takeAll conversions rest).counted store
      | (store, false, _) => { stores := [store] }

theorem takeAll_true {conversion : Char} {line : List Char} {store : Option Stored}
    {rest : Option (List Char)} (taken : take conversion line = (store, true, rest))
    (some : line ≠ []) (conversions : List Char) :
    takeAll (conversion :: conversions) (Option.some line) =
      (takeAll conversions rest).counted store := by
  rw [takeAll, Option.getD_some, if_neg some, taken]

theorem takeAll_false {conversion : Char} {line : List Char} {store : Option Stored}
    {rest : Option (List Char)} (taken : take conversion line = (store, false, rest))
    (some : line ≠ []) (conversions : List Char) :
    takeAll (conversion :: conversions) (Option.some line) = { stores := [store] } := by
  rw [takeAll, Option.getD_some, if_neg some, taken]

/-- The separators of a format mean nothing. -/
theorem scan_spells {fmt conversions : List Char} (spells : Spells fmt conversions)
    (line : Option (List Char)) : scan fmt line = takeAll conversions line := by
  induction spells generalizing line with
  | nil => rfl
  | @skip c fmt conversions separator spells ih =>
    cases fmt with
    | nil =>
      cases spells
      rfl
    | cons next fmt =>
      rw [scan, if_pos separator]
      exact ih line
  | @conversion c fmt conversions spells ih =>
    rw [scan, if_neg (by decide), takeAll]
    by_cases empty : line.getD [] = []
    · rw [if_pos (.inr empty), if_pos empty]
    · rw [if_neg (by simp [empty]), if_neg empty]
      generalize take c (line.getD []) = taken
      obtain ⟨store, ok, rest⟩ := taken
      cases ok with
      | true => exact congrArg (Result.counted · store) (ih rest)
      | false => rfl

/-! ### The tokens -/

/-- What stands behind a field. -/
def behind : Option (List Char) → List Char
  | none => []
  | some rest => ',' :: rest

theorem joined_cons (field : Field) (fields : List Field) :
    joined (field :: fields) = field.text ++ behind (later fields) := by
  cases fields with
  | nil => rw [joined, later, behind, List.append_nil]
  | cons next fields => rfl

theorem strsep_behind {token : List Char} (free : ',' ∉ token) (rest : Option (List Char)) :
    strsep ',' (token ++ behind rest) = (token, rest) := by
  cases rest with
  | some rest => exact strsep_token free rest
  | none =>
    have all : ∀ c ∈ token, decide (c ≠ ',') = true := by
      intro c member
      rw [decide_eq_true_eq]
      rintro rfl
      exact free member
    rw [behind, List.append_nil, strsep, List.takeWhile_eq_self_iff.mpr all,
      List.dropWhile_eq_nil_iff.mpr all]

theorem dropWhile_blank {blank text : List Char} {c : Char} (blanks : ∀ b ∈ blank, isspace b = true)
    (solid : isspace c = false) : (blank ++ c :: text).dropWhile isspace = c :: text := by
  rw [List.dropWhile_append_of_pos blanks, List.dropWhile_cons_of_neg (by simp [solid])]

/-- A bare token. -/
structure Bare (token : List Char) : Prop where
  start : ∃ c text, token = c :: text ∧ isspace c = false ∧ c ≠ '"'
  free : ',' ∉ token

theorem nextTok_bare {blank token : List Char} (blanks : ∀ b ∈ blank, isspace b = true)
    (bare : Bare token) (rest : Option (List Char)) :
    nextTok (blank ++ (token ++ behind rest)) = (token, rest) := by
  obtain ⟨⟨c, text, rfl, solid, quote⟩, free⟩ := bare
  have parted := strsep_behind free rest
  rw [List.cons_append] at parted ⊢
  rw [nextTok, dropWhile_blank blanks solid]
  split
  next first => exact absurd (List.cons.inj first).1 quote
  next => exact parted

theorem nextTok_quotable {blank : List Char} (blanks : ∀ b ∈ blank, isspace b = true)
    (quotable : Quotable) (rest : Option (List Char)) :
    ∃ left, nextTok (blank ++ ('"' :: (quotable.text ++ ['"']) ++ behind rest)) =
      (quotable.text, left) ∧ ∀ more, rest = some more → left = some more := by
  rw [List.cons_append, List.append_assoc, nextTok, dropWhile_blank blanks rfl]
  have parted := strsep_token quotable.free (behind rest)
  change ∃ left, ((strsep '"' (quotable.text ++ '"' :: behind rest)).1,
    (strsep '"' (quotable.text ++ '"' :: behind rest)).2.map skipNextComma) = _ ∧ _
  rw [parted]
  refine ⟨_, rfl, ?_⟩
  rintro more rfl
  rfl

theorem bare_of_digits {sign digits : List Char} {test : Char → Bool} (some : digits ≠ [])
    (all : ∀ c ∈ digits, test c = true) (signed : sign = [] ∨ sign = ['-'] ∨ sign = ['+'])
    (solid : ∀ c, test c = true → isspace c = false) (quote : test '"' = false)
    (comma : test ',' = false) : Bare (sign ++ digits) := by
  obtain ⟨c, text, rfl⟩ := List.exists_cons_of_ne_nil some
  have free : ',' ∉ c :: text := fun member => Bool.false_ne_true (comma.symm.trans (all _ member))
  rcases signed with rfl | rfl | rfl
  · refine ⟨⟨c, text, rfl, solid c (all c (.head _)), ?_⟩, free⟩
    rintro rfl
    exact Bool.false_ne_true (quote.symm.trans (all _ (.head _)))
  · exact ⟨⟨'-', c :: text, rfl, rfl, by decide⟩, List.not_mem_cons_of_ne_of_not_mem (by decide) free⟩
  · exact ⟨⟨'+', c :: text, rfl, rfl, by decide⟩, List.not_mem_cons_of_ne_of_not_mem (by decide) free⟩

theorem isspace_of_isxdigit {c : Char} (one : isxdigit c = true) : isspace c = false := by
  have least : 48 ≤ c.toNat := by
    simp only [isxdigit, isDigit, Bool.decide_and, Bool.or_eq_true, Bool.and_eq_true,
      decide_eq_true_eq] at one
    rcases one with (digit | lower) | upper
    · exact digit.1
    · exact Nat.le_trans (by decide : 48 ≤ 97) lower.1
    · exact Nat.le_trans (by decide : 48 ≤ 65) upper.1
  simp only [isspace, Bool.decide_or, Bool.or_eq_false_iff, decide_eq_false_iff_not]
  constructor
  · rintro rfl
    exact absurd least (by decide)
  · omega

theorem nextTok_field {blank : List Char} (blanks : ∀ b ∈ blank, isspace b = true) (field : Field)
    (rest : Option (List Char)) :
    ∃ left, nextTok (blank ++ (field.text ++ behind rest)) = (field.token, left) ∧
      ∀ more, rest = some more → left = some more := by
  cases field with
  | int numeral =>
    have bare : Bare (numeral.sign ++ numeral.digits) := bare_of_digits numeral.some numeral.decimal
      numeral.signed (fun _ => isspace_of_isDigit) rfl rfl
    exact ⟨rest, nextTok_bare blanks bare rest, fun _ same => same⟩
  | hex numeral =>
    have bare : Bare ([] ++ numeral.digits) := bare_of_digits numeral.some numeral.hexadecimal
      (.inl rfl) (fun _ => isspace_of_isxdigit) rfl rfl
    exact ⟨rest, nextTok_bare blanks bare rest, fun _ same => same⟩
  | str quotable => exact nextTok_quotable blanks quotable rest
  | absent =>
    have bare : Bare ['-'] := ⟨⟨'-', [], rfl, rfl, by decide⟩, by decide⟩
    exact ⟨rest, nextTok_bare blanks bare rest, fun _ same => same⟩

/-! ### The numbers -/

theorem strtol_numeral (numeral : Numeral) :
    strtol (numeral.sign ++ numeral.digits) = some numeral.value := by
  obtain ⟨sign, digits, signed, some, decimal, fits⟩ := numeral
  rw [Numeral.value]
  dsimp only at fits ⊢
  obtain ⟨c, text, rfl⟩ := List.exists_cons_of_ne_nil some
  have one : isDigit c = true := decimal c (.head _)
  have solid : isspace c = false := isspace_of_isDigit one
  have minus : c ≠ '-' := ne_of_isDigit one rfl
  have plus : c ≠ '+' := ne_of_isDigit one rfl
  have scanned : (scanInt (sign ++ c :: text)).map Prod.fst =
      Option.some (if sign = ['-'] then -((readNat 0 (c :: text)).1 : Int)
        else (readNat 0 (c :: text)).1) := by
    rcases signed with rfl | rfl | rfl
    · have start := @dropWhile_blank [] text c (fun _ none => absurd none List.not_mem_nil) solid
      rw [List.nil_append] at start ⊢
      rw [scanInt, start]
      simp [one, minus, plus]
    · simp [scanInt, isspace, one]
    · simp [scanInt, isspace, one]
  have value : ∀ i : Int, -2 ^ 31 ≤ i ∧ i < 2 ^ 31 → max (-2 ^ 63) (min i (2 ^ 63 - 1)) = i := by
    intro i
    omega
  rw [strtol]
  generalize scanInt (sign ++ c :: text) = found at scanned
  obtain ⟨⟨i, rest⟩, rfl, same⟩ := Option.map_eq_some_iff.mp scanned
  rw [Option.map_some]
  dsimp only at same ⊢
  rw [same, value _ fits]

/-- Hexadecimal digits are a number, which is cut off where it does not fit. -/
theorem strtoulHex_hexadecimal {digits : List Char} (some : digits ≠ [])
    (hexadecimal : ∀ c ∈ digits, isxdigit c = true) :
    strtoulHex digits =
      Option.some (if 2 ^ 64 ≤ hexValue digits then 2 ^ 64 - 1 else (hexValue digits : Int)) := by
  obtain ⟨c, text, rfl⟩ := List.exists_cons_of_ne_nil some
  have solid : isspace c = false := isspace_of_isxdigit (hexadecimal c (.head _))
  have minus : c ≠ '-' := by
    rintro rfl
    exact absurd (hexadecimal _ (.head _)) (by decide)
  have plus : c ≠ '+' := by
    rintro rfl
    exact absurd (hexadecimal _ (.head _)) (by decide)
  have start := @dropWhile_blank [] text c (fun _ none => absurd none List.not_mem_nil) solid
  rw [List.nil_append] at start
  have taken : (c :: text).takeWhile isxdigit = c :: text :=
    List.takeWhile_eq_self_iff.mpr hexadecimal
  have value : (if c :: text = [] then none
      else if 2 ^ 64 ≤ hexValue (c :: text) then Option.some (2 ^ 64 - 1 : Int)
      else if false = true then Option.some ((2 ^ 64 - hexValue (c :: text) : Int) % 2 ^ 64)
      else Option.some (hexValue (c :: text) : Int)) =
      Option.some (if 2 ^ 64 ≤ hexValue (c :: text) then 2 ^ 64 - 1
        else (hexValue (c :: text) : Int)) := by
    rw [if_neg some, if_neg Bool.false_ne_true]
    split <;> rfl
  rw [strtoulHex, start]
  dsimp only
  split
  next first => exact absurd (List.cons.inj first).1 minus
  next first => exact absurd (List.cons.inj first).1 plus
  next =>
    split
    next x d rest form =>
      -- No digit is an `x`.
      have digit : isxdigit x = true := hexadecimal x (form ▸ .tail _ (.head _))
      have other : ¬((x = 'x' ∨ x = 'X') ∧ isxdigit d = true) := by
        rintro ⟨rfl | rfl, -⟩ <;> cases digit
      simp only [if_neg other]
      rw [taken]
      exact value
    next =>
      rw [taken]
      exact value

theorem strtoulHex_digits (numeral : HexNumeral) :
    strtoulHex numeral.digits = some (hexValue numeral.digits : Int) := by
  have small := numeral.fits
  rw [strtoulHex_hexadecimal numeral.some numeral.hexadecimal, if_neg (by omega)]

theorem toInt_ofInt {i : Int} (fits : -2 ^ 31 ≤ i ∧ i < 2 ^ 31) : (Int32.ofInt i).toInt = i :=
  Int32.toInt_ofInt_of_le fits.1 fits.2

/-! ### One conversion -/

theorem convert_field {blank : List Char} (blanks : ∀ b ∈ blank, isspace b = true)
    {conversion : Char} {field : Field} (suits : Matches conversion field)
    (read : field = .absent → conversion = 's') (rest : Option (List Char)) :
    ∃ store left, convert conversion (blank ++ (field.text ++ behind rest)) = (store, true, left) ∧
      (∀ v, wanted conversion field = some v → store = some v) ∧
        ∀ more, rest = some more → left = some more := by
  obtain ⟨left, next, goesOn⟩ := nextTok_field blanks field rest
  cases suits with
  | d numeral =>
    have back : (Int32.ofInt numeral.value).toInt = numeral.value := toInt_ofInt numeral.fits
    have value := strtol_numeral numeral
    refine ⟨_, left, ?_, fun v same => same, goesOn⟩
    rw [convert, if_pos rfl, nextInt, nextIntBase, next]
    change (some (Stored.int (Int32.ofInt ((strtol (numeral.sign ++ numeral.digits)).getD 0)).toInt),
      (strtol (numeral.sign ++ numeral.digits)).isSome, left) = _
    rw [value, Option.getD_some, back]
    rfl
  | x numeral =>
    have small := numeral.fits
    have back : (Int32.ofInt (hexValue numeral.digits)).toInt = hexValue numeral.digits :=
      toInt_ofInt (by omega)
    have value := strtoulHex_digits numeral
    refine ⟨_, left, ?_, fun v same => same, goesOn⟩
    rw [convert, if_neg (by decide), if_pos rfl, nextHexInt, nextIntBase, next]
    change (some (Stored.int (Int32.ofInt ((strtoulHex numeral.digits).getD 0)).toInt),
      (strtoulHex numeral.digits).isSome, left) = _
    rw [value, Option.getD_some, back]
    rfl
  | b numeral boolean =>
    have back : (Int32.ofInt numeral.value).toInt = numeral.value := toInt_ofInt numeral.fits
    have value := strtol_numeral numeral
    have read : nextInt (blank ++ ((Field.int numeral).text ++ behind rest)) =
        (numeral.value, true, left) := by
      rw [nextInt, nextIntBase, next]
      change ((Int32.ofInt ((strtol (numeral.sign ++ numeral.digits)).getD 0)).toInt,
        (strtol (numeral.sign ++ numeral.digits)).isSome, left) = _
      rw [value, Option.getD_some, back]
      rfl
    refine ⟨_, left, ?_, fun v same => same, goesOn⟩
    rw [convert, if_neg (by decide), if_neg (by decide), if_pos rfl, nextBool, read]
    dsimp only
    rw [if_pos ⟨rfl, boolean⟩]
    rfl
  | s quotable =>
    refine ⟨_, left, ?_, fun v same => same, goesOn⟩
    rw [convert, if_neg (by decide), if_neg (by decide), if_neg (by decide), if_pos rfl, next]
    rfl
  | absent known =>
    obtain rfl := read rfl
    have nothing : wanted 's' .absent = none := rfl
    refine ⟨some (.str ['-']), left, ?_, fun v same => ?_, goesOn⟩
    · rw [convert, if_neg (by decide), if_neg (by decide), if_neg (by decide), if_pos rfl, next]
      rfl
    · rw [nothing] at same
      cases same

/-- A placeholder is no number. -/
theorem convert_absent {blank : List Char} (blanks : ∀ b ∈ blank, isspace b = true)
    {conversion : Char} (suits : Matches conversion .absent) (other : conversion ≠ 's')
    (rest : Option (List Char)) :
    ∃ store left, convert conversion (blank ++ (Field.absent.text ++ behind rest)) =
      (store, false, left) := by
  obtain ⟨left, next, -⟩ := nextTok_field blanks .absent rest
  have decimal : strtol ['-'] = none := by decide
  have hexadecimal : strtoulHex ['-'] = none := by decide
  have read : nextInt (blank ++ (Field.absent.text ++ behind rest)) = (0, false, left) := by
    rw [nextInt, nextIntBase, next]
    change ((Int32.ofInt ((strtol ['-']).getD 0)).toInt, (strtol ['-']).isSome, left) = _
    rw [decimal]
    rfl
  cases suits with
  | absent known =>
    simp only [List.mem_cons, List.not_mem_nil, or_false] at known
    rcases known with rfl | rfl | rfl | rfl
    · refine ⟨some (.int 0), left, ?_⟩
      rw [convert, if_pos rfl, read]
    · refine ⟨some (.int 0), left, ?_⟩
      rw [convert, if_neg (by decide), if_pos rfl, nextHexInt, nextIntBase, next]
      change (some (Stored.int (Int32.ofInt ((strtoulHex ['-']).getD 0)).toInt),
        (strtoulHex ['-']).isSome, left) = _
      rw [hexadecimal]
      rfl
    · refine ⟨none, left, ?_⟩
      rw [convert, if_neg (by decide), if_neg (by decide), if_pos rfl, nextBool, read]
      rfl
    · exact absurd rfl other

/-- Only a placeholder looks like one. -/
theorem not_placeholder {field : Field} (other : field ≠ .absent) (tail : List Char) :
    (field.text ++ tail).take 2 ≠ ['-', ','] := by
  cases field with
  | absent => exact absurd rfl other
  | str quotable => simp [Field.text]
  | hex numeral =>
    obtain ⟨digits, some, hexadecimal, fits⟩ := numeral
    obtain ⟨c, text, rfl⟩ := List.exists_cons_of_ne_nil some
    intro same
    have first : c = '-' := (List.cons.inj same).1
    subst first
    exact absurd (hexadecimal _ (.head _)) (by decide)
  | int numeral =>
    obtain ⟨sign, digits, signed, some, decimal, fits⟩ := numeral
    obtain ⟨c, text, rfl⟩ := List.exists_cons_of_ne_nil some
    have one : isDigit c = true := decimal c (.head _)
    have minus : c ≠ '-' := ne_of_isDigit one rfl
    have comma : c ≠ ',' := ne_of_isDigit one rfl
    rcases signed with rfl | rfl | rfl <;> simp [Field.text, minus, comma]

theorem text_ne_nil (field : Field) : field.text ≠ [] := by
  cases field with
  | int numeral => exact List.append_ne_nil_of_right_ne_nil _ numeral.some
  | hex numeral => exact numeral.some
  | str quotable => exact List.cons_ne_nil _ _
  | absent => exact List.cons_ne_nil _ _

section

variable {blank : List Char} (blanks : blank = [] ∨ blank = [' ']) {conversion : Char}
  {field : Field} (suits : Matches conversion field) (rest : Option (List Char))

include blanks

theorem isspace_blank : ∀ b ∈ blank, isspace b = true := by
  rcases blanks with rfl | rfl
  · exact fun _ none => absurd none List.not_mem_nil
  · intro b member
    cases List.mem_singleton.mp member
    rfl

include suits

/-- A field is taken, unless it is a placeholder at the wrong place. -/
theorem take_field
    (recognised : field = .absent → conversion = 's' ∨ (blank = [] ∧ ∃ more, rest = some more)) :
    ∃ store left, take conversion (blank ++ (field.text ++ behind rest)) = (store, true, left) ∧
      (∀ v, wanted conversion field = some v → store = some v) ∧
        ∀ more, rest = some more → left = some more := by
  rw [take]
  split
  next looks =>
    -- The look-ahead has found the placeholder and its comma.
    have same : field = .absent := by
      by_contra other
      rcases blanks with rfl | rfl
      · exact not_placeholder other _ looks
      · exact absurd looks (by simp)
    subst same
    rcases blanks with rfl | rfl
    · cases rest with
      | none => cases looks
      | some more =>
        refine ⟨_, _, rfl, ?_, fun _ same => same⟩
        cases suits with
        | absent known =>
          simp only [List.mem_cons, List.not_mem_nil, or_false] at known
          rcases known with rfl | rfl | rfl | rfl <;> simp [wanted]
    · cases looks
  next plain =>
    apply convert_field (isspace_blank blanks) suits
    rintro rfl
    rcases recognised rfl with read | ⟨rfl, more, rfl⟩
    · exact read
    · exact absurd rfl plain

end

/-- A placeholder at the wrong place ends the scan. -/
theorem take_absent {blank : List Char} (blanks : blank = [] ∨ blank = [' ']) {conversion : Char}
    (suits : Matches conversion .absent) (other : conversion ≠ 's') (rest : Option (List Char))
    (hidden : ¬(blank = [] ∧ ∃ more, rest = some more)) :
    ∃ store left, take conversion (blank ++ (Field.absent.text ++ behind rest)) =
      (store, false, left) := by
  have unseen : (blank ++ (Field.absent.text ++ behind rest)).take 2 ≠ ['-', ','] := by
    rcases blanks with rfl | rfl
    · cases rest with
      | none => decide
      | some more => exact absurd ⟨rfl, more, rfl⟩ hidden
    · simp
  rw [take, if_neg unseen]
  exact convert_absent (isspace_blank blanks) suits other rest

/-! ### The loop -/

theorem inverts_counted {conversion : Char} {conversions : List Char} {field : Field}
    {fields : List Field} {store : Option Stored} {result : Result} :
    Inverts (conversion :: conversions) (field :: fields) (result.counted store) ↔
      (∀ v, wanted conversion field = some v → store = some v) ∧ Inverts conversions fields result := by
  simp only [Inverts, Result.counted, List.length_cons, Nat.add_right_cancel_iff,
    List.zipWith_cons_cons]
  constructor
  · rintro ⟨count, stores⟩
    refine ⟨fun v same => ?_, count, fun i v same => ?_⟩
    · have first := stores 0 v (by simpa using same)
      simpa using first
    · have next := stores (i + 1) v (by simpa using same)
      simpa using next
  · rintro ⟨first, count, stores⟩
    refine ⟨count, fun i v same => ?_⟩
    cases i with
    | zero => simpa using first v (by simpa using same)
    | succ i => simpa using stores i v (by simpa using same)

theorem matched_nil {conversions : List Char} (matched : Matched conversions []) :
    conversions = [] := by
  cases matched
  rfl

/-- One turn of the loop. -/
theorem inverts_take {blank : List Char} (blanks : blank = [] ∨ blank = [' ']) {conversion : Char}
    {conversions : List Char} {field : Field} {fields : List Field}
    (suits : Matches conversion field) (matched : Matched conversions fields) :
    Inverts (conversion :: conversions) (field :: fields)
        (takeAll (conversion :: conversions) (some (blank ++ joined (field :: fields)))) ↔
      (field = .absent → conversion = 's' ∨ (blank = [] ∧ fields ≠ [])) ∧
        Inverts conversions fields (takeAll conversions (later fields)) := by
  have follows : fields ≠ [] ↔ ∃ more, later fields = some more := by
    cases fields with
    | nil => simp [later]
    | cons next fields => simp [later]
  have some : blank ++ joined (field :: fields) ≠ [] := by
    rw [joined_cons]
    exact List.append_ne_nil_of_right_ne_nil _
      (List.append_ne_nil_of_left_ne_nil (text_ne_nil field) _)
  rw [joined_cons] at some ⊢
  by_cases recognised : field = .absent → conversion = 's' ∨ (blank = [] ∧ fields ≠ [])
  · rw [and_iff_right recognised]
    rw [follows] at recognised
    obtain ⟨store, left, taken, stored, goesOn⟩ := take_field blanks suits (later fields) recognised
    rw [takeAll_true taken some, inverts_counted, and_iff_right stored]
    cases fields with
    | nil =>
      cases matched_nil matched
      rfl
    | cons next fields => rw [goesOn _ rfl, later]
  · -- The scan ends here, with one conversion too few.
    refine ⟨fun inverts => ?_, fun both => absurd both.1 recognised⟩
    obtain ⟨same, hidden⟩ := Classical.not_imp.mp recognised
    subst same
    rw [not_or, follows] at hidden
    obtain ⟨store, left, taken⟩ := take_absent blanks suits hidden.1 (later fields) hidden.2
    rw [takeAll_false taken some] at inverts
    exact absurd inverts.1 (Nat.succ_ne_zero _).symm

theorem lastRecognised_cons {conversion : Char} {conversions : List Char} {field : Field}
    {fields : List Field} (matched : Matched conversions fields) :
    LastRecognised (conversion :: conversions) (field :: fields) ↔
      (field = .absent → conversion = 's' ∨ fields ≠ []) ∧ LastRecognised conversions fields := by
  cases fields with
  | nil =>
    cases matched_nil matched
    simp [LastRecognised]
  | cons next fields =>
    rw [and_iff_right fun _ => .inr (List.cons_ne_nil _ _)]
    cases matched with
    | beyond => simp [LastRecognised]
    | field here rest =>
      simp only [LastRecognised, List.length_cons, Nat.add_right_cancel_iff, List.getLast?_cons_cons]

/-- Without a conversion nothing is to be recognised. -/
theorem inverts_nil (fields : List Field) :
    Inverts [] fields {} ∧ LastRecognised [] fields := by
  refine ⟨⟨rfl, fun i v same => by simp at same⟩, fun same last => ?_⟩
  rw [List.length_eq_zero_iff.mp same] at last
  cases last

/-- The fields after the first: only a placeholder at the end of the line is not recognised. -/
theorem inverts_later {conversions : List Char} {fields : List Field}
    (matched : Matched conversions fields) :
    Inverts conversions fields (takeAll conversions (later fields)) ↔
      LastRecognised conversions fields := by
  induction matched with
  | beyond fields => exact iff_of_true (inverts_nil fields).1 (inverts_nil fields).2
  | field here rest ih =>
    have turn := inverts_take (.inl rfl) here rest
    rw [List.nil_append] at turn
    rw [later, turn, ih, lastRecognised_cons rest]
    simp

/-- A line that fits is scanned from the blank behind its colon on. -/
theorem atTokScanf_line {lead fmt conversions text : List Char} (free : ':' ∉ lead)
    (short : (lead ++ ':' :: text).length ≤ 1023) (spells : Spells fmt conversions) :
    atTokScanf (lead ++ ':' :: text) fmt = takeAll conversions (some text) := by
  rw [atTokScanf, List.take_of_length_le short, atTokStart, strsep_token free]
  exact scan_spells spells _

/-- The scanner inverts the format of the lines exactly if no placeholder that it has to recognise
stands first or at the end of the line. -/
theorem scanf_inverts_iff {lead fmt conversions : List Char} {fields : List Field}
    (free : ':' ∉ lead) (short : (lead ++ ':' :: ' ' :: joined fields).length ≤ 1023)
    (spells : Spells fmt conversions) (matched : Matched conversions fields) :
    Inverts conversions fields (atTokScanf (lead ++ ':' :: ' ' :: joined fields) fmt) ↔
      Recognised conversions fields := by
  rw [atTokScanf_line free short spells, Recognised]
  cases matched with
  | beyond fields =>
    refine iff_of_true (inverts_nil fields).1 ⟨fun _ c none => ?_, (inverts_nil fields).2⟩
    cases none
  | @field conversion conversions field fields here rest =>
    have turn := inverts_take (.inr rfl) here rest
    rw [List.singleton_append] at turn
    rw [turn, inverts_later rest, lastRecognised_cons rest]
    simp only [List.head?_cons, Option.some.injEq, Option.mem_def]
    constructor
    · rintro ⟨first, last⟩
      refine ⟨fun same c other => ?_, fun same => ?_, last⟩
      · rcases first same with read | ⟨none, -⟩
        · exact other ▸ read
        · cases none
      · rcases first same with read | ⟨none, -⟩
        · exact .inl read
        · cases none
    · rintro ⟨first, -, last⟩
      exact ⟨fun same => .inl (first same conversion rfl), last⟩

theorem one_fits : -2 ^ 31 ≤ (if ([] : List Char) = ['-'] then -((readNat 0 ['1']).1 : Int)
      else (readNat 0 ['1']).1) ∧
    (if ([] : List Char) = ['-'] then -((readNat 0 ['1']).1 : Int) else (readNat 0 ['1']).1) <
      2 ^ 31 := by
  decide

theorem one_decimal : ∀ c ∈ ['1'], isDigit c = true := List.forall_mem_singleton.mpr rfl

def one : Numeral := ⟨[], ['1'], .inl rfl, List.cons_ne_nil _ _, one_decimal, one_fits⟩

/-- A placeholder between two fields. -/
theorem netdevctl_placeholder :
    Inverts ['d', 'd', 'd'] [.int one, .absent, .int one]
      (atTokScanf "+QNETDEVCTL: 1,-,1".toList "%d,%d %d".toList) := by
  have spells : Spells "%d,%d %d".toList ['d', 'd', 'd'] :=
    .conversion (.skip (.inl rfl) (.conversion (.skip (.inr rfl) (.conversion .nil))))
  have matched : Matched ['d', 'd', 'd'] [.int one, .absent, .int one] :=
    .field (.d one) (.field (.absent (.head _)) (.field (.d one) (.beyond [])))
  apply (@scanf_inverts_iff "+QNETDEVCTL".toList _ _ _ (by decide) (by decide) spells matched).mpr
  refine ⟨fun first => ?_, fun _ last => ?_⟩
  · cases first
  · cases last

/-- A placeholder at the end of a line, and one at its beginning. -/
theorem placeholder_at_the_ends :
    Spells "%d%d".toList ['d', 'd'] ∧ Matched ['d', 'd'] [.int one, .absent] ∧
      ¬Inverts ['d', 'd'] [.int one, .absent] (atTokScanf "+CGACT: 1,-".toList "%d%d".toList) ∧
      Matched ['d', 'd'] [.absent, .int one] ∧
        ¬Inverts ['d', 'd'] [.absent, .int one] (atTokScanf "+CGACT: -,1".toList "%d%d".toList) := by
  have last : (atTokScanf "+CGACT: 1,-".toList "%d%d".toList).n = 1 := by decide +kernel
  have first : (atTokScanf "+CGACT: -,1".toList "%d%d".toList).n = 0 := by decide +kernel
  refine ⟨.conversion (.conversion .nil), .field (.d one) (.field (.absent (.head _)) (.beyond [])),
    fun inverts => ?_, .field (.absent (.head _)) (.field (.d one) (.beyond [])), fun inverts => ?_⟩
  · exact absurd (last.symm.trans inverts.1) (by decide)
  · exact absurd (first.symm.trans inverts.1) (by decide)

/-! ### The scanner of the addresses -/

def letter : Conversion → Char
  | .d => 'd'
  | .s => 's'

/-- What a conversion that counts has stored, where a text that is not stored is none. -/
def scanned : Option Stored → Scanned
  | some (.int i) => .int i
  | some (.str text) => .str (some text)
  | _ => .str none

/-- What the conversions that count have stored. -/
def Result.kept (result : Result) : List Scanned := (result.stores.take result.n).map scanned

theorem kept_counted (result : Result) (store : Option Stored) :
    (result.counted store).kept = scanned store :: result.kept := rfl

/-- For formats of `%d` and `%s`, the scanner of the addresses is this one. -/
theorem scanTokens_eq (fmt : List Conversion) (line : Option (List Char)) :
    scanTokens fmt line = (takeAll (fmt.map letter) line).kept := by
  induction fmt generalizing line with
  | nil =>
    rw [scanTokens]
    rfl
  | cons conversion fmt ih =>
    rw [List.map_cons]
    rcases line with _ | _ | ⟨c, line⟩
    · cases conversion <;> rfl
    · cases conversion <;> rfl
    · by_cases looks : (c :: line).take 2 = ['-', ',']
      · obtain ⟨rest, form⟩ : ∃ rest, c :: line = '-' :: ',' :: rest :=
          ⟨(c :: line).drop 2, by rw [← List.take_append_drop 2 (c :: line), looks]; simp⟩
        rw [form]
        have taken : take (letter conversion) ('-' :: ',' :: rest) =
            (if letter conversion = 'd' then some (.int (-1)) else none, true, some rest) := if_pos rfl
        rw [takeAll_true taken (List.cons_ne_nil _ _), kept_counted, ← ih]
        cases conversion <;> rw [scanTokens] <;> rfl
      · have plain : ∀ rest, c :: line = '-' :: ',' :: rest → False := by
          rintro rest form
          rw [form] at looks
          exact looks rfl
        cases conversion with
        | s =>
          have taken : take (letter .s) (c :: line) =
              (some (.str (nextTok (c :: line)).1), true, (nextTok (c :: line)).2) := if_neg looks
          rw [takeAll_true taken (List.cons_ne_nil _ _), kept_counted, ← ih, scanTokens]
          · rfl
          · exact fun none => by cases none
          · exact plain
        | d =>
          have taken : take (letter .d) (c :: line) =
              (some (.int (Int32.ofInt ((strtol (nextTok (c :: line)).1).getD 0)).toInt),
                (strtol (nextTok (c :: line)).1).isSome, (nextTok (c :: line)).2) := if_neg looks
          rw [scanTokens]
          · cases value : strtol (nextTok (c :: line)).1 with
            | none =>
              rw [value] at taken
              rw [takeAll_false taken (List.cons_ne_nil _ _)]
              rfl
            | some i =>
              rw [value] at taken
              rw [takeAll_true taken (List.cons_ne_nil _ _), kept_counted, ← ih]
              rfl
          · exact fun none => by cases none
          · exact plain

end LorawanFeeds.AtChannel.Scanf
