import LorawanFeeds.AtChannel.RegistrationState

/-!
# The profile over the AT channel

`requestGetProfile` of `atc.c` asks the modem for the profile of a context with `AT+QICSGP`, and with
`AT+CGDCONT?` where the modem refuses. `requestSetProfile` compares what has been found with the
profile that is wanted, and writes it where the two differ.
-/
namespace LorawanFeeds.AtChannel.ProfileRequest

open Lib CText IpConfig Scanf
open RegistrationState (Line storedInt)

/-! ### Texts -/

def zero : Char := Char.ofNat 0

/-- What the functions of C see of a text. -/
def seen (text : List Char) : List Char := text.takeWhile (· ≠ zero)

/-- `strncpy` into a buffer of this size. -/
def strncpy (size : Nat) (text : List Char) : List Char :=
  (seen text).take size ++ List.replicate (size - (seen text).length) zero

/-- Two texts are the same to `strcasecmp`. -/
def sameCase (a b : List Char) : Bool := (seen a).map Char.toLower = (seen b).map Char.toLower

/-! ### The code -/

def ipStr : List (List Char) := ["NULL".toList, "IPV4".toList, "IPV6".toList, "IPV4V6".toList]

/-- What these functions use of `PROFILE_T`; the buffers of the old texts have 64 bytes. -/
structure Profile where
  pdp : Int
  apn : Option (List Char)
  user : Option (List Char)
  password : Option (List Char)
  auth : Int
  enableIpv4 : Bool
  enableIpv6 : Bool
  iptype : Int
  oldApn : List Char
  oldUser : List Char
  oldPassword : List Char
  oldAuth : Int
  oldIptype : Int
  deriving DecidableEq, Repr

inductive Command where
  | qicsgp (pdp iptype : Int) (apn user password : List Char) (auth : Int)
  | cgdcont (pdp : Int) (ip apn : List Char)
  deriving DecidableEq, Repr

/-- `requestSetProfile`: what it returns, and the commands that it sends. The first of them may be
refused. -/
def requestSetProfile (refused : Bool) (profile : Profile) : Int × List Command :=
  let newApn := profile.apn.getD []
  let newUser := profile.user.getD []
  let newPassword := profile.password.getD []
  if seen profile.oldApn = seen newApn ∧ seen profile.oldUser = seen newUser ∧
      seen profile.oldPassword = seen newPassword ∧ profile.oldIptype = profile.iptype ∧
      profile.oldAuth = profile.auth then (0, [])
  else
    (1, .qicsgp profile.pdp profile.iptype newApn newUser newPassword profile.auth ::
      if refused then [.cgdcont profile.pdp (ipStr.getD profile.iptype.toNat []) newApn] else [])

/-- The answer to `AT+QICSGP`. -/
inductive Query where
  /-- A success without a line, which is `AT_ERROR_INVALID_RESPONSE`. -/
  | invalid
  | failed
  | line (line : Line)
  deriving DecidableEq, Repr

/-- The modem, by its answers. A query is numbered by how often the modem has been asked before. -/
structure Modem where
  qicsgp : Nat → Query
  /-- Whether the empty profile that is written after the query is taken. -/
  cleared : Nat → Bool
  /-- The lines of the answer to `AT+CGDCONT?`, if it is successful. -/
  cgdcont : Option (List Line)

/-- What a look-up must not do. -/
inductive Fault where
  | uninitialised
  | nullPointer
  deriving DecidableEq, Repr

/-- The variables that go into the profile. -/
structure Old where
  iptype : Int := 1
  apn : Option (List Char) := some []
  user : Option (List Char) := some []
  password : Option (List Char) := some []
  auth : Int := 0
  deriving DecidableEq, Repr

/-- The text that the conversion at a place has stored. -/
def storedStr (result : Result) (place : Nat) (old : Option (List Char)) : Option (List Char) :=
  match result.stores[place]? with
  | some (some (.str text)) => some text
  | _ => old

/-- Whether the modem has answered the query with a line. -/
inductive Answer where
  | line (line : Line)
  | refused
  deriving DecidableEq, Repr

/-- The loop of `_re_check`, from the query with this number on. -/
def reCheck (modem : Modem) : Nat → Nat → Option Answer
  | 0, _ => none
  | fuel + 1, k =>
    match modem.qicsgp k with
    | .line line => some (.line line)
    | .failed => some .refused
    | .invalid => if modem.cleared k then reCheck modem fuel (k + 1) else some .refused

/-- The scan of a line of `+QICSGP`. -/
def scanQicsgp (line : Line) : Result := Scanf.atTokScanf line "%d%s%s%s%d".toList

def readQicsgp (line : Line) : Except Fault (Int × Old) :=
  let result := scanQicsgp line
  -- After four conversions the code goes on to `pdp`, which nothing has been stored in.
  if result.n ≠ 4 then
    .ok (-1, {
      iptype := storedInt result 0 1
      apn := storedStr result 1 (some [])
      user := storedStr result 2 (some [])
      password := storedStr result 3 (some [])
      auth := storedInt result 4 0 })
  else .error .uninitialised

def iptypeOf (text : List Char) : Int :=
  if sameCase text (ipStr.getD 3 []) then 3
  else if sameCase text (ipStr.getD 2 []) then 2
  else 1

/-- The scan of a line of `+CGDCONT`. -/
def scanCgdcont (line : Line) : Result := Scanf.atTokScanf line "%d%s%s".toList

/-- The loop over the lines of `+CGDCONT`, with `cgdcont_iptype` and `old_apn`. A pointer into the scan
buffer that an earlier line has left finds the text `stale` there. -/
def readCgdcont (stale : List Char) (pdp : Int) :
    List Line → Option (List Char) → Option (List Char) → Except Fault Old
  | [], _, oldApn => .ok { apn := oldApn }
  | line :: lines, cgdcontIptype, oldApn =>
    let result := scanCgdcont line
    let iptype := storedStr result 1 (cgdcontIptype.map fun _ => stale)
    let apn := storedStr result 2 oldApn
    if result.n = 3 ∧ storedInt result 0 0 = pdp then
      match iptype with
      | some text => .ok { iptype := iptypeOf text, apn := apn }
      | none => .error .nullPointer
    else readCgdcont stale pdp lines iptype none

/-- From the answer to the first command up to `_error`: `retVal` and the variables. -/
def lookup (stale : List Char) (modem : Modem) (pdp : Int) : Answer → Except Fault (Int × Old)
  | .line line => readQicsgp line
  | .refused =>
    match modem.cgdcont with
    | none => .ok (-1, {})
    | some lines => (readCgdcont stale pdp lines none (some [])).map fun old => (0, old)

/-- The type of the addresses that are wanted. -/
def wantedIptype (profile : Profile) : Int :=
  if profile.enableIpv4 ∧ profile.enableIpv6 then 3
  else if profile.enableIpv6 then 2
  else 1

/-- What follows `_error`. -/
def store (profile : Profile) (found : Int × Old) : Int × Profile :=
  (found.1, { profile with
    iptype := wantedIptype profile
    oldApn := strncpy 64 (found.2.apn.getD [])
    oldUser := strncpy 64 (found.2.user.getD [])
    oldPassword := strncpy 64 (found.2.password.getD [])
    oldAuth := found.2.auth
    oldIptype := found.2.iptype })

/-- `requestGetProfile`, with a bound for how often the modem is asked. -/
def requestGetProfile (stale : List Char) (modem : Modem) (fuel : Nat) (profile : Profile) :
    Option (Except Fault (Int × Profile)) :=
  (reCheck modem fuel 0).map fun answer => (lookup stale modem profile.pdp answer).map (store profile)

/-! ### What a look-up has to do -/

/-- The old texts end inside their buffers, and `ipStr` has an entry for the old type. -/
structure Stored (profile : Profile) : Prop where
  apn : zero ∈ profile.oldApn
  user : zero ∈ profile.oldUser
  password : zero ∈ profile.oldPassword
  iptype : 0 ≤ profile.oldIptype ∧ profile.oldIptype ≤ 3

/-- A text of a complete line. -/
structure ShortText extends Quotable where
  short : text.length < 64
  whole : zero ∉ text

/-- A complete line of `+QICSGP`. -/
structure CompleteLine where
  iptype : Numeral
  apn : ShortText
  user : ShortText
  password : ShortText
  auth : Numeral
  known : 1 ≤ iptype.value ∧ iptype.value ≤ 3
  short : ("+QICSGP".toList ++ ':' :: ' ' :: joined [.int iptype, .str apn.toQuotable,
    .str user.toQuotable, .str password.toQuotable, .int auth]).length ≤ 1023

def CompleteLine.line (complete : CompleteLine) : Line :=
  "+QICSGP".toList ++ ':' :: ' ' :: joined [.int complete.iptype, .str complete.apn.toQuotable,
    .str complete.user.toQuotable, .str complete.password.toQuotable, .int complete.auth]

/-- The old profile is the one of the line. -/
structure OldIs (profile : Profile) (complete : CompleteLine) : Prop where
  iptype : profile.oldIptype = complete.iptype.value
  apn : seen profile.oldApn = complete.apn.text
  user : seen profile.oldUser = complete.user.text
  password : seen profile.oldPassword = complete.password.text
  auth : profile.oldAuth = complete.auth.value

/-- The profile that is wanted is the one of the line. -/
structure WantedIs (profile : Profile) (complete : CompleteLine) : Prop where
  iptype : profile.iptype = complete.iptype.value
  apn : seen (profile.apn.getD []) = complete.apn.text
  user : seen (profile.user.getD []) = complete.user.text
  password : seen (profile.password.getD []) = complete.password.text
  auth : profile.auth = complete.auth.value

/-- After a complete line: the profile is written if it differs, and only then. -/
structure Faithful (after : Int × Profile) (complete : CompleteLine) : Prop where
  returned : after.1 = 0
  old : OldIs after.2 complete
  written : ∀ refused, (requestSetProfile refused after.2).2 ≠ [] ↔ ¬WantedIs after.2 complete

/-- The modem is asked again. -/
def Again (modem : Modem) (k : Nat) : Prop := modem.qicsgp k = .invalid ∧ modem.cleared k = true

/-- The modem is asked as often as this. -/
def Reached (modem : Modem) (k : Nat) : Prop := ∀ j < k, Again modem j

/-- The look-up ends, without a fault, with a profile that can be used. -/
def Sound (stale : List Char) (modem : Modem) (profile : Profile) : Prop :=
  ∃ fuel after, requestGetProfile stale modem fuel profile = some (.ok after) ∧ Stored after.2 ∧
    ∀ k complete, Reached modem k → modem.qicsgp k = .line complete.line → Faithful after complete

/-! ### Where it does -/

/-- This is the answer to the query. -/
def Answered (modem : Modem) (k : Nat) : Answer → Prop
  | .line line => modem.qicsgp k = .line line
  | .refused => modem.qicsgp k = .failed ∨ (modem.qicsgp k = .invalid ∧ modem.cleared k = false)

/-- A text that has been stored is short. -/
def ShortAt (result : Result) (place : Nat) : Prop :=
  ∀ text, result.stores[place]? = some (some (.str text)) → (seen text).length < 64

/-- A line of `+QICSGP` that is not complete, of which not just four values are scanned, whose type has
a name and whose texts are short. -/
structure PlainLine (line : Line) : Prop where
  incomplete : ∀ complete : CompleteLine, line ≠ complete.line
  count : (scanQicsgp line).n ≠ 4
  iptype : ∀ i, (scanQicsgp line).stores[0]? = some (some (.int i)) → 0 ≤ i ∧ i ≤ 3
  apn : ShortAt (scanQicsgp line) 1
  user : ShortAt (scanQicsgp line) 2
  password : ShortAt (scanQicsgp line) 3

/-- A line of `+CGDCONT` for this context. -/
def OfContext (pdp : Int) (line : Line) : Prop :=
  (scanCgdcont line).n = 3 ∧ storedInt (scanCgdcont line) 0 0 = pdp

/-- A type has been stored. -/
def HasIptype (line : Line) : Prop := ∃ text, (scanCgdcont line).stores[1]? = some (some (.str text))

/-- In the first line of the context the name is short, and a type has been stored there or before. -/
def PlainLines (pdp : Int) (typed : Prop) (lines : List Line) : Prop :=
  ∀ before line rest, lines = before ++ line :: rest → (∀ l ∈ before, ¬OfContext pdp l) →
    OfContext pdp line → ShortAt (scanCgdcont line) 2 ∧ (typed ∨ ∃ l ∈ before ++ [line], HasIptype l)

/-- The answers that a look-up can do with. -/
def Plain (modem : Modem) (pdp : Int) : Answer → Prop
  | .line line => PlainLine line
  | .refused => ∀ lines, modem.cgdcont = some lines → PlainLines pdp False lines

/-! ### The buffers -/

theorem zero_notMem_seen (text : List Char) : zero ∉ seen text := by
  intro member
  have other := List.mem_takeWhile_imp member
  simp at other

theorem seen_eq_self {text : List Char} (whole : zero ∉ text) : seen text = text := by
  rw [seen, List.takeWhile_eq_self_iff]
  intro c member
  rw [decide_eq_true_eq]
  rintro rfl
  exact whole member

/-- A text is ended inside the buffer exactly if it leaves room for its end. -/
theorem zero_mem_strncpy {size : Nat} {text : List Char} :
    zero ∈ strncpy size text ↔ (seen text).length < size := by
  have free : zero ∉ (seen text).take size := fun member =>
    zero_notMem_seen text (List.mem_of_mem_take member)
  rw [strncpy, List.mem_append, or_iff_right free, List.mem_replicate, and_iff_left rfl]
  omega

theorem length_strncpy (size : Nat) (text : List Char) : (strncpy size text).length = size := by
  rw [strncpy, List.length_append, List.length_take, List.length_replicate]
  omega

/-- A short text is read back. -/
theorem seen_strncpy {size : Nat} {text : List Char} (short : (seen text).length < size) :
    seen (strncpy size text) = seen text := by
  have all : ∀ c ∈ seen text, decide (c ≠ zero) = true := by
    intro c member
    rw [decide_eq_true_eq]
    rintro rfl
    exact zero_notMem_seen text member
  obtain ⟨room, left⟩ : ∃ room, size - (seen text).length = room + 1 :=
    ⟨size - (seen text).length - 1, by omega⟩
  rw [strncpy, List.take_of_length_le (by omega), left, List.replicate_succ, seen,
    List.takeWhile_append_of_pos all, List.takeWhile_cons_of_neg (by simp), List.append_nil]

/-! ### What is stored -/

theorem storedInt_iff {result : Result} {place : Nat} {old : Int} {P : Int → Prop} (start : P old) :
    P (storedInt result place old) ↔
      ∀ i, result.stores[place]? = some (some (.int i)) → P i := by
  rw [storedInt]
  split
  next i found => simp [found]
  next other => exact iff_of_true start fun i found => absurd found (other i)

theorem shortAt_iff {result : Result} {place : Nat} {old : Option (List Char)}
    (start : (seen (old.getD [])).length < 64) :
    (seen ((storedStr result place old).getD [])).length < 64 ↔ ShortAt result place := by
  rw [storedStr, ShortAt]
  split
  next text found => simp [found]
  next other => exact iff_of_true start fun text found => absurd found (other text)

theorem stored_iff {profile : Profile} {found : Int × Old} :
    Stored (store profile found).2 ↔ (seen (found.2.apn.getD [])).length < 64 ∧
      (seen (found.2.user.getD [])).length < 64 ∧ (seen (found.2.password.getD [])).length < 64 ∧
        0 ≤ found.2.iptype ∧ found.2.iptype ≤ 3 := by
  constructor
  · rintro ⟨apn, user, password, iptype⟩
    exact ⟨zero_mem_strncpy.mp apn, zero_mem_strncpy.mp user, zero_mem_strncpy.mp password, iptype⟩
  · rintro ⟨apn, user, password, iptype⟩
    exact ⟨zero_mem_strncpy.mpr apn, zero_mem_strncpy.mpr user, zero_mem_strncpy.mpr password, iptype⟩

/-- Nothing is written behind the buffers. -/
theorem length_store (profile : Profile) (found : Int × Old) :
    (store profile found).2.oldApn.length = 64 ∧ (store profile found).2.oldUser.length = 64 ∧
      (store profile found).2.oldPassword.length = 64 :=
  ⟨length_strncpy 64 _, length_strncpy 64 _, length_strncpy 64 _⟩

/-! ### A complete line -/

/-- Everything in a complete line is scanned. -/
theorem scanQicsgp_complete (complete : CompleteLine) :
    (scanQicsgp complete.line).n = 5 ∧
      (scanQicsgp complete.line).stores[0]? = some (some (.int complete.iptype.value)) ∧
      (scanQicsgp complete.line).stores[1]? = some (some (.str complete.apn.text)) ∧
      (scanQicsgp complete.line).stores[2]? = some (some (.str complete.user.text)) ∧
      (scanQicsgp complete.line).stores[3]? = some (some (.str complete.password.text)) ∧
      (scanQicsgp complete.line).stores[4]? = some (some (.int complete.auth.value)) := by
  have spells : Spells "%d%s%s%s%d".toList ['d', 's', 's', 's', 'd'] :=
    .conversion (.conversion (.conversion (.conversion (.conversion .nil))))
  have matched : Matched ['s', 's', 's', 'd'] [.str complete.apn.toQuotable,
      .str complete.user.toQuotable, .str complete.password.toQuotable, .int complete.auth] :=
    .field (.s _) (.field (.s _) (.field (.s _) (.field (.d _) (.beyond []))))
  have ends : LastRecognised ['s', 's', 's', 'd'] [.str complete.apn.toQuotable,
      .str complete.user.toQuotable, .str complete.password.toQuotable, .int complete.auth] := by
    intro _ last
    have absent : Field.int complete.auth = .absent := Option.some.inj last
    cases absent
  have inverts := (inverts_take (.inr rfl) (.d complete.iptype) matched).mpr
    ⟨(fun absent => by cases absent), (inverts_later matched).mpr ends⟩
  rw [List.singleton_append] at inverts
  have free : ':' ∉ "+QICSGP".toList := by decide
  have scanned : scanQicsgp complete.line = _ := atTokScanf_line free complete.short spells
  rw [scanned]
  obtain ⟨count, stores⟩ := inverts
  exact ⟨count, stores 0 _ rfl, stores 1 _ rfl, stores 2 _ rfl, stores 3 _ rfl, stores 4 _ rfl⟩

/-- The variables after a complete line. -/
def CompleteLine.old (complete : CompleteLine) : Old where
  iptype := complete.iptype.value
  apn := some complete.apn.text
  user := some complete.user.text
  password := some complete.password.text
  auth := complete.auth.value

/-- A complete line is taken for an error. -/
theorem readQicsgp_complete (complete : CompleteLine) :
    readQicsgp complete.line = .ok (-1, complete.old) := by
  obtain ⟨count, iptype, apn, user, password, auth⟩ := scanQicsgp_complete complete
  rw [readQicsgp, if_pos (by omega), storedInt, storedStr, storedStr, storedStr, storedInt, iptype, apn, user,
    password, auth]
  rfl

theorem ShortText.seen_strncpy (text : ShortText) : seen (strncpy 64 text.text) = text.text := by
  have self := seen_eq_self text.whole
  rw [ProfileRequest.seen_strncpy (self.symm ▸ text.short), self]

/-- But its fields are stored, and so the profile is written exactly if it differs. -/
theorem written_after_complete (profile : Profile) (complete : CompleteLine) (refused : Bool) :
    OldIs (store profile (-1, complete.old)).2 complete ∧
      ((requestSetProfile refused (store profile (-1, complete.old)).2).2 ≠ [] ↔
        ¬WantedIs (store profile (-1, complete.old)).2 complete) := by
  have old : OldIs (store profile (-1, complete.old)).2 complete :=
    ⟨rfl, complete.apn.seen_strncpy, complete.user.seen_strncpy, complete.password.seen_strncpy, rfl⟩
  refine ⟨old, ?_⟩
  obtain ⟨iptype, apn, user, password, auth⟩ := old
  rw [requestSetProfile, apn, user, password, iptype, auth]
  split
  next same =>
    obtain ⟨apn, user, password, iptype, auth⟩ := same
    refine iff_of_false (fun none => none rfl) fun differs => differs ?_
    exact ⟨iptype.symm, apn.symm, user.symm, password.symm, auth.symm⟩
  next differs =>
    refine iff_of_true (List.cons_ne_nil _ _) fun wanted => differs ?_
    exact ⟨wanted.apn.symm, wanted.user.symm, wanted.password.symm, wanted.iptype.symm,
      wanted.auth.symm⟩

/-! ### The retries -/

/-- A turn of the loop that asks again. -/
theorem reCheck_again {modem : Modem} {k : Nat} (again : Again modem k) (fuel : Nat) :
    reCheck modem (fuel + 1) k = reCheck modem fuel (k + 1) := by
  rw [reCheck, again.1]
  simp only [again.2, if_true]

/-- A turn of the loop that is the last one. -/
theorem reCheck_last {modem : Modem} {k : Nat} (last : ¬Again modem k) (fuel : Nat)
    (answer : Answer) : reCheck modem (fuel + 1) k = some answer ↔ Answered modem k answer := by
  rw [reCheck]
  cases query : modem.qicsgp k with
  | line line =>
    cases answer with
    | line other => simp [Answered, query]
    | refused => simp [Answered, query]
  | failed => cases answer <;> simp [Answered, query]
  | invalid =>
    have kept : modem.cleared k = false := by
      by_contra cleared
      exact last ⟨query, Bool.eq_true_of_not_eq_false cleared⟩
    cases answer <;> simp [Answered, query, kept]

/-- The loop ends exactly with the answer to a query that the modem is asked. -/
theorem reCheck_eq_some_iff {modem : Modem} {fuel k : Nat} {answer : Answer} :
    reCheck modem fuel k = some answer ↔
      ∃ n < fuel, (∀ j < n, Again modem (k + j)) ∧ ¬Again modem (k + n) ∧
        Answered modem (k + n) answer := by
  induction fuel generalizing k with
  | zero => simp [reCheck]
  | succ fuel ih =>
    by_cases here : Again modem k
    · rw [reCheck_again here, ih]
      constructor
      · rintro ⟨n, less, again, answered⟩
        refine ⟨n + 1, Nat.succ_lt_succ less, fun j below => ?_, ?_⟩
        · cases j with
          | zero => exact here
          | succ j =>
            rw [Nat.add_comm j 1, ← Nat.add_assoc]
            exact again j (Nat.lt_of_succ_lt_succ below)
        · rwa [Nat.add_comm n 1, ← Nat.add_assoc]
      · rintro ⟨n, less, again, answered⟩
        cases n with
        | zero => exact absurd here answered.1
        | succ n =>
          refine ⟨n, Nat.lt_of_succ_lt_succ less, fun j below => ?_, ?_⟩
          · rw [Nat.add_assoc, Nat.add_comm 1 j]
            exact again (j + 1) (Nat.succ_lt_succ below)
          · rwa [Nat.add_assoc, Nat.add_comm 1 n]
    · rw [reCheck_last here]
      constructor
      · intro answered
        exact ⟨0, Nat.succ_pos fuel, fun j none => absurd none (Nat.not_lt_zero j), here, answered⟩
      · rintro ⟨n, -, again, -, answered⟩
        cases n with
        | zero => exact answered
        | succ n => exact absurd (again 0 (Nat.succ_pos n)) here

/-- After an answer the modem is not asked again. -/
theorem Answered.not_again {modem : Modem} {k : Nat} {answer : Answer}
    (answered : Answered modem k answer) : ¬Again modem k := by
  rintro ⟨invalid, cleared⟩
  cases answer with
  | line line =>
    rw [Answered, invalid] at answered
    cases answered
  | refused =>
    rcases answered with failed | ⟨-, kept⟩
    · rw [invalid] at failed
      cases failed
    · rw [cleared] at kept
      cases kept

/-- The look-up asks until it is answered. -/
theorem reCheck_ends_iff {modem : Modem} {answer : Answer} :
    (∃ fuel, reCheck modem fuel 0 = some answer) ↔
      ∃ k, Reached modem k ∧ Answered modem k answer := by
  simp only [reCheck_eq_some_iff, Nat.zero_add]
  constructor
  · rintro ⟨fuel, k, -, reached, -, answered⟩
    exact ⟨k, reached, answered⟩
  · rintro ⟨k, reached, answered⟩
    exact ⟨k + 1, k, Nat.lt_succ_self k, reached, answered.not_again, answered⟩

/-- There is one last query. -/
theorem Reached.eq_of_answered {modem : Modem} {j k : Nat} {first second : Answer}
    (reached : Reached modem j) (answered : Answered modem j first)
    (reached' : Reached modem k) (answered' : Answered modem k second) : j = k := by
  rcases Nat.lt_trichotomy j k with less | same | more
  · exact absurd (reached' j less) answered.not_again
  · exact same
  · exact absurd (reached k more) answered'.not_again

/-! ### A look-up -/

/-- A type is known after a line if it was known before, or if the line has one. -/
theorem isSome_storedStr {line : Line} {stale : List Char} {cgdcontIptype : Option (List Char)} :
    (storedStr (scanCgdcont line) 1 (cgdcontIptype.map fun _ => stale)).isSome = true ↔
      cgdcontIptype.isSome = true ∨ HasIptype line := by
  rw [storedStr, HasIptype]
  split
  next text found => simp [found]
  next other =>
    rw [Option.isSome_map, iff_self_or]
    rintro ⟨text, found⟩
    exact absurd found (other text)

/-- The first of the lines is one of the context. -/
theorem plainLines_own {pdp : Int} {typed : Prop} {line : Line} (own : OfContext pdp line)
    (lines : List Line) : PlainLines pdp typed (line :: lines) ↔
      ShortAt (scanCgdcont line) 2 ∧ (typed ∨ HasIptype line) := by
  constructor
  · intro plain
    have here := plain [] line lines rfl (List.forall_mem_nil _) own
    simpa using here
  · rintro ⟨short, known⟩ before last rest same others -
    cases before with
    | nil =>
      obtain ⟨rfl, -⟩ := List.cons.inj same
      exact ⟨short, by simpa using known⟩
    | cons head before =>
      obtain ⟨rfl, -⟩ := List.cons.inj same
      exact absurd own (others _ (.head _))

/-- The first of the lines is one of another context. -/
theorem plainLines_other {pdp : Int} {typed : Prop} {line : Line} (other : ¬OfContext pdp line)
    (lines : List Line) : PlainLines pdp typed (line :: lines) ↔
      PlainLines pdp (typed ∨ HasIptype line) lines := by
  constructor
  · intro plain before last rest same others own
    have here := plain (line :: before) last rest (congrArg (line :: ·) same)
      (List.forall_mem_cons.mpr ⟨other, others⟩) own
    simpa [or_assoc] using here
  · intro plain before last rest same others own
    cases before with
    | nil =>
      obtain ⟨rfl, -⟩ := List.cons.inj same
      exact absurd own other
    | cons head before =>
      obtain ⟨rfl, tail⟩ := List.cons.inj same
      have here := plain before last rest tail (fun l member => others l (.tail _ member)) own
      simpa [or_assoc] using here

/-- Where the look-up with `AT+CGDCONT?` has no fault. -/
theorem readCgdcont_iff {stale : List Char} {pdp : Int} {lines : List Line}
    {cgdcontIptype oldApn : Option (List Char)} (empty : oldApn.getD [] = []) :
    (∃ old, readCgdcont stale pdp lines cgdcontIptype oldApn = .ok old ∧
      (seen (old.apn.getD [])).length < 64) ↔
        PlainLines pdp (cgdcontIptype.isSome = true) lines := by
  induction lines generalizing cgdcontIptype oldApn with
  | nil =>
    refine iff_of_true ⟨_, rfl, ?_⟩ fun before line rest same => ?_
    · simp [empty, seen]
    · simp at same
  | cons line lines ih =>
    by_cases own : OfContext pdp line
    · have start : (seen (oldApn.getD [])).length < 64 := by simp [empty, seen]
      rw [plainLines_own own, ← @isSome_storedStr line stale, ← shortAt_iff start, readCgdcont,
        if_pos (show _ ∧ _ from own)]
      cases storedStr (scanCgdcont line) 1 (cgdcontIptype.map fun _ => stale) with
      | none => simp
      | some text => simp
    · rw [plainLines_other own, ← @isSome_storedStr line stale, readCgdcont,
        if_neg (show ¬(_ ∧ _) from own)]
      exact ih rfl

/-- The other variables after a look-up with `AT+CGDCONT?`. -/
theorem readCgdcont_other {stale : List Char} {pdp : Int} {lines : List Line}
    {cgdcontIptype oldApn : Option (List Char)} {old : Old}
    (found : readCgdcont stale pdp lines cgdcontIptype oldApn = .ok old) :
    old.user = some [] ∧ old.password = some [] ∧ 0 ≤ old.iptype ∧ old.iptype ≤ 3 := by
  induction lines generalizing cgdcontIptype oldApn with
  | nil =>
    cases found
    have known : (0 : Int) ≤ 1 ∧ (1 : Int) ≤ 3 := by decide
    exact ⟨rfl, rfl, known⟩
  | cons line lines ih =>
    rw [readCgdcont] at found
    split at found
    next =>
      split at found
      next text _ =>
        cases found
        refine ⟨rfl, rfl, ?_⟩
        change 0 ≤ iptypeOf text ∧ iptypeOf text ≤ 3
        rw [iptypeOf]
        split
        next => decide
        next => split <;> decide
      next => cases found
    next => exact ih found

/-- Where a line of `+QICSGP` leads to a profile that can be used. -/
theorem readQicsgp_iff {profile : Profile} {line : Line} :
    (∃ found, readQicsgp line = .ok found ∧ Stored (store profile found).2) ↔
      (scanQicsgp line).n ≠ 4 ∧
        (∀ i, (scanQicsgp line).stores[0]? = some (some (.int i)) → 0 ≤ i ∧ i ≤ 3) ∧
        ShortAt (scanQicsgp line) 1 ∧ ShortAt (scanQicsgp line) 2 ∧ ShortAt (scanQicsgp line) 3 := by
  have empty : (seen ((some ([] : List Char)).getD [])).length < 64 := by decide
  have known : (0 : Int) ≤ 1 ∧ (1 : Int) ≤ 3 := by decide
  rw [readQicsgp]
  by_cases four : (scanQicsgp line).n = 4
  · rw [if_neg (not_not_intro four)]
    exact iff_of_false (fun ⟨_, found, _⟩ => by cases found) fun plain => plain.1 four
  · rw [if_pos four, and_iff_right four, ← shortAt_iff empty, ← shortAt_iff empty,
      ← shortAt_iff empty, ← @storedInt_iff _ _ _ (fun i => 0 ≤ i ∧ i ≤ 3) known]
    constructor
    · rintro ⟨found, same, stored⟩
      cases same
      obtain ⟨apn, user, password, iptype⟩ := stored_iff.mp stored
      exact ⟨iptype, apn, user, password⟩
    · rintro ⟨iptype, apn, user, password⟩
      exact ⟨_, rfl, stored_iff.mpr ⟨apn, user, password, iptype⟩⟩

/-- Where the answer leads to a profile that can be used. -/
theorem lookup_iff {stale : List Char} {modem : Modem} {profile : Profile} (answer : Answer) :
    (∃ found, lookup stale modem profile.pdp answer = .ok found ∧ Stored (store profile found).2 ∧
      ∀ complete : CompleteLine, answer = .line complete.line →
        Faithful (store profile found) complete) ↔ Plain modem profile.pdp answer := by
  cases answer with
  | line line =>
    constructor
    · rintro ⟨found, same, stored, faithful⟩
      obtain ⟨count, iptype, apn, user, password⟩ := readQicsgp_iff.mp ⟨found, same, stored⟩
      refine ⟨fun complete whole => ?_, count, iptype, apn, user, password⟩
      -- A complete line is not answered with success.
      have returned := (faithful complete (congrArg Answer.line whole)).returned
      rw [whole, lookup, readQicsgp_complete] at same
      cases same
      cases returned
    · rintro ⟨incomplete, count, iptype, apn, user, password⟩
      obtain ⟨found, same, stored⟩ := readQicsgp_iff.mpr ⟨count, iptype, apn, user, password⟩
      refine ⟨found, same, stored, fun complete whole => ?_⟩
      exact absurd (Answer.line.inj whole) (incomplete complete)
  | refused =>
    rw [lookup, Plain]
    cases modem.cgdcont with
    | none =>
      refine iff_of_true ⟨(-1, {}), rfl, ?_, fun _ whole => by cases whole⟩ fun _ none => by cases none
      exact stored_iff.mpr (by decide)
    | some lines =>
      have typed : ((none : Option (List Char)).isSome = true) = False := by simp
      have ends := @readCgdcont_iff stale profile.pdp lines none (some []) rfl
      rw [typed] at ends
      simp only [Option.some.injEq, forall_eq']
      rw [← ends]
      constructor
      · rintro ⟨found, same, stored, -⟩
        cases read : readCgdcont stale profile.pdp lines none (some []) with
        | error fault =>
          rw [read] at same
          cases same
        | ok old =>
          rw [read] at same
          cases same
          exact ⟨old, rfl, (stored_iff.mp stored).1⟩
      · rintro ⟨old, read, short⟩
        obtain ⟨user, password, iptype⟩ := readCgdcont_other read
        refine ⟨(0, old), by rw [read]; rfl, stored_iff.mpr ?_, fun _ whole => by cases whole⟩
        refine ⟨short, ?_, ?_, iptype⟩
        · rw [user]
          decide
        · rw [password]
          decide

/-- A look-up ends with a profile that can be used, after a complete line with the one of the line,
exactly if the modem answers one of the queries with something else than a complete line, and with
nothing that the scan or the buffers cannot do with. -/
theorem lookup_sound_iff (stale : List Char) (modem : Modem) (profile : Profile) :
    Sound stale modem profile ↔
      ∃ k answer, Reached modem k ∧ Answered modem k answer ∧ Plain modem profile.pdp answer := by
  constructor
  · rintro ⟨fuel, after, ended, stored, faithful⟩
    rw [requestGetProfile, Option.map_eq_some_iff] at ended
    obtain ⟨answer, asked, found⟩ := ended
    obtain ⟨k, reached, answered⟩ := reCheck_ends_iff.mp ⟨fuel, asked⟩
    refine ⟨k, answer, reached, answered, (@lookup_iff stale _ _ answer).mp ?_⟩
    cases look : lookup stale modem profile.pdp answer with
    | error fault =>
      rw [look] at found
      cases found
    | ok old =>
      rw [look] at found
      cases found
      refine ⟨old, rfl, stored, ?_⟩
      rintro complete rfl
      exact faithful k complete reached answered
  · rintro ⟨k, answer, reached, answered, plain⟩
    obtain ⟨fuel, asked⟩ := reCheck_ends_iff.mpr ⟨k, reached, answered⟩
    obtain ⟨found, look, stored, faithful⟩ := (@lookup_iff stale _ _ answer).mpr plain
    refine ⟨fuel, store profile found, ?_, stored, fun j complete reached' whole => ?_⟩
    · rw [requestGetProfile, asked, Option.map_some, look]
      rfl
    · have complete' : Answered modem j (.line complete.line) := whole
      cases Reached.eq_of_answered reached answered reached' complete'
      apply faithful complete
      -- The query has one answer.
      cases answer with
      | line line => exact congrArg Answer.line (Query.line.inj (answered.symm.trans whole))
      | refused => rcases answered with failed | ⟨invalid, -⟩ <;> simp_all

def cmnet : ShortText := ⟨⟨"cmnet".toList, by decide⟩, by decide, by decide⟩

def blankText : ShortText := ⟨⟨[], by decide⟩, by decide, by decide⟩

def completeLine : CompleteLine where
  iptype := one
  apn := cmnet
  user := blankText
  password := blankText
  auth := one
  known := by decide
  short := by decide

/-- A modem that answers with a complete line. -/
def completeModem : Modem := ⟨fun _ => .line completeLine.line, fun _ => false, none⟩

/-- A profile before the look-up. -/
def freshProfile : Profile where
  pdp := 1
  apn := some "cmnet".toList
  user := none
  password := none
  auth := 1
  enableIpv4 := true
  enableIpv6 := false
  iptype := 0
  oldApn := List.replicate 64 zero
  oldUser := List.replicate 64 zero
  oldPassword := List.replicate 64 zero
  oldAuth := 0
  oldIptype := 0

/-- A complete line is answered with an error. -/
theorem lookup_not_sound :
    ¬∀ (stale : List Char) (modem : Modem) (profile : Profile), Sound stale modem profile := by
  intro sound
  obtain ⟨fuel, after, ended, -, faithful⟩ := sound [] completeModem freshProfile
  have returned := (faithful 0 completeLine (fun j none => absurd none (Nat.not_lt_zero j)) rfl).returned
  cases fuel with
  | zero => cases ended
  | succ fuel =>
    have refused : requestGetProfile [] completeModem (fuel + 1) freshProfile =
        some (.ok (store freshProfile (-1, completeLine.old))) := by
      rw [requestGetProfile, reCheck, completeModem, Option.map_some, lookup, readQicsgp_complete]
      rfl
    rw [refused] at ended
    cases ended
    cases returned

end LorawanFeeds.AtChannel.ProfileRequest
