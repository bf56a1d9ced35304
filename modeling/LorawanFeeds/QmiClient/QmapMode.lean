import LorawanFeeds.IpConfig.AtTokens

/-!
# The channel of a data call

`parse_user_input` of `main.c` reads the number of the context and the number of the channel from the
command line. `ql_qmi_qmap_mode_detect` of `qmap_bridge_mode.c` looks up that channel in what the
driver says of its channels, and takes the channel's id and its network card from there.
-/
namespace LorawanFeeds.QmiClient.QmapMode

open Lib Decimal IpConfig

/-! ### The command line -/

/-- An argument of the command line, without the null byte at its end. -/
abbrev Arg := List UInt8

def chars (arg : Arg) : List Char := arg.map fun b => Char.ofNat b.toNat

/-- `strcmp` finds no difference. -/
def isText (arg : Arg) (text : String) : Bool := chars arg = text.toList

/-- `strcasecmp` finds no difference. -/
def sameCase (arg : Arg) (text : String) : Bool :=
  (chars arg).map Char.toLower = text.toList.map Char.toLower

/-- `atoi`, which is `strtol` cut to an `int`. -/
def atoi (text : List Char) : Int := (Int32.ofInt ((strtol text).getD 0)).toInt

/-- The value of a `char`, which may be signed. -/
def charValue (signed : Bool) (b : UInt8) : Int :=
  if signed ∧ 128 ≤ b.toNat then b.toNat - 256 else b.toNat

/-- `argv[opt][0]`; an empty argument begins with its null byte. -/
def first (signed : Bool) : Arg → Int
  | [] => 0
  | b :: _ => charValue signed b

/-- What `parse_user_input` writes into the profile. -/
structure Input where
  apn : Option Arg := none
  user : Option Arg := none
  password : Option Arg := none
  auth : Int := 0
  pincode : Option Arg := none
  proxy : Arg := []
  pdp : Int := 1
  profileIndex : Int := 1
  enableBridge : Bool := false
  enableIpv4 : Bool := false
  enableIpv6 : Bool := false
  noDhcp : Bool := false
  logfile : Option Arg := none
  usblogfile : Option Arg := none
  expectAdapter : Arg := []
  killPdp : Int := 0
  replicationFactor : Int := 0
  loopbackState : Bool := false
  debugQmi : Bool := false
  muxid : Int := 0
  deriving DecidableEq, Repr

/-- An argument that begins with a minus sign. -/
def isOption (arg : Arg) : Bool := arg.head? = some 45

/-- `has_more_argv()`, and the argument if there is one. -/
def takeArg : List Arg → Option Arg × List Arg
  | [] => (none, [])
  | arg :: args => if isOption arg then (none, arg :: args) else (some arg, args)

/-- The kinds of authentication. -/
def authOf (arg : Arg) : Option Int :=
  if isText arg "0" ∨ sameCase arg "none" then some 0
  else if isText arg "1" ∨ sameCase arg "pap" then some 1
  else if isText arg "2" ∨ sameCase arg "chap" then some 2
  else if isText arg "3" ∨ sameCase arg "MsChapV2" then some 3
  else none

/-- The option `-s`, with up to four arguments. -/
def optionS (args : List Arg) (input : Input) : Option (Input × List Arg) :=
  let (apn, args) := takeArg args
  let (user, args) := takeArg args
  let (password, args) := takeArg args
  let input := { input with
    apn := some (apn.getD [])
    user := some (user.getD [])
    password := some (password.getD [])
    auth := if password.getD [] ≠ [] then 2 else input.auth }
  match takeArg args with
  | (none, args) => some (input, args)
  | (some auth, args) => (authOf auth).map fun auth => ({ input with auth }, args)

def proxies : List String :=
  ["quectel-qmi-proxy", "quectel-mbim-proxy", "qmi-proxy", "mbim-proxy", "quectel-atc-proxy"]

/-- The option `-p`, whose argument is a proxy or a number of four digits. -/
def optionP (args : List Arg) (input : Input) : Option (Input × List Arg) :=
  match takeArg args with
  | (none, args) => some (input, args)
  | (some arg, args) =>
    if proxies.any (isText arg) then some ({ input with proxy := arg }, args)
    else if 999 < atoi (chars arg) ∧ atoi (chars arg) < 10000 then
      some ({ input with pincode := some arg }, args)
    else none

/-- An option with one argument, which may be missing. -/
def withArg (args : List Arg) (input : Input) (set : Arg → Input) : Option (Input × List Arg) :=
  match takeArg args with
  | (none, args) => some (input, args)
  | (some arg, args) => some (set arg, args)

/-- The `switch` over the letter of an option; it is nothing for `usage`. -/
def parseOption (signed : Bool) (letter : Char) (args : List Arg) (input : Input) :
    Option (Input × List Arg) :=
  if letter = 's' then optionS args input
  else if letter = 'p' then optionP args input
  else if letter = 'm' then
    withArg args input fun arg => { input with muxid := first signed arg - 48 + 0x80 }
  else if letter = 'n' then withArg args input fun arg => { input with pdp := first signed arg - 48 }
  else if letter = 'f' then withArg args input fun arg => { input with logfile := some arg }
  else if letter = 'i' then withArg args input fun arg => { input with expectAdapter := arg.take 31 }
  else if letter = 'v' then some ({ input with debugQmi := true }, args)
  else if letter = 'l' then
    withArg args input fun arg => { input with
      replicationFactor := atoi (chars arg)
      loopbackState := 0 < atoi (chars arg) || input.loopbackState }
  else if letter = '4' then some ({ input with enableIpv4 := true }, args)
  else if letter = '6' then some ({ input with enableIpv6 := true }, args)
  else if letter = 'd' then some ({ input with noDhcp := true }, args)
  else if letter = 'u' then withArg args input fun arg => { input with usblogfile := some arg }
  else if letter = 'b' then some ({ input with enableBridge := true }, args)
  else if letter = 'k' then
    withArg args input fun arg => { input with killPdp := first signed arg - 48 }
  else none

/-- The loop over the options. Each turn takes an argument at least, so that there are no more turns
than arguments. -/
def parseOptions (signed : Bool) : Nat → List Arg → Input → Option Input
  | _, [], input => some input
  | 0, _ :: _, _ => none
  | fuel + 1, arg :: args, input =>
    if isOption arg then
      -- The letter of `-` alone is the null byte.
      match parseOption signed ((chars arg).getD 1 (Char.ofNat 0)) args input with
      | none => none
      | some (input, args) => parseOptions signed fuel args input
    else none

/-- `parse_user_input`, with the arguments after the name of the program; a last `&` is dropped. -/
def parseUserInput (signed : Bool) (args : List Arg) : Option Input :=
  let args := if (args.getLast?.map fun arg => isText arg "&") = some true then args.dropLast else args
  (parseOptions signed args.length args {}).map fun input =>
    if input.enableIpv4 = false ∧ input.enableIpv6 = false then { input with enableIpv4 := true }
    else input

/-! ### The driver -/

inductive Access where
  | ok
  /-- `ENOENT`. -/
  | missing
  | failed
  deriving DecidableEq, Repr

/-- The files that may hold the mode. -/
inductive ModeFile where
  | netcard
  | module
  | driverModule
  deriving DecidableEq, Repr

/-- What the functions here read of `RMNET_INFO`. The arrays have eight entries; beyond them is what
lies next to them in memory. -/
structure RmnetInfo where
  rxUrbSize : UInt32
  qmapMode : UInt32
  qmapVersion : UInt32
  ifname : Int → List Char
  muxId : Int → UInt8
  named : ∀ i, 0 ≤ i → i < 8 → (ifname i).length < 16

/-- An id of two hexadecimal digits. -/
structure HexId where
  high : Char
  low : Char
  highHex : isxdigit high = true
  lowHex : isxdigit low = true

def HexId.value (id : HexId) : Nat := hexValue [id.high, id.low]

/-- The line of an id in `add_mux`. -/
def HexId.line (id : HexId) : List Char := ['0', 'x', id.high, id.low, '\n']

/-- What the detection finds: the report of Quectel's driver if it has one, the files with the mode,
and the ids that the driver of the kernel lists. -/
structure Driver where
  usbnetAdapter : List Char
  rmnetInfo : Option RmnetInfo
  modeFile : ModeFile → Access × List Char
  qmiWwan : Bool
  qmimux : Int → Access
  ids : List HexId
  /-- The memory around the buffer of `add_mux`. -/
  stray : Int → Int
  qmapSize : Option (List Char)

/-- A read of an entry of a table. -/
inductive Read where
  | ifname (i : Int)
  | muxId (i : Int)
  | buf (i : Int)
  deriving DecidableEq, Repr

/-- What `ql_qmi_qmap_mode_detect` writes into the profile, and what it reads of the tables. -/
structure Found where
  qmapMode : Int := 0
  qmapSize : Int := 0
  qmapVersion : Int := 0
  muxid : Int
  qmapnetAdapter : List Char := []
  reads : List Read := []
  deriving DecidableEq, Repr

/-- `%d`. -/
def writeInt (i : Int) : List Char :=
  if i < 0 then '-' :: writeNat i.natAbs else writeNat i.natAbs

/-- The network card of the driver of the kernel. -/
def qmimuxName (i : Int) : List Char := "qmimux".toList ++ writeInt i

/-- The part with the report of Quectel's driver. -/
def rmnetDetect (info : RmnetInfo) (input : Input) : Found :=
  let qmapMode := (Int32.ofInt info.qmapMode.toNat).toInt
  if qmapMode = 0 then { muxid := input.muxid }
  else
    let offsetId := if qmapMode = 1 then 0
      else if input.muxid = 0 then input.pdp - 1 else input.muxid - 0x81
    { qmapMode := qmapMode
      qmapSize := (Int32.ofInt info.rxUrbSize.toNat).toInt
      qmapVersion := (Int32.ofInt info.qmapVersion.toNat).toInt
      muxid := (info.muxId offsetId).toNat
      qmapnetAdapter := (info.ifname offsetId).take 31
      reads := [.muxId offsetId, .ifname offsetId] }

/-- The first file that is there, or the last one. -/
def findModeFile (driver : Driver) : Access × List Char :=
  if (driver.modeFile .netcard).1 ≠ .missing then driver.modeFile .netcard
  else if (driver.modeFile .module).1 ≠ .missing then driver.modeFile .module
  else driver.modeFile .driverModule

/-- The part with a file that holds the mode. -/
def fileDetect (driver : Driver) (content : List Char) (input : Input) : Found :=
  let buf := content.take 128
  if buf = [] then { muxid := input.muxid }
  else
    let qmapMode := atoi buf
    let muxid := if input.muxid = 0 then input.pdp + 0x80 else input.muxid
    if 1 < qmapMode then
      { qmapMode := qmapMode
        muxid := muxid
        qmapnetAdapter :=
          (driver.usbnetAdapter.take 16 ++ '.' :: writeInt (muxid - 0x80)).take 31 }
    else if qmapMode = 1 then
      { qmapMode := qmapMode, muxid := 0x81, qmapnetAdapter := driver.usbnetAdapter }
    else { qmapMode := qmapMode, muxid := input.muxid }

/-- The text of `add_mux` in its buffer. -/
def muxBuf (driver : Driver) : List Char := (driver.ids.flatMap HexId.line).take 128

/-- A character of the buffer, or of the memory around it. -/
def bufAt (driver : Driver) (i : Int) : Int :=
  if 0 ≤ i ∧ i < 128 then (((muxBuf driver).getD i.toNat (Char.ofNat 0)).toNat : Int)
  else driver.stray i

/-- The id of an entry, digit by digit. -/
def idAt (driver : Driver) (entry : Int) : Int :=
  (bufAt driver (5 * entry + 2) - 48) * 16 + (bufAt driver (5 * entry + 3) - 48)

def idReads (entry : Int) : List Read := [.buf (5 * entry + 2), .buf (5 * entry + 3)]

/-- The part with the ids that the driver of the kernel lists. -/
def muxDetect (driver : Driver) (input : Input) : Found :=
  let n := (muxBuf driver).length
  if driver.qmimux (input.pdp - 1) ≠ .ok ∨ n < 5 then { muxid := input.muxid }
  else if n / 5 = 1 then
    { qmapMode := 1, muxid := idAt driver 0, qmapnetAdapter := qmimuxName 0, reads := idReads 0 }
  else if input.muxid = 0 then
    { qmapMode := (n / 5 : Nat)
      muxid := idAt driver (input.pdp - 1)
      qmapnetAdapter := qmimuxName (input.pdp - 1)
      reads := idReads (input.pdp - 1) }
  else
    -- The card is named after the id that has been read.
    let muxid := idAt driver (input.muxid - 0x81)
    { qmapMode := (n / 5 : Nat)
      muxid := muxid
      qmapnetAdapter := qmimuxName (muxid - 0x81)
      reads := idReads (input.muxid - 0x81) }

/-- What follows `_out`: the size and the version if there are none. -/
def withDefaults (driver : Driver) (found : Found) : Found :=
  if found.qmapMode = 0 then found
  else
    let size := match driver.qmapSize with
      | some (c :: text) => atoi ((c :: text).take 32)
      | _ => 16 * 1024
    { found with
      qmapSize := if found.qmapSize = 0 then size else found.qmapSize
      qmapVersion := if found.qmapVersion = 0 then 5 else found.qmapVersion }

/-- `ql_qmi_qmap_mode_detect`. -/
def qmiQmapModeDetect (driver : Driver) (input : Input) : Found :=
  withDefaults driver <|
    match driver.rmnetInfo with
    | some info => rmnetDetect info input
    | none =>
      match findModeFile driver with
      | (.ok, content) => fileDetect driver content input
      | (.failed, _) => { muxid := input.muxid }
      | (.missing, _) => if driver.qmiWwan then muxDetect driver input else { muxid := input.muxid }

/-! ### The entries -/

/-- A report of the channels: the ids and the network cards. -/
structure Report where
  count : Nat
  id : Nat → Int
  card : Nat → List Char

/-- What Quectel's driver reports. -/
def RmnetInfo.report (info : RmnetInfo) : Report where
  count := min 8 info.qmapMode.toNat
  id k := (info.muxId k).toNat
  card k := info.ifname k

/-- What the driver of the kernel lists. -/
def listed (ids : List HexId) : Report where
  count := ids.length
  id k := (ids[k]?.map HexId.value).getD 0
  card k := qmimuxName k

def Driver.report (driver : Driver) : Report :=
  match driver.rmnetInfo with
  | some info => info.report
  | none => listed driver.ids

/-- The entry that the command line selects: of a single channel it is that one, and else the one of
the channel, or of the context if no channel is given. -/
def selected (single : Prop) [Decidable single] (input : Input) : Int :=
  if single then 0 else if input.muxid = 0 then input.pdp - 1 else input.muxid - 0x81

def Driver.selected (driver : Driver) (input : Input) : Int :=
  match driver.rmnetInfo with
  | some info => QmapMode.selected (info.qmapMode = 1) input
  | none => QmapMode.selected (driver.ids.length = 1) input

/-- The read is one of an entry. -/
def Driver.Holds (driver : Driver) : Read → Prop
  | .ifname i => 0 ≤ i ∧ i < driver.report.count
  | .muxId i => 0 ≤ i ∧ i < driver.report.count
  | .buf i => 0 ≤ i ∧ i < (muxBuf driver).length

/-- What is read is there, and the channel is the one of the entry that is selected. -/
structure Consistent (driver : Driver) (input : Input) (found : Found) : Prop where
  inside : ∀ r ∈ found.reads, driver.Holds r
  entry : found.reads ≠ [] → ∃ k < driver.report.count, driver.selected input = k ∧
    found.muxid = driver.report.id k ∧ found.qmapnetAdapter = driver.report.card k

/-- The ids of the driver of the kernel are looked up. -/
def Driver.Lists (driver : Driver) (input : Input) : Prop :=
  (findModeFile driver).1 = .missing ∧ driver.qmiWwan = true ∧ driver.qmimux (input.pdp - 1) = .ok ∧
    driver.ids ≠ []

/-- An id without letters. -/
def HexId.Decimal (id : HexId) : Prop := isDigit id.high = true ∧ isDigit id.low = true

/-- The entry is there; the ids of the driver of the kernel have to fit into the buffer, the one that
is selected has no letters, and where a channel is given, it is that channel. -/
def Driver.Meets (driver : Driver) (input : Input) : Prop :=
  match driver.rmnetInfo with
  | some info => info.qmapMode = 0 ∨
      (0 ≤ driver.selected input ∧ driver.selected input < min 8 info.qmapMode.toNat)
  | none => driver.Lists input → ∃ k : Nat, k < 25 ∧ driver.selected input = k ∧
      ∃ id, driver.ids[k]? = some id ∧ id.Decimal ∧
        (1 < driver.ids.length → input.muxid ≠ 0 → (id.value : Int) = input.muxid)

/-! ### Numbers -/

theorem writeNat_inj {m n : Nat} (same : writeNat m = writeNat n) : m = n := by
  have left := @readNat_write m [] (by rintro c ⟨⟩)
  have right := @readNat_write n [] (by rintro c ⟨⟩)
  rw [same, right] at left
  exact (Prod.mk.inj left).1.symm

theorem writeInt_inj {i j : Int} (same : writeInt i = writeInt j) : i = j := by
  -- No number begins with its sign.
  have plain (n m : Nat) : '-' :: writeNat n ≠ writeNat m := by
    intro same
    obtain ⟨c, tail, written, digit⟩ := writeNat_head m
    rw [written] at same
    obtain ⟨rfl, -⟩ := List.cons.inj same
    exact absurd digit (by decide)
  rw [writeInt, writeInt] at same
  split at same <;> split at same
  next => have := writeNat_inj (List.cons.inj same).2; omega
  next => exact absurd same (plain _ _)
  next => exact absurd same.symm (plain _ _)
  next => have := writeNat_inj same; omega

theorem qmimuxName_inj {i j : Int} : qmimuxName i = qmimuxName j ↔ i = j :=
  ⟨fun same => writeInt_inj (List.append_cancel_left same), congrArg qmimuxName⟩

/-- The value of a hexadecimal digit. -/
def digitValue (c : Char) : Nat := if isDigit c then c.toNat - 48 else c.toUpper.toNat - 55

/-- A letter is taken for more than it is. -/
theorem digitValue_cases {c : Char} (hex : isxdigit c = true) :
    (isDigit c = true ∧ digitValue c + 48 = c.toNat) ∨
      (isDigit c = false ∧ digitValue c + 48 < c.toNat) := by
  have all : ∀ n < 103, isxdigit (Char.ofNat n) = true →
      (isDigit (Char.ofNat n) = true ∧ digitValue (Char.ofNat n) + 48 = (Char.ofNat n).toNat) ∨
        (isDigit (Char.ofNat n) = false ∧ digitValue (Char.ofNat n) + 48 < (Char.ofNat n).toNat) := by
    decide +kernel
  have small : c.toNat < 103 := by
    simp only [isxdigit, isDigit, Bool.decide_and, Bool.or_eq_true, Bool.and_eq_true,
      decide_eq_true_eq] at hex
    rcases hex with (digit | lower) | upper
    · exact Nat.lt_of_le_of_lt digit.2 (by decide)
    · exact Nat.lt_of_le_of_lt lower.2 (by decide : 102 < 103)
    · exact Nat.lt_of_le_of_lt upper.2 (by decide : 70 < 103)
  have here := all c.toNat small
  rw [Char.ofNat_toNat] at here
  exact here hex

/-- The digits of an id give its value exactly if it has no letters. -/
theorem HexId.decoded_iff (id : HexId) :
    ((id.high.toNat : Int) - 48) * 16 + ((id.low.toNat : Int) - 48) = id.value ↔ id.Decimal := by
  have value : id.value = digitValue id.high * 16 + digitValue id.low := by
    simp [HexId.value, hexValue, digitValue]
  rw [value, HexId.Decimal]
  rcases digitValue_cases id.highHex with ⟨high, same⟩ | ⟨high, more⟩
  · rcases digitValue_cases id.lowHex with ⟨low, same'⟩ | ⟨low, more'⟩
    · exact iff_of_true (by omega) ⟨high, low⟩
    · exact iff_of_false (by omega) fun decimal => by simp [decimal.2] at low
  · refine iff_of_false ?_ fun decimal => by simp [decimal.1] at high
    rcases digitValue_cases id.lowHex with ⟨-, same'⟩ | ⟨-, more'⟩ <;> omega

/-! ### The buffer -/

/-- Each line has five characters. -/
theorem lines_get (ids : List HexId) (k j : Nat) (short : j < 5) :
    (ids.flatMap HexId.line)[5 * k + j]? = ids[k]?.bind fun id => id.line[j]? := by
  induction ids generalizing k with
  | nil => rfl
  | cons id ids ih =>
    rw [List.flatMap_cons]
    cases k with
    | zero => rw [List.getElem?_append_left (by simpa [HexId.line] using short), Nat.mul_zero,
        Nat.zero_add, List.getElem?_cons_zero, Option.bind_some]
    | succ k =>
      have behind : 5 * (k + 1) + j - id.line.length = 5 * k + j := by
        simp only [HexId.line, List.length_cons, List.length_nil]
        omega
      rw [List.getElem?_append_right (by simp only [HexId.line, List.length_cons, List.length_nil]; omega),
        behind, ih, List.getElem?_cons_succ]

theorem length_lines (ids : List HexId) : (ids.flatMap HexId.line).length = 5 * ids.length := by
  induction ids with
  | nil => rfl
  | cons id ids ih =>
    rw [List.flatMap_cons, List.length_append, ih, List.length_cons]
    simp only [HexId.line, List.length_cons, List.length_nil]
    omega

theorem length_muxBuf (driver : Driver) :
    (muxBuf driver).length = min 128 (5 * driver.ids.length) := by
  rw [muxBuf, List.length_take, length_lines]

section

variable {driver : Driver} {k : Nat} {id : HexId}

/-- A digit that is in the buffer. -/
theorem bufAt_digit (inside : k < 25) (known : driver.ids[k]? = some id) :
    bufAt driver (5 * k + 2) = id.high.toNat ∧ bufAt driver (5 * k + 3) = id.low.toNat := by
  have digit (j : Nat) (short : j < 5) (fits : 5 * k + j < 128) {c : Char}
      (char : id.line[j]? = some c) : bufAt driver (5 * k + j : Nat) = c.toNat := by
    have place := lines_get driver.ids k j short
    rw [known, Option.bind_some, char] at place
    rw [bufAt, if_pos (by omega), Int.toNat_natCast, muxBuf, List.getD_eq_getElem?_getD,
      List.getElem?_take_of_lt fits, place]
    rfl
  exact ⟨digit 2 (by decide) (by omega) rfl, digit 3 (by decide) (by omega) rfl⟩

/-- An entry in the buffer is read right exactly if its id has no letters. -/
theorem idAt_iff (inside : k < 25) (known : driver.ids[k]? = some id) :
    idAt driver k = id.value ↔ id.Decimal := by
  obtain ⟨high, low⟩ := bufAt_digit inside known
  rw [idAt, high, low]
  exact id.decoded_iff

end


/-! ### The command line is read -/

/-- The bounds of what a single character gives. -/
structure Bounded (input : Input) : Prop where
  pdp : -176 ≤ input.pdp ∧ input.pdp ≤ 207
  muxid : -48 ≤ input.muxid ∧ input.muxid ≤ 335

theorem first_bounds (signed : Bool) (arg : Arg) : -128 ≤ first signed arg ∧ first signed arg ≤ 255 := by
  cases arg with
  | nil =>
    rw [first]
    decide
  | cons b rest =>
    have small := b.toNat_lt
    rw [first, charValue]
    split <;> omega

theorem takeArg_length (args : List Arg) : (takeArg args).2.length ≤ args.length := by
  cases args with
  | nil => exact Nat.le_refl 0
  | cons arg args =>
    rw [takeArg]
    split
    next => exact Nat.le_refl _
    next => exact Nat.le_succ _

/-- What an option does to the profile and to the arguments. -/
structure Steps (args : List Arg) (read : Input × List Arg) : Prop where
  bounded : Bounded read.1
  fewer : read.2.length ≤ args.length

section

variable {args : List Arg} {input : Input} {read : Input × List Arg}

theorem withArg_steps {set : Arg → Input} (sets : ∀ arg, Bounded (set arg)) (bounded : Bounded input)
    (parsed : withArg args input set = some read) : Steps args read := by
  have fewer := takeArg_length args
  rw [withArg] at parsed
  split at parsed
  next rest taken =>
    cases parsed
    rw [taken] at fewer
    exact ⟨bounded, fewer⟩
  next arg rest taken =>
    cases parsed
    rw [taken] at fewer
    exact ⟨sets arg, fewer⟩

theorem optionP_steps (bounded : Bounded input) (parsed : optionP args input = some read) :
    Steps args read := by
  have fewer := takeArg_length args
  rw [optionP] at parsed
  split at parsed
  next rest taken =>
    cases parsed
    rw [taken] at fewer
    exact ⟨bounded, fewer⟩
  next arg rest taken =>
    rw [taken] at fewer
    split at parsed
    next =>
      cases parsed
      exact ⟨⟨bounded.pdp, bounded.muxid⟩, fewer⟩
    next =>
      split at parsed
      next =>
        cases parsed
        exact ⟨⟨bounded.pdp, bounded.muxid⟩, fewer⟩
      next => cases parsed

theorem optionS_steps (bounded : Bounded input) (parsed : optionS args input = some read) :
    Steps args read := by
  have apn := takeArg_length args
  have user := takeArg_length (takeArg args).2
  have password := takeArg_length (takeArg (takeArg args).2).2
  have auth := takeArg_length (takeArg (takeArg (takeArg args).2).2).2
  simp only [optionS] at parsed
  split at parsed
  next rest taken =>
    cases parsed
    rw [taken] at auth
    exact ⟨⟨bounded.pdp, bounded.muxid⟩, by dsimp only at auth ⊢; omega⟩
  next arg rest taken =>
    rw [taken] at auth
    obtain ⟨kind, -, same⟩ := Option.map_eq_some_iff.mp parsed
    cases same
    exact ⟨⟨bounded.pdp, bounded.muxid⟩, by dsimp only at auth ⊢; omega⟩

theorem steps_ite {c : Prop} [Decidable c] {yes no : Option (Input × List Arg)}
    (onYes : yes = some read → Steps args read) (onNo : no = some read → Steps args read) :
    (if c then yes else no) = some read → Steps args read := by
  intro parsed
  by_cases holds : c
  · rw [if_pos holds] at parsed
    exact onYes parsed
  · rw [if_neg holds] at parsed
    exact onNo parsed

/-- An option keeps the bounds, and takes its arguments from the front. -/
theorem parseOption_steps {signed : Bool} {letter : Char} (bounded : Bounded input)
    (parsed : parseOption signed letter args input = some read) : Steps args read := by
  have kept (other : Input) (pdp : other.pdp = input.pdp) (muxid : other.muxid = input.muxid) :
      Bounded other := ⟨pdp ▸ bounded.pdp, muxid ▸ bounded.muxid⟩
  have flag (other : Input) (keeps : Bounded other) (same : some (other, args) = some read) :
      Steps args read := by
    cases same
    exact ⟨keeps, Nat.le_refl _⟩
  have mux (arg : Arg) : Bounded { input with muxid := first signed arg - 48 + 0x80 } := by
    have range := first_bounds signed arg
    exact ⟨bounded.pdp, by dsimp only; omega⟩
  have pdp (arg : Arg) : Bounded { input with pdp := first signed arg - 48 } := by
    have range := first_bounds signed arg
    exact ⟨by dsimp only; omega, bounded.muxid⟩
  revert parsed
  rw [parseOption]
  refine steps_ite (optionS_steps bounded) ?_
  refine steps_ite (optionP_steps bounded) ?_
  refine steps_ite (withArg_steps mux bounded) ?_
  refine steps_ite (withArg_steps pdp bounded) ?_
  refine steps_ite (withArg_steps (fun _ => kept _ rfl rfl) bounded) ?_
  refine steps_ite (withArg_steps (fun _ => kept _ rfl rfl) bounded) ?_
  refine steps_ite (flag _ (kept _ rfl rfl)) ?_
  refine steps_ite (withArg_steps (fun _ => kept _ rfl rfl) bounded) ?_
  refine steps_ite (flag _ (kept _ rfl rfl)) ?_
  refine steps_ite (flag _ (kept _ rfl rfl)) ?_
  refine steps_ite (flag _ (kept _ rfl rfl)) ?_
  refine steps_ite (withArg_steps (fun _ => kept _ rfl rfl) bounded) ?_
  refine steps_ite (flag _ (kept _ rfl rfl)) ?_
  refine steps_ite (withArg_steps (fun _ => kept _ rfl rfl) bounded) ?_
  intro usage
  cases usage

end

/-- The loop keeps the bounds. -/
theorem parseOptions_bounded {signed : Bool} {fuel : Nat} {args : List Arg} {input after : Input}
    (bounded : Bounded input) (parsed : parseOptions signed fuel args input = some after) :
    Bounded after := by
  induction fuel generalizing args input with
  | zero =>
    cases args with
    | nil =>
      cases parsed
      exact bounded
    | cons arg args => cases parsed
  | succ fuel ih =>
    cases args with
    | nil =>
      cases parsed
      exact bounded
    | cons arg args =>
      rw [parseOptions] at parsed
      split at parsed
      next =>
        split at parsed
        next => cases parsed
        next input args option => exact ih (parseOption_steps bounded option).bounded parsed
      next => cases parsed

/-- No accepted number is out of the bounds, so that no index overflows. -/
theorem parseUserInput_bounded {signed : Bool} {args : List Arg} {input : Input}
    (accepted : parseUserInput signed args = some input) : Bounded input := by
  obtain ⟨parsed, options, same⟩ := Option.map_eq_some_iff.mp accepted
  have bounded : Bounded parsed := parseOptions_bounded ⟨by decide, by decide⟩ options
  split at same
  next =>
    subst same
    exact ⟨bounded.pdp, bounded.muxid⟩
  next =>
    subst same
    exact bounded

/-- There are turns enough: more of them change nothing. -/
theorem parseOptions_enough {signed : Bool} {fuel : Nat} {args : List Arg} {input : Input}
    (bounded : Bounded input) (enough : args.length ≤ fuel) :
    parseOptions signed fuel args input = parseOptions signed args.length args input := by
  induction fuel using Nat.strong_induction_on generalizing args input with
  | _ fuel ih =>
    cases args with
    | nil => cases fuel <;> rfl
    | cons arg args =>
      cases fuel with
      | zero => cases enough
      | succ fuel =>
        have room : args.length ≤ fuel := Nat.le_of_succ_le_succ enough
        rw [parseOptions, List.length_cons, parseOptions]
        split
        next =>
          split
          next => rfl
          next input rest option =>
            have steps := parseOption_steps bounded option
            rw [ih fuel (Nat.lt_succ_self _) steps.bounded (Nat.le_trans steps.fewer room)]
            by_cases less : args.length < fuel + 1
            · rw [ih args.length less steps.bounded steps.fewer]
            · omega
        next => rfl

/-! ### The channel -/

theorem consistent_withDefaults {driver : Driver} {input : Input} {found : Found} :
    Consistent driver input (withDefaults driver found) ↔ Consistent driver input found := by
  have same : (withDefaults driver found).muxid = found.muxid ∧
      (withDefaults driver found).qmapnetAdapter = found.qmapnetAdapter ∧
        (withDefaults driver found).reads = found.reads := by
    rw [withDefaults]
    split <;> exact ⟨rfl, rfl, rfl⟩
  obtain ⟨muxid, adapter, reads⟩ := same
  constructor
  · rintro ⟨inside, entry⟩
    rw [muxid, adapter, reads] at *
    exact ⟨inside, entry⟩
  · rintro ⟨inside, entry⟩
    constructor <;> rw [reads]
    · exact inside
    · rwa [muxid, adapter]

/-- Where nothing is read, nothing is wrong. -/
theorem consistent_of_nil {driver : Driver} {input : Input} {found : Found}
    (nothing : found.reads = []) : Consistent driver input found := by
  constructor
  · rw [nothing]
    exact List.forall_mem_nil _
  · exact fun some => absurd nothing some

/-- The mode as an `int`. -/
theorem qmapMode_iff (mode : UInt32) :
    ((Int32.ofInt mode.toNat).toInt = 0 ↔ mode = 0) ∧ ((Int32.ofInt mode.toNat).toInt = 1 ↔ mode = 1) := by
  have small := mode.toNat_lt
  rw [Int32.toInt_ofInt, Int.bmod, Int32.size, ← UInt32.toNat_inj, ← UInt32.toNat_inj,
    UInt32.toNat_zero, UInt32.toNat_one]
  constructor <;> split <;> omega

/-- With Quectel's driver: the entry is there. -/
theorem rmnetDetect_iff {driver : Driver} {input : Input} {info : RmnetInfo}
    (report : driver.rmnetInfo = some info) :
    Consistent driver input (rmnetDetect info input) ↔ driver.Meets input := by
  have entries : driver.report = info.report := by rw [Driver.report, report]
  have index : driver.selected input = selected (info.qmapMode = 1) input := by
    rw [Driver.selected, report]
  have count : info.report.count = min 8 info.qmapMode.toNat := rfl
  obtain ⟨zero, one⟩ := qmapMode_iff info.qmapMode
  rw [Driver.Meets, report]
  dsimp only
  rw [rmnetDetect]
  by_cases none : info.qmapMode = 0
  · rw [if_pos (zero.mpr none)]
    exact iff_of_true (consistent_of_nil rfl) (.inl none)
  · have same : (if (Int32.ofInt info.qmapMode.toNat).toInt = 1 then 0
        else if input.muxid = 0 then input.pdp - 1 else input.muxid - 0x81) =
        driver.selected input := by
      rw [index, selected]
      simp only [one]
    rw [if_neg (mt zero.mp none), or_iff_right none, same]
    constructor
    · rintro ⟨inside, -⟩
      have read := inside (.muxId (driver.selected input)) (.head _)
      rw [Driver.Holds, entries, count] at read
      exact_mod_cast read
    · rintro ⟨low, high⟩
      have holds : 0 ≤ driver.selected input ∧ driver.selected input < driver.report.count := by
        rw [entries, count]
        exact_mod_cast And.intro low high
      refine ⟨?_, fun _ => ?_⟩
      · rintro r member
        rcases List.mem_cons.mp member with rfl | member
        · exact holds
        · cases List.mem_singleton.mp member
          exact holds
      · obtain ⟨k, place⟩ := Int.eq_ofNat_of_zero_le low
        refine ⟨k, by omega, place, ?_, ?_⟩
        · rw [entries, place]
          rfl
        · rw [entries, place]
          -- The name is not cut off.
          have short := info.named k (by omega) (by omega)
          exact List.take_of_length_le (by omega)

/-- What is read of the ids. -/
theorem muxDetect_lists {driver : Driver} {input : Input} (kernel : driver.rmnetInfo = none)
    (accessible : driver.qmimux (input.pdp - 1) = .ok) (some : driver.ids ≠ []) :
    (muxDetect driver input).reads = idReads (driver.selected input) ∧
      (muxDetect driver input).muxid = idAt driver (driver.selected input) ∧
      (muxDetect driver input).qmapnetAdapter =
        qmimuxName (if 1 < driver.ids.length ∧ input.muxid ≠ 0 then
          idAt driver (driver.selected input) - 0x81 else driver.selected input) := by
  have index : driver.selected input = selected (driver.ids.length = 1) input := by
    rw [Driver.selected, kernel]
  have length := length_muxBuf driver
  have positive := List.length_pos_iff.mpr some
  rw [muxDetect]
  dsimp only
  rw [if_neg (by rw [length]; simp only [accessible, ne_eq, not_true, false_or]; omega), index, selected]
  by_cases single : driver.ids.length = 1
  · rw [if_pos (by omega), if_pos single, if_neg (by omega)]
    exact ⟨rfl, rfl, rfl⟩
  · rw [if_neg (by omega), if_neg single]
    by_cases context : input.muxid = 0
    · rw [if_pos context, if_pos context, if_neg fun both => both.2 context]
      exact ⟨rfl, rfl, rfl⟩
    · rw [if_neg context, if_neg context, if_pos ⟨by omega, context⟩]
      exact ⟨rfl, rfl, rfl⟩

/-- With the driver of the kernel: the entry is in the buffer, its id is read right, and the card is
not named after another one. -/
theorem muxDetect_iff {driver : Driver} {input : Input} (kernel : driver.rmnetInfo = none)
    (lists : driver.Lists input) :
    Consistent driver input (muxDetect driver input) ↔ driver.Meets input := by
  have entries : driver.report = listed driver.ids := by rw [Driver.report, kernel]
  obtain ⟨reads, muxid, adapter⟩ := muxDetect_lists kernel lists.2.2.1 lists.2.2.2
  have length := length_muxBuf driver
  have given : 1 < driver.ids.length → input.muxid ≠ 0 → driver.selected input = input.muxid - 0x81 := by
    intro several channel
    rw [Driver.selected, kernel]
    dsimp only
    rw [selected, if_neg (by omega), if_neg channel]
  rw [Driver.Meets, kernel]
  dsimp only
  rw [forall_prop_of_true lists]
  -- The name of the card says which channel it is.
  have card {k : Nat} (place : driver.selected input = k) (value : idAt driver k = input.muxid ∨
      ¬(1 < driver.ids.length ∧ input.muxid ≠ 0)) :
      (muxDetect driver input).qmapnetAdapter = qmimuxName k := by
    rw [adapter, qmimuxName_inj]
    split
    next both =>
      have number := given both.1 both.2
      rcases value with value | other
      · rw [place] at number ⊢
        omega
      · exact absurd both other
    next => exact place
  constructor
  · rintro ⟨inside, entry⟩
    rw [reads] at inside entry
    obtain ⟨k, below, place, id, name⟩ := entry (List.cons_ne_nil _ _)
    have last := inside (.buf (5 * driver.selected input + 3)) (.tail _ (.head _))
    rw [Driver.Holds, length, place] at last
    rw [entries] at below id name
    change k < driver.ids.length at below
    have room : k < 25 := by omega
    have known : driver.ids[k]? = some driver.ids[k] := List.getElem?_eq_getElem below
    rw [muxid, place] at id
    change idAt driver k = ((driver.ids[k]?.map HexId.value).getD 0 : Nat) at id
    rw [known, Option.map_some, Option.getD_some] at id
    refine ⟨k, room, place, _, known, (idAt_iff room known).mp id, fun several channel => ?_⟩
    rw [adapter, if_pos ⟨several, channel⟩, place] at name
    have number := given several channel
    have same := qmimuxName_inj.mp name
    omega
  · rintro ⟨k, room, place, id, known, decimal, channel⟩
    have below : k < driver.ids.length := (List.getElem?_eq_some_iff.mp known).1
    have value := (idAt_iff room known).mpr decimal
    constructor
    · rw [reads, place]
      rintro r member
      rcases List.mem_cons.mp member with rfl | member
      · rw [Driver.Holds, length]
        omega
      · cases List.mem_singleton.mp member
        rw [Driver.Holds, length]
        omega
    · intro _
      rw [entries]
      refine ⟨k, below, place, ?_, card place ?_⟩
      · rw [muxid, place, value]
        change (id.value : Int) = ((driver.ids[k]?.map HexId.value).getD 0 : Nat)
        rw [known]
        rfl
      · by_cases both : 1 < driver.ids.length ∧ input.muxid ≠ 0
        · exact .inl (value.trans (channel both.1 both.2))
        · exact .inr both

/-- A file with the mode needs no table. -/
theorem fileDetect_reads (driver : Driver) (content : List Char) (input : Input) :
    (fileDetect driver content input).reads = [] := by
  rw [fileDetect]
  split
  next => rfl
  next =>
    dsimp only
    split
    next => rfl
    next => split <;> rfl

/-- Without the first card of the context, or without ids, none of them is read. -/
theorem muxDetect_reads {driver : Driver} {input : Input}
    (none : ¬(driver.qmimux (input.pdp - 1) = .ok ∧ driver.ids ≠ [])) :
    (muxDetect driver input).reads = [] := by
  have empty : driver.qmimux (input.pdp - 1) ≠ .ok ∨ (muxBuf driver).length < 5 := by
    rw [length_muxBuf]
    by_cases accessible : driver.qmimux (input.pdp - 1) = .ok
    · right
      have nothing : driver.ids = [] := by
        by_contra some
        exact none ⟨accessible, some⟩
      rw [nothing]
      decide
    · exact .inl accessible
  rw [muxDetect, if_pos empty]

/-- Nothing but the entries that exist is read, and the channel is the one of the entry that the
command line selects, exactly if that entry exists, and for the driver of the kernel its id has no
letters and is the number of the channel that is given. -/
theorem channel_consistent_iff (signed : Bool) (args : List Arg) (driver : Driver) :
    ∀ input ∈ parseUserInput signed args,
      (Consistent driver input (qmiQmapModeDetect driver input) ↔ driver.Meets input) := by
  intro input _
  rw [qmiQmapModeDetect, consistent_withDefaults]
  cases report : driver.rmnetInfo with
  | some info => exact rmnetDetect_iff report
  | none =>
    have unlisted (other : ¬driver.Lists input) : driver.Meets input := by
      rw [Driver.Meets, report]
      exact fun lists => absurd lists other
    have lists : driver.Lists input ↔ (findModeFile driver).1 = .missing ∧ driver.qmiWwan = true ∧
        driver.qmimux (input.pdp - 1) = .ok ∧ driver.ids ≠ [] := Iff.rfl
    cases file : findModeFile driver with
    | mk access content =>
      rw [file] at lists
      cases access with
      | ok =>
        refine iff_of_true (consistent_of_nil (fileDetect_reads _ _ _)) (unlisted ?_)
        rw [lists]
        exact fun all => by cases all.1
      | failed =>
        refine iff_of_true (consistent_of_nil rfl) (unlisted ?_)
        rw [lists]
        exact fun all => by cases all.1
      | missing =>
        cases kernel : driver.qmiWwan with
        | false =>
          refine iff_of_true (consistent_of_nil rfl) (unlisted ?_)
          rw [lists, kernel]
          exact fun all => by cases all.2.1
        | true =>
          by_cases listed : driver.qmimux (input.pdp - 1) = .ok ∧ driver.ids ≠ []
          · exact muxDetect_iff report (lists.mpr ⟨rfl, kernel, listed⟩)
          · refine iff_of_true (consistent_of_nil (muxDetect_reads listed)) (unlisted ?_)
            rw [lists]
            exact fun all => listed all.2.2

/-- A driver of Quectel with two channels. -/
def twoChannels : RmnetInfo where
  rxUrbSize := 16384
  qmapMode := 2
  qmapVersion := 5
  ifname i := if i = 0 then "rmnet_usb0.1".toList else if i = 1 then "rmnet_usb0.2".toList else []
  muxId i := if i = 0 then 0x81 else if i = 1 then 0x82 else 0
  named i _ _ := by split <;> [decide; (split <;> decide)]

def twoChannelDriver : Driver where
  usbnetAdapter := "rmnet_usb0".toList
  rmnetInfo := some twoChannels
  modeFile _ := (.missing, [])
  qmiWwan := false
  qmimux _ := .missing
  ids := []
  stray _ := 0
  qmapSize := none

/-- The second channel of two. -/
theorem channel_consistent_second :
    (twoChannelDriver.Meets { pdp := 2, enableIpv4 := true }) ∧
      Consistent twoChannelDriver { pdp := 2, enableIpv4 := true }
        (qmiQmapModeDetect twoChannelDriver { pdp := 2, enableIpv4 := true }) := by
  have meets : twoChannelDriver.Meets { pdp := 2, enableIpv4 := true } := .inr (by decide)
  have accepted : parseUserInput true [[45, 110], [50]] = some { pdp := 2, enableIpv4 := true } := by
    decide +kernel
  exact ⟨meets, (channel_consistent_iff true _ twoChannelDriver _ accepted).mpr meets⟩

/-- Two channels of the driver of the kernel, which are numbered from the other end. -/
def kernelDriver : Driver where
  usbnetAdapter := "wwan0".toList
  rmnetInfo := none
  modeFile _ := (.missing, [])
  qmiWwan := true
  qmimux _ := .ok
  ids := [⟨'8', '2', rfl, rfl⟩, ⟨'8', '1', rfl, rfl⟩]
  stray _ := 0
  qmapSize := none

/-- With `-m 1` the id of the first entry is taken, and the card of the second. -/
theorem channel_not_consistent :
    ¬∀ (signed : Bool) (args : List Arg) (driver : Driver), ∀ input ∈ parseUserInput signed args,
      Consistent driver input (qmiQmapModeDetect driver input) := by
  intro consistent
  have accepted : parseUserInput true [[45, 109], [49]] = some { muxid := 0x81, enableIpv4 := true } := by
    decide +kernel
  have entry := (consistent true _ kernelDriver _ accepted).entry
  have found : (qmiQmapModeDetect kernelDriver { muxid := 0x81, enableIpv4 := true }).qmapnetAdapter =
      qmimuxName 1 := by
    decide +kernel
  obtain ⟨k, -, place, -, card⟩ := entry (by decide +kernel)
  rw [found] at card
  have second := qmimuxName_inj.mp card
  have first : kernelDriver.selected { muxid := 0x81, enableIpv4 := true } = 0 := by decide +kernel
  omega

end LorawanFeeds.QmiClient.QmapMode
