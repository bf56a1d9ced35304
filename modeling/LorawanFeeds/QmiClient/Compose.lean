import LorawanFeeds.QmiClient.Tlv

/-!
# The messages of a data call

`ComposeQMUXMsg` of `QMIThread.c` builds a message in a buffer on the stack. `WdsStartNwInterfaceReq`
and `WdsModifyProfileSettingsReq` put one record behind the other into it, with the texts of the
profile copied up to and including their zero. The size of the records is counted in 16 bits.
-/
namespace LorawanFeeds.QmiClient.Compose

open Lib Memory

/-! ### The profile -/

/-- A text of C. -/
structure Text where
  bytes : List UInt8
  ended : 0 ∉ bytes
  deriving DecidableEq, Repr

theorem nil_ended : (0 : UInt8) ∉ [] := List.not_mem_nil

/-- The members of `PROFILE_T` that go into the messages. -/
structure CallProfile where
  apn : Option Text
  user : Option Text
  password : Option Text
  auth : Int32
  iptype : Int32
  curIpFamily : Int32
  profileIndex : Int32
  deriving DecidableEq, Repr

/-- `s_is_cdma` and `s_hdr_personality`. -/
structure Technology where
  isCdma : Bool
  hdrPersonality : Int32
  deriving DecidableEq, Repr

/-- An `int` in a member of one byte. -/
def toUChar (i : Int32) : UInt8 := i.toUInt32.toUInt8

/-! ### Records in the buffer -/

/-- What a record is made of: a byte, or a text. -/
inductive Part where
  | byte (type value : UInt8)
  | text (type : UInt8) (text : Text)
  deriving DecidableEq, Repr

namespace Part

def type : Part → UInt8
  | byte type _ => type
  | text type _ => type

def value : Part → List UInt8
  | byte _ value => [value]
  | text _ t => t.bytes

/-- The member `TLVLength`. -/
def tlvLength (part : Part) : UInt16 := part.value.length.toUInt16

/-- What is written; `qstrcpy` writes the zero, too. -/
def written (part : Part) : List UInt8 :=
  part.type :: (bytes16 part.tlvLength ++ part.value ++
    match part with
    | byte _ _ => []
    | text _ _ => [0])

/-- The bytes of the record. -/
def size (part : Part) : Nat := 3 + part.value.length

end Part

/-- A builder of records: what has been written, and its `TLVLength`. -/
structure Builder where
  writes : List Write
  tlvLength : UInt16

/-- One record at `pTLV + TLVLength`. -/
def Builder.add (pTLV : Nat) (b : Builder) (part : Part) : Builder where
  writes := b.writes ++ [⟨pTLV + b.tlvLength.toNat, part.written⟩]
  tlvLength := b.tlvLength + (part.tlvLength + 3)

def Builder.addAll (pTLV : Nat) (b : Builder) (parts : List Part) : Builder :=
  parts.foldl (add pTLV) b

/-- A text, if there is one. -/
def textPart (type : UInt8) (text : Option Text) : List Part := (text.map (Part.text type)).toList

/-! ### The two requests -/

/-- `text == NULL || text[0] == 0`. -/
def blank (text : Option Text) : Bool := text.all fun t => t.bytes.isEmpty

/-- The texts "ctnet@mycdma.cn" and "vnet.mobi". -/
def ctnetUser : Text :=
  ⟨[99, 116, 110, 101, 116, 64, 109, 121, 99, 100, 109, 97, 46, 99, 110], by decide⟩
def ctnetPassword : Text := ⟨[118, 110, 101, 116, 46, 109, 111, 98, 105], by decide⟩

/-- The user, the password and the authentication of a data call. -/
def credentials (tech : Technology) (profile : CallProfile) : Option Text × Option Text × Int32 :=
  if tech.isCdma ∧ blank profile.user ∧ blank profile.password then
    (some ctnetUser, some ctnetPassword, 2)
  else (profile.user, profile.password, profile.auth)

/-- The records of `WdsStartNwInterfaceReq`. -/
def startParts (tech : Technology) (profile : CallProfile) : List Part :=
  let (user, password, auth) := credentials tech profile
  .byte 0x30 (if tech.isCdma then 0x02 else 0x01) ::
    ((if tech.isCdma then [] else textPart 0x14 profile.apn) ++
    textPart 0x17 user ++ textPart 0x18 password ++
    (if user.isSome ∧ password.isSome then [.byte 0x16 (toUChar auth)] else []) ++
    [.byte 0x19 (toUChar profile.curIpFamily)] ++
    if profile.profileIndex ≠ 0 ∧ ¬ tech.isCdma then
      -- the source asks again whether this is CDMA
      [if tech.isCdma ∧ tech.hdrPersonality = 0x02 then .byte 0x32 101
        else .byte 0x31 (toUChar profile.profileIndex)]
    else [])

/-- The records of `WdsModifyProfileSettingsReq` behind the identifier of the profile. -/
def modifyParts (profile : CallProfile) : List Part :=
  .byte 0x11 (toUChar profile.iptype) ::
    (textPart 0x14 profile.apn ++ textPart 0x1B profile.user ++ textPart 0x1C profile.password ++
    if profile.user.isSome ∧ profile.password.isSome then [.byte 0x1D (toUChar profile.auth)] else [])

/-- `WdsStartNwInterfaceReq`: what it writes, and what it returns. The message behind the headers
begins at 9. -/
def wdsStartNwInterfaceReq (tech : Technology) (profile : CallProfile) : List Write × UInt16 :=
  let b := Builder.addAll 13 ⟨[⟨11, bytes16 0⟩], 0⟩ (startParts tech profile)
  (b.writes, 4 + b.tlvLength)

/-- `WdsModifyProfileSettingsReq`. -/
def wdsModifyProfileSettingsReq (profile : CallProfile) : List Write × UInt16 :=
  let b := Builder.addAll 18
    ⟨[⟨11, bytes16 5⟩, ⟨13, [0x01, 2, 0, 0x00, toUChar profile.profileIndex]⟩], 0⟩ (modifyParts profile)
  (b.writes, 9 + b.tlvLength)

/-- A message, by what has been written into the buffer, and how many bytes are copied out of it. -/
structure Composed where
  writes : List Write
  length : Nat

/-- `WDM_DEFAULT_BUFSIZE`. -/
def bufferSize : Nat := 256

/-- `ComposeQMUXMsg`, with the number of the transaction and the result of the custom function. -/
def composeQMUXMsg (qmiType : UInt8) (type transactionId : UInt16) (custom : List Write × UInt16) :
    Composed :=
  let qmuxLength := custom.2 - 4
  let qmiLength := qmuxLength + (4 + 3 + 6 - 1)
  { writes := [⟨0, [0x01]⟩, ⟨3, [0x00]⟩, ⟨4, [qmiType]⟩, ⟨6, [0x00]⟩, ⟨7, bytes16 transactionId⟩,
      ⟨9, bytes16 type⟩] ++ custom.1 ++ [⟨11, bytes16 qmuxLength⟩, ⟨1, bytes16 qmiLength⟩]
    length := qmiLength.toNat + 1 }

/-- The buffer, which is zero at first. -/
def Composed.memory (message : Composed) : Memory := Write.applyAll (fun _ => 0) message.writes

/-- Nothing is written and nothing is read outside of the buffer. -/
structure Composed.Safe (message : Composed) : Prop where
  writes : ∀ w ∈ message.writes, w.Inside bufferSize
  copy : message.length ≤ bufferSize

/-! ### What fits -/

/-- The records are written into a block of this size, from an offset on. -/
def Fit (limit : Nat) : Nat → List Part → Prop
  | _, [] => True
  | offset, part :: rest =>
    offset + part.written.length ≤ limit ∧ Fit limit (offset + part.size) rest

/-- The size of some records. -/
def sizeAll (parts : List Part) : Nat := (parts.map Part.size).sum

/-- The zero that is written behind a text in the last place. -/
def trailing (parts : List Part) : Nat :=
  match parts.getLast? with
  | some (.text _ _) => 1
  | _ => 0

namespace Part

theorem length_written (part : Part) : part.written.length = part.size + trailing [part] := by
  cases part <;> simp [written, size, trailing, value, bytes16]
  omega

theorem toNat_tlvLength {part : Part} (fits : part.value.length < 2 ^ 16) :
    part.tlvLength.toNat = part.value.length := by
  rw [tlvLength, Nat.toUInt16, UInt16.toNat_ofNat_of_lt' fits]

/-- A record is written with nothing behind it, or with a zero. -/
theorem written_eq (part : Part) (fits : part.value.length < 2 ^ 16) :
    ∃ zero, part.written = (⟨part.type, part.value, fits⟩ : Tlv).encode ++ zero := by
  have length := toNat_tlvLength fits
  cases part with
  | byte type value => exact ⟨[], by simp [written, bytes16, length, Tlv.encode]⟩
  | text type t => exact ⟨[0], by simp [written, bytes16, length, Tlv.encode]⟩

end Part

theorem trailing_cons_cons (part next : Part) (rest : List Part) :
    trailing (part :: next :: rest) = trailing (next :: rest) := by
  rw [trailing, trailing, List.getLast?_cons_cons]

theorem trailing_le (parts : List Part) : trailing parts ≤ 1 := by
  rw [trailing]
  split <;> omega

/-- A text ends before the next record does. -/
theorem fit_iff {limit offset : Nat} (part : Part) (rest : List Part) :
    Fit limit offset (part :: rest) ↔
      offset + sizeAll (part :: rest) + trailing (part :: rest) ≤ limit := by
  induction rest generalizing part offset with
  | nil =>
    simp only [Fit, and_true, part.length_written, sizeAll, List.map_cons, List.map_nil, List.sum_cons,
      List.sum_nil]
    omega
  | cons next rest ih =>
    have small := trailing_le [part]
    have more : 3 ≤ next.size := by simp [Part.size]
    rw [Fit, ih next, trailing_cons_cons, part.length_written]
    simp only [sizeAll, List.map_cons, List.sum_cons]
    omega

namespace Builder

theorem addAll_cons (pTLV : Nat) (b : Builder) (part : Part) (rest : List Part) :
    b.addAll pTLV (part :: rest) = (b.add pTLV part).addAll pTLV rest := rfl

/-- The counter after a record that fits. -/
theorem toNat_add {pTLV limit : Nat} {b : Builder} {part : Part} (small : limit < 2 ^ 16)
    (fits : pTLV + b.tlvLength.toNat + part.written.length ≤ limit) :
    (b.add pTLV part).tlvLength.toNat = b.tlvLength.toNat + part.size := by
  rw [part.length_written, Part.size] at fits
  have length := @Part.toNat_tlvLength part (by omega)
  rw [add, UInt16.toNat_add, UInt16.toNat_add, length, show (3 : UInt16).toNat = 3 from rfl, Part.size]
  omega

/-- A record that does not fit is written all the same. -/
theorem inside_addAll {pTLV limit : Nat} (small : limit < 2 ^ 16) (b : Builder) (parts : List Part) :
    (∀ w ∈ (b.addAll pTLV parts).writes, w.Inside limit) ↔
      (∀ w ∈ b.writes, w.Inside limit) ∧ Fit limit (pTLV + b.tlvLength.toNat) parts := by
  induction parts generalizing b with
  | nil => simp [addAll, Fit]
  | cons part rest ih =>
    have first : (∀ w ∈ (b.add pTLV part).writes, w.Inside limit) ↔
        (∀ w ∈ b.writes, w.Inside limit) ∧
          pTLV + b.tlvLength.toNat + part.written.length ≤ limit := by
      simp only [add, List.mem_append, List.mem_singleton, or_imp, forall_and, forall_eq]
      rfl
    rw [addAll_cons, ih, first, Fit, and_assoc]
    apply and_congr_right
    intro _
    apply and_congr_right
    intro fits
    rw [toNat_add small fits, ← Nat.add_assoc]

/-- The counter at the end. -/
theorem toNat_addAll {pTLV limit : Nat} (small : limit < 2 ^ 16) (b : Builder) (parts : List Part)
    (fit : Fit limit (pTLV + b.tlvLength.toNat) parts) :
    (b.addAll pTLV parts).tlvLength.toNat = b.tlvLength.toNat + sizeAll parts := by
  induction parts generalizing b with
  | nil => rfl
  | cons part rest ih =>
    obtain ⟨fits, more⟩ := fit
    have next := toNat_add small fits
    rw [addAll_cons, ih _ (by rwa [next, ← Nat.add_assoc]), next]
    simp only [sizeAll, List.map_cons, List.sum_cons]
    omega

end Builder

/-! ### The message -/

section

variable {own : Nat} {tlvLength : UInt16} (qmiType : UInt8) (type transactionId : UInt16)

/-- The two lengths of a message whose custom function has `own` bytes and these records. -/
theorem toNat_lengths (some : 4 ≤ own) (fits : 9 + own + tlvLength.toNat ≤ bufferSize) :
    (own.toUInt16 + tlvLength - 4).toNat = own - 4 + tlvLength.toNat ∧
    (own.toUInt16 + tlvLength - 4 + (4 + 3 + 6 - 1)).toNat = own + 8 + tlvLength.toNat := by
  rw [bufferSize] at fits
  have first : own.toUInt16.toNat = own := UInt16.toNat_ofNat_of_lt' (show own < 2 ^ 16 by omega)
  have value : (own.toUInt16 + tlvLength - 4).toNat = own - 4 + tlvLength.toNat := by
    rw [UInt16.toNat_sub, UInt16.toNat_add, first, show (4 : UInt16).toNat = 4 from rfl]
    omega
  refine ⟨value, ?_⟩
  rw [UInt16.toNat_add, value, show (4 + 3 + 6 - 1 : UInt16).toNat = 12 from rfl]
  omega

/-- The records begin behind the `own` bytes of the custom function. -/
theorem safe_iff {head : List Write} {parts : List Part} (some : 4 ≤ own)
    (inside : ∀ w ∈ head, w.Inside bufferSize) (nonempty : parts ≠ []) :
    (composeQMUXMsg qmiType type transactionId
      ((Builder.addAll (9 + own) ⟨head, 0⟩ parts).writes,
        own.toUInt16 + (Builder.addAll (9 + own) ⟨head, 0⟩ parts).tlvLength)).Safe ↔
      9 + own + sizeAll parts + trailing parts ≤ bufferSize := by
  have builder := @Builder.inside_addAll (9 + own) bufferSize (by decide) ⟨head, 0⟩ parts
  have counter := @Builder.toNat_addAll (9 + own) bufferSize (by decide) ⟨head, 0⟩ parts
  obtain ⟨part, rest, rfl⟩ := List.exists_cons_of_ne_nil nonempty
  rw [show ((0 : UInt16).toNat) = 0 from rfl, Nat.add_zero] at builder counter
  rw [Nat.zero_add] at counter
  constructor
  · intro safe
    apply (fit_iff part rest).mp
    apply (builder.mp fun w member => safe.writes w ?_).2
    simp [composeQMUXMsg, member]
  · intro total
    have fit := (fit_iff part rest).mpr total
    have lengths := (toNat_lengths some (by rw [counter fit]; omega)).2
    constructor
    · simp only [composeQMUXMsg, List.mem_append, List.mem_cons, List.not_mem_nil, or_false]
      rintro w ((fixed | own') | last)
      · rcases fixed with rfl | rfl | rfl | rfl | rfl | rfl <;>
          simp [Write.Inside, bytes16, bufferSize]
      · exact builder.mpr ⟨inside, fit⟩ w own'
      · rcases last with rfl | rfl <;> simp [Write.Inside, bytes16, bufferSize]
    · show _ + 1 ≤ bufferSize
      rw [lengths, counter fit]
      omega

end

/-! ### Messages that stay inside -/

/-- The bytes of the record of a text, if there is one. -/
def textSize (text : Option Text) : Nat := text.elim 0 fun t => 3 + t.bytes.length

/-- The size of a start request. -/
def startSize (tech : Technology) (profile : CallProfile) : Nat :=
  let (user, password, _) := credentials tech profile
  13 + 4 + (if tech.isCdma then 0 else textSize profile.apn) + textSize user + textSize password +
    (if user.isSome ∧ password.isSome then 4 else 0) + 4 +
    (if profile.profileIndex ≠ 0 ∧ ¬ tech.isCdma then 4 else 0)

/-- The size of a modify request, with the zero behind a text in the last place. -/
def modifySize (profile : CallProfile) : Nat :=
  18 + 4 + textSize profile.apn + textSize profile.user + textSize profile.password +
    if profile.user.isSome ∧ profile.password.isSome then 4
    else if profile.apn.isSome ∨ profile.user.isSome ∨ profile.password.isSome then 1
    else 0

theorem sizeAll_cons (part : Part) (rest : List Part) :
    sizeAll (part :: rest) = part.size + sizeAll rest := rfl

theorem sizeAll_append (front back : List Part) :
    sizeAll (front ++ back) = sizeAll front + sizeAll back := by
  simp [sizeAll]

theorem sizeAll_textPart (type : UInt8) (text : Option Text) :
    sizeAll (textPart type text) = textSize text := by
  cases text <;> simp [textPart, sizeAll, textSize, Part.size, Part.value]

theorem sizeAll_nil : sizeAll [] = 0 := rfl

theorem trailing_byte (front : List Part) (type value : UInt8) :
    trailing (front ++ [.byte type value]) = 0 := by
  simp [trailing]

theorem startParts_size (tech : Technology) (profile : CallProfile) :
    13 + sizeAll (startParts tech profile) + trailing (startParts tech profile) =
      startSize tech profile := by
  simp only [startParts, startSize]
  generalize credentials tech profile = chosen
  obtain ⟨user, password, auth⟩ := chosen
  simp only
  have ends (front : List Part) : trailing (front ++ [.byte 0x19 (toUChar profile.curIpFamily)] ++
      if profile.profileIndex ≠ 0 ∧ ¬ tech.isCdma then
        [if tech.isCdma ∧ tech.hdrPersonality = 0x02 then .byte 0x32 101
          else .byte 0x31 (toUChar profile.profileIndex)]
      else []) = 0 := by
    split
    · split
      · exact trailing_byte _ _ _
      · exact trailing_byte _ _ _
    · rw [List.append_nil]
      exact trailing_byte _ _ _
  have index : sizeAll (if profile.profileIndex ≠ 0 ∧ ¬ tech.isCdma then
        [if tech.isCdma ∧ tech.hdrPersonality = 0x02 then .byte 0x32 101
          else .byte 0x31 (toUChar profile.profileIndex)]
      else []) = if profile.profileIndex ≠ 0 ∧ ¬ tech.isCdma then 4 else 0 := by
    repeat' split
    all_goals rfl
  have auths : sizeAll (if user.isSome ∧ password.isSome then [.byte 0x16 (toUChar auth)] else []) =
      if user.isSome ∧ password.isSome then 4 else 0 := by
    split <;> rfl
  have apn : sizeAll (if tech.isCdma then [] else textPart 0x14 profile.apn) =
      if tech.isCdma then 0 else textSize profile.apn := by
    split
    · rfl
    · exact sizeAll_textPart _ _
  rw [← List.cons_append, ← List.cons_append, ends]
  simp only [sizeAll_cons, sizeAll_append, sizeAll_textPart, sizeAll_nil, index, auths, apn, Part.size,
    Part.value, List.length_singleton]
  omega

theorem modifyParts_size (profile : CallProfile) :
    18 + sizeAll (modifyParts profile) + trailing (modifyParts profile) = modifySize profile := by
  obtain ⟨apn, user, password, auth, iptype, family, index⟩ := profile
  cases apn <;> cases user <;> cases password <;>
    simp [modifyParts, modifySize, textPart, textSize, sizeAll, trailing, Part.size, Part.value] <;>
    omega

section

variable (qmiType : UInt8) (type transactionId : UInt16) (tech : Technology) (profile : CallProfile)

theorem start_safe_iff :
    (composeQMUXMsg qmiType type transactionId (wdsStartNwInterfaceReq tech profile)).Safe ↔
      startSize tech profile ≤ bufferSize := by
  rw [← startParts_size]
  apply @safe_iff 4 qmiType type transactionId _ _ (by decide)
  · simp [Write.Inside, bytes16, bufferSize]
  · simp [startParts]

theorem modify_safe_iff :
    (composeQMUXMsg qmiType type transactionId (wdsModifyProfileSettingsReq profile)).Safe ↔
      modifySize profile ≤ bufferSize := by
  rw [← modifyParts_size]
  apply @safe_iff 9 qmiType type transactionId _ _ (by decide)
  · simp [Write.Inside, bytes16, bufferSize]
  · simp [modifyParts]

/-- A request stays inside of the buffer exactly if the texts of the profile are short enough. -/
theorem requests_inside_iff :
    ((composeQMUXMsg qmiType type transactionId (wdsStartNwInterfaceReq tech profile)).Safe ↔
      startSize tech profile ≤ bufferSize) ∧
    ((composeQMUXMsg qmiType type transactionId (wdsModifyProfileSettingsReq profile)).Safe ↔
      modifySize profile ≤ bufferSize) :=
  ⟨start_safe_iff qmiType type transactionId tech profile,
    modify_safe_iff qmiType type transactionId profile⟩

end

/-- A profile with an APN of this length, and no credentials. -/
def longApn (length : Nat) : CallProfile where
  apn := some ⟨List.replicate length 97, by simp [List.mem_replicate]⟩
  user := none
  password := none
  auth := 0
  iptype := 0
  curIpFamily := 4
  profileIndex := 1

theorem size_longApn (length : Nat) :
    startSize ⟨false, 0⟩ (longApn length) = 28 + length ∧ modifySize (longApn length) = 26 + length := by
  simp [startSize, modifySize, credentials, textSize, longApn]
  omega

/-- The command line does not limit the length of the APN. -/
theorem long_apn_overruns :
    ¬ (composeQMUXMsg 1 0x20 1 (wdsStartNwInterfaceReq ⟨false, 0⟩ (longApn 300))).Safe ∧
    ¬ (composeQMUXMsg 1 0x28 1 (wdsModifyProfileSettingsReq (longApn 300))).Safe := by
  rw [start_safe_iff, modify_safe_iff, (size_longApn 300).1, (size_longApn 300).2]
  decide

/-! ### Messages that are read back -/

namespace Builder

/-- The records, as they stand in the buffer. -/
theorem holds_addAll {pTLV limit : Nat} (small : limit < 2 ^ 16) (m : Memory) (b : Builder)
    (parts : List Part) (fit : Fit limit (pTLV + b.tlvLength.toNat) parts) :
    ∃ ts : List Tlv, ts.map (fun t => (t.type, t.value)) = parts.map (fun p => (p.type, p.value)) ∧
      (Write.applyAll m (b.addAll pTLV parts).writes).Holds (pTLV + b.tlvLength.toNat)
        (Tlv.encodeAll ts) ∧
      ∀ k < pTLV + b.tlvLength.toNat,
        Write.applyAll m (b.addAll pTLV parts).writes k = Write.applyAll m b.writes k := by
  induction parts generalizing b with
  | nil =>
    refine ⟨[], rfl, ?_, fun k _ => rfl⟩
    rintro k ⟨⟩
  | cons part rest ih =>
    obtain ⟨fits, more⟩ := fit
    have next := toNat_add small fits
    obtain ⟨ts, same, holds, below⟩ := ih (b.add pTLV part) (by rwa [next, ← Nat.add_assoc])
    rw [next, ← Nat.add_assoc] at holds below
    have length := part.length_written
    have short : part.value.length < 2 ^ 16 := by
      rw [Part.size] at length
      omega
    let t : Tlv := ⟨part.type, part.value, short⟩
    obtain ⟨zero, written⟩ : ∃ zero, part.written = t.encode ++ zero := part.written_eq short
    have stands : (Write.applyAll m (b.add pTLV part).writes).Holds (pTLV + b.tlvLength.toNat)
        (t.encode ++ zero) := by
      rw [add, Write.applyAll_concat, ← written]
      exact Write.holds_apply _ ⟨_, _⟩
    refine ⟨t :: ts, by simp [same, t], ?_, fun k low => ?_⟩
    · rw [addAll_cons, Tlv.encodeAll_cons, holds_append, Tlv.length_encode]
      refine ⟨(holds_append.mp stands).1.congr fun k _ high => ?_, holds⟩
      rw [Tlv.length_encode] at high
      exact below k high
    · rw [addAll_cons, below k (by omega), add, Write.applyAll_concat]
      exact Write.apply_outside _ _ (.inl low)

end Builder

/-- What a message is to say, type by type. -/
abbrev Fields := List (UInt8 × Option (List UInt8))

/-- The fields of a start request with these credentials. -/
def startFields (tech : Technology) (chosen : Option Text × Option Text × Int32)
    (profile : CallProfile) : Fields :=
  [(0x30, some [if tech.isCdma then 0x02 else 0x01]),
    (0x14, if tech.isCdma then none else profile.apn.map Text.bytes),
    (0x17, chosen.1.map Text.bytes),
    (0x18, chosen.2.1.map Text.bytes),
    (0x16, if chosen.1.isSome ∧ chosen.2.1.isSome then some [toUChar chosen.2.2] else none),
    (0x19, some [toUChar profile.curIpFamily]),
    (0x31, if profile.profileIndex ≠ 0 ∧ ¬ tech.isCdma then some [toUChar profile.profileIndex]
      else none)]

/-- The fields of a modify request. -/
def modifyFields (profile : CallProfile) : Fields :=
  [(0x01, some [0x00, toUChar profile.profileIndex]),
    (0x11, some [toUChar profile.iptype]),
    (0x14, profile.apn.map Text.bytes),
    (0x1B, profile.user.map Text.bytes),
    (0x1C, profile.password.map Text.bytes),
    (0x1D, if profile.user.isSome ∧ profile.password.isSome then some [toUChar profile.auth] else none)]

/-- The fields that there are. -/
def present (fields : Fields) : List (UInt8 × List UInt8) :=
  fields.filterMap fun (type, value) => value.map fun v => (type, v)

def recordSizes (fields : Fields) : Nat := ((present fields).map fun field => 3 + field.2.length).sum

/-- The block has been copied out of the buffer. -/
def Composed.CopiedTo (message : Composed) (m : Memory) : Prop :=
  ∀ k < message.length, m k = message.memory k

/-- The lengths of a message are those of its content, and `GetTLV` finds the fields, and no others. -/
structure RoundTrip (message : Composed) (m : Memory) (fields : Fields) : Prop where
  total : message.length = 13 + recordSizes fields
  qmiLength : (m.le16 1).toNat = message.length - 1
  qmuxLength : (m.le16 11).toNat = recordSizes fields
  found : ∀ type value, (type, some value) ∈ fields → ∃ p, getTLV (m.tail 9) type.toNat = some p ∧
    Tlv.lengthAt (m.tail 9) p = value.length ∧ (m.tail 9).Holds (p + 3) value
  absent : ∀ type, (∀ value, (type, some value) ∉ fields) → getTLV (m.tail 9) type.toNat = none

theorem mem_present {fields : Fields} {type : UInt8} {value : List UInt8} :
    (type, value) ∈ present fields ↔ (type, some value) ∈ fields := by
  simp only [present, List.mem_filterMap, Option.map_eq_some_iff, Prod.mk.injEq, Prod.exists]
  constructor
  · rintro ⟨_, _, member, _, rfl, rfl, rfl⟩
    exact member
  · intro member
    exact ⟨type, some value, member, value, rfl, rfl, rfl⟩

theorem present_nodup {fields : Fields} (distinct : (fields.map Prod.fst).Nodup) :
    ((present fields).map Prod.fst).Nodup := by
  apply List.Nodup.sublist ?_ distinct
  induction fields with
  | nil => exact .slnil
  | cons field rest ih =>
    obtain ⟨type, value⟩ := field
    have later := ih (List.nodup_cons.mp distinct).2
    cases value with
    | none => exact later.cons _
    | some value => exact later.cons_cons _

/-- Among records of different types, each is the first of its own. -/
theorem find?_of_nodup {ts : List Tlv} (distinct : (ts.map Tlv.type).Nodup) {t : Tlv} (member : t ∈ ts) :
    ts.find? (·.type = t.type) = some t := by
  induction ts with
  | nil => cases member
  | cons first rest ih =>
    rw [List.map_cons, List.nodup_cons] at distinct
    rcases List.mem_cons.mp member with rfl | later
    · simp
    · have other : first.type ≠ t.type := by
        intro same
        exact distinct.1 (same ▸ List.mem_map_of_mem later)
      rw [List.find?_cons_of_neg (by simpa using other)]
      exact ih distinct.2 later

section

variable {message : Composed} {m : Memory} {fields : Fields} {ts : List Tlv}

/-- The records are those of the fields, and the lengths count them. -/
theorem RoundTrip.of_records (same : ts.map (fun t => (t.type, t.value)) = present fields)
    (distinct : (fields.map Prod.fst).Nodup) (total : message.length = 13 + (Tlv.encodeAll ts).length)
    (qmi : (m.le16 1).toNat + 1 = message.length)
    (qmux : (m.le16 11).toNat = (Tlv.encodeAll ts).length) (holds : m.Holds 13 (Tlv.encodeAll ts)) :
    RoundTrip message m fields := by
  have sizes : (Tlv.encodeAll ts).length = recordSizes fields := by
    rw [Tlv.length_encodeAll, recordSizes, ← same, List.map_map]
    rfl
  have types : (ts.map Tlv.type).Nodup := by
    have nodup := present_nodup distinct
    rw [← same, List.map_map] at nodup
    exact nodup
  have carries : Carries (m.tail 9) ts := ⟨qmux, holds_tail.mpr holds⟩
  rw [sizes] at total qmux
  refine ⟨total, by omega, qmux, fun type value member => ?_, fun type none => ?_⟩
  · rw [← mem_present, ← same, List.mem_map] at member
    obtain ⟨t, inside, pair⟩ := member
    cases pair
    obtain ⟨p, found, stands⟩ := carries.getTLV_some (find?_of_nodup types inside)
    exact ⟨p, found, Tlv.lengthAt_encode stands, Tlv.holds_value stands⟩
  · apply carries.getTLV_none
    rintro t inside rfl
    apply none t.value
    rw [← mem_present, ← same]
    exact List.mem_map_of_mem inside

end

theorem records_size {ts : List Tlv} {parts : List Part}
    (same : ts.map (fun t => (t.type, t.value)) = parts.map fun p => (p.type, p.value)) :
    (Tlv.encodeAll ts).length = sizeAll parts := by
  have pairs := congrArg (fun l => (l.map fun (_, v) => 3 + v.length).sum) same
  simp only [List.map_map] at pairs
  rw [Tlv.length_encodeAll]
  exact pairs

section

variable (qmiType : UInt8) (type transactionId : UInt16)

/-- What stands in the buffer before the custom function is called. -/
def headers : Memory := Write.applyAll (fun _ => 0)
  [⟨0, [0x01]⟩, ⟨3, [0x00]⟩, ⟨4, [qmiType]⟩, ⟨6, [0x00]⟩, ⟨7, bytes16 transactionId⟩, ⟨9, bytes16 type⟩]

/-- The lengths are written last, in front of what the custom function has written. -/
theorem memory_compose (custom : List Write × UInt16) :
    let message := composeQMUXMsg qmiType type transactionId custom
    message.memory.le16 1 = custom.2 - 4 + (4 + 3 + 6 - 1) ∧
    message.memory.le16 11 = custom.2 - 4 ∧
    ∀ k, 13 ≤ k → message.memory k = Write.applyAll (headers qmiType type transactionId) custom.1 k := by
  intro message
  let qmux : Write := ⟨11, bytes16 (custom.2 - 4)⟩
  let qmi : Write := ⟨1, bytes16 (custom.2 - 4 + (4 + 3 + 6 - 1))⟩
  have memory : message.memory = Write.apply (Write.apply
      (Write.applyAll (headers qmiType type transactionId) custom.1) qmux) qmi := by
    rw [Composed.memory, Write.applyAll]
    simp only [message, composeQMUXMsg, List.foldl_append]
    rfl
  rw [memory]
  refine ⟨(Write.holds_apply _ qmi).le16_eq, ?_, fun k behind => ?_⟩
  · apply Memory.Holds.le16_eq
    apply (Write.holds_apply _ qmux).congr
    intro k low _
    have first : 11 ≤ k := low
    exact Write.apply_outside _ qmi (.inr (show 3 ≤ k by omega))
  · rw [Write.apply_outside _ qmi (.inr (show 3 ≤ k by omega)),
      Write.apply_outside _ qmux (.inr (show 13 ≤ k by omega))]

/-- A message whose custom function has `own` bytes before its records: the records, and the lengths
in the copy. -/
theorem copied_records {own : Nat} {head : List Write} {parts : List Part} (some : 4 ≤ own)
    (nonempty : parts ≠ []) (total : 9 + own + sizeAll parts + trailing parts ≤ bufferSize) {m : Memory} :
    let b := Builder.addAll (9 + own) ⟨head, 0⟩ parts
    let message := composeQMUXMsg qmiType type transactionId (b.writes, own.toUInt16 + b.tlvLength)
    message.CopiedTo m →
    (m.le16 1).toNat + 1 = message.length ∧ message.length = 9 + own + sizeAll parts ∧
    (m.le16 11).toNat = own - 4 + sizeAll parts ∧
    ∃ ts : List Tlv, ts.map (fun t => (t.type, t.value)) = parts.map (fun p => (p.type, p.value)) ∧
      m.Holds (9 + own) (Tlv.encodeAll ts) ∧
      ∀ k, 13 ≤ k → k < 9 + own →
        m k = Write.applyAll (headers qmiType type transactionId) head k := by
  intro b message copied
  obtain ⟨part, rest, rfl⟩ := List.exists_cons_of_ne_nil nonempty
  have fit := (fit_iff part rest).mpr total
  have counter : b.tlvLength.toNat = sizeAll (part :: rest) := by
    have counted := @Builder.toNat_addAll (9 + own) bufferSize (by decide) ⟨head, 0⟩ (part :: rest) fit
    rwa [show ((0 : UInt16).toNat) = 0 from rfl, Nat.zero_add] at counted
  obtain ⟨qmux, qmi⟩ := @toNat_lengths own b.tlvLength some (by rw [counter]; omega)
  obtain ⟨first, second, behind⟩ := memory_compose qmiType type transactionId
    (b.writes, own.toUInt16 + b.tlvLength)
  have length : message.length = 9 + own + sizeAll (part :: rest) := by
    show _ + 1 = _
    rw [qmi, counter]
    omega
  have le16 {offset : Nat} (low : offset + 2 ≤ message.length) :
      m.le16 offset = message.memory.le16 offset := by
    rw [Memory.le16, Memory.le16, copied _ (by omega), copied _ (by omega)]
  obtain ⟨ts, same, holds, below⟩ := @Builder.holds_addAll (9 + own) bufferSize (by decide)
    (headers qmiType type transactionId) ⟨head, 0⟩ (part :: rest) fit
  have sizes := records_size same
  refine ⟨?_, length, ?_, ts, same, ?_, fun k low high => ?_⟩
  · rw [le16 (by omega), first, qmi, length, counter]
    omega
  · rw [le16 (by omega), second, qmux, counter]
  · apply holds.congr
    intro k low high
    have low' : 9 + own ≤ k := low
    have high' : k < 9 + own + sizeAll (part :: rest) := by
      rw [← sizes]
      exact high
    rw [copied k (by omega), behind k (by omega)]
  · rw [copied k (by omega), behind k low]
    exact below k high

end

theorem present_startFields (tech : Technology) (profile : CallProfile) :
    present (startFields tech (credentials tech profile) profile) =
      (startParts tech profile).map fun p => (p.type, p.value) := by
  simp only [startParts, startFields]
  generalize credentials tech profile = chosen
  obtain ⟨user, password, auth⟩ := chosen
  obtain ⟨apn, _, _, _, _, family, index⟩ := profile
  obtain ⟨cdma, hdr⟩ := tech
  by_cases given : index = 0
  · subst given
    cases apn <;> cases user <;> cases password <;> cases cdma <;> rfl
  · cases apn <;> cases user <;> cases password <;> cases cdma <;>
      simp [given, present, textPart, Part.type, Part.value]

theorem present_modifyFields (profile : CallProfile) :
    present (modifyFields profile) = (0x01, [0x00, toUChar profile.profileIndex]) ::
      (modifyParts profile).map fun p => (p.type, p.value) := by
  obtain ⟨apn, user, password, auth, iptype, family, index⟩ := profile
  cases apn <;> cases user <;> cases password <;> rfl

section

variable {qmiType : UInt8} {type transactionId : UInt16} {tech : Technology} {profile : CallProfile}
  {m : Memory}

theorem start_read_back
    (safe : (composeQMUXMsg qmiType type transactionId (wdsStartNwInterfaceReq tech profile)).Safe)
    (copied : (composeQMUXMsg qmiType type transactionId
      (wdsStartNwInterfaceReq tech profile)).CopiedTo m) :
    RoundTrip (composeQMUXMsg qmiType type transactionId (wdsStartNwInterfaceReq tech profile)) m
      (startFields tech (credentials tech profile) profile) := by
  rw [start_safe_iff, ← startParts_size] at safe
  obtain ⟨qmi, total, qmux, ts, same, holds, -⟩ := @copied_records qmiType type transactionId 4
    [⟨11, bytes16 0⟩] (startParts tech profile) (by decide) (by simp [startParts]) safe m copied
  have sizes := records_size same
  refine RoundTrip.of_records (same.trans (present_startFields tech profile).symm) ?_ ?_ qmi ?_ holds
  · show ([0x30, 0x14, 0x17, 0x18, 0x16, 0x19, 0x31] : List UInt8).Nodup
    decide
  · rw [sizes]
    exact total
  · rw [sizes, qmux]
    omega

theorem modify_read_back
    (safe : (composeQMUXMsg qmiType type transactionId (wdsModifyProfileSettingsReq profile)).Safe)
    (copied : (composeQMUXMsg qmiType type transactionId
      (wdsModifyProfileSettingsReq profile)).CopiedTo m) :
    RoundTrip (composeQMUXMsg qmiType type transactionId (wdsModifyProfileSettingsReq profile)) m
      (modifyFields profile) := by
  rw [modify_safe_iff, ← modifyParts_size] at safe
  let identifier : Tlv := ⟨0x01, [0x00, toUChar profile.profileIndex], by simp⟩
  have encoded : identifier.encode = [0x01, 2, 0, 0x00, toUChar profile.profileIndex] := by
    simp [identifier, Tlv.encode]
  obtain ⟨qmi, total, qmux, ts, same, holds, below⟩ := @copied_records qmiType type transactionId 9
    [⟨11, bytes16 5⟩, ⟨13, [0x01, 2, 0, 0x00, toUChar profile.profileIndex]⟩] (modifyParts profile)
    (by decide) (by simp [modifyParts]) safe m copied
  have sizes := records_size same
  have first : m.Holds 13 identifier.encode := by
    rw [encoded]
    apply (Write.holds_apply _ ⟨13, [0x01, 2, 0, 0x00, toUChar profile.profileIndex]⟩).congr
    intro k low high
    exact below k low high
  have length : identifier.encode.length = 5 := rfl
  refine @RoundTrip.of_records _ m _ (identifier :: ts) ?_ ?_ ?_ qmi ?_ ?_
  · rw [present_modifyFields, List.map_cons, same]
  · show ([0x01, 0x11, 0x14, 0x1B, 0x1C, 0x1D] : List UInt8).Nodup
    decide
  · rw [Tlv.encodeAll_cons, List.length_append, sizes, length]
    refine Eq.trans total ?_
    omega
  · rw [Tlv.encodeAll_cons, List.length_append, sizes, length, qmux]
  · rw [Tlv.encodeAll_cons, holds_append]
    exact ⟨first, holds⟩

/-- A message that fits is read back as it was meant. Over CDMA, a profile without credentials is
given those of the operator. -/
theorem requests_read_back {qmiType : UInt8} {type transactionId : UInt16} {tech : Technology}
    {profile : CallProfile} {m : Memory} :
    let startMessage := composeQMUXMsg qmiType type transactionId (wdsStartNwInterfaceReq tech profile)
    let modifyMessage := composeQMUXMsg qmiType type transactionId (wdsModifyProfileSettingsReq profile)
    (startMessage.Safe → startMessage.CopiedTo m →
      RoundTrip startMessage m (startFields tech (credentials tech profile) profile)) ∧
    (modifyMessage.Safe → modifyMessage.CopiedTo m →
      RoundTrip modifyMessage m (modifyFields profile)) :=
  ⟨start_read_back, modify_read_back⟩

end

/-- The profile of the options `-s internet user secret 2`. -/
def fullProfile : CallProfile where
  apn := some ⟨[105, 110, 116, 101, 114, 110, 101, 116], by decide⟩
  user := some ⟨[117, 115, 101, 114], by decide⟩
  password := some ⟨[115, 101, 99, 114, 101, 116], by decide⟩
  auth := 2
  iptype := 0
  curIpFamily := 4
  profileIndex := 1

/-- A start and a modify request with all of their records. -/
theorem full_profile_read_back :
    RoundTrip (composeQMUXMsg 1 0x20 1 (wdsStartNwInterfaceReq ⟨false, 0⟩ fullProfile))
      (composeQMUXMsg 1 0x20 1 (wdsStartNwInterfaceReq ⟨false, 0⟩ fullProfile)).memory
      (startFields ⟨false, 0⟩ (fullProfile.user, fullProfile.password, 2) fullProfile) ∧
    RoundTrip (composeQMUXMsg 1 0x28 1 (wdsModifyProfileSettingsReq fullProfile))
      (composeQMUXMsg 1 0x28 1 (wdsModifyProfileSettingsReq fullProfile)).memory
      (modifyFields fullProfile) := by
  constructor
  · apply requests_read_back.1 ?_ fun _ _ => rfl
    rw [start_safe_iff]
    decide
  · apply (@requests_read_back 1 0x28 1 ⟨false, 0⟩ fullProfile _).2 ?_ fun _ _ => rfl
    rw [modify_safe_iff]
    decide

/-- The profile of the option `-s` without any argument. -/
def emptyProfile : CallProfile where
  apn := some ⟨[], nil_ended⟩
  user := some ⟨[], nil_ended⟩
  password := some ⟨[], nil_ended⟩
  auth := 0
  iptype := 0
  curIpFamily := 4
  profileIndex := 1

/-- Over CDMA, the user in the message is not the empty one of the profile. -/
theorem cdma_user_not_of_profile :
    (composeQMUXMsg 1 0x20 1 (wdsStartNwInterfaceReq ⟨true, 0⟩ emptyProfile)).Safe ∧
    ¬ RoundTrip (composeQMUXMsg 1 0x20 1 (wdsStartNwInterfaceReq ⟨true, 0⟩ emptyProfile))
      (composeQMUXMsg 1 0x20 1 (wdsStartNwInterfaceReq ⟨true, 0⟩ emptyProfile)).memory
      (startFields ⟨true, 0⟩ (emptyProfile.user, emptyProfile.password, emptyProfile.auth)
        emptyProfile) := by
  have safe : (composeQMUXMsg 1 0x20 1 (wdsStartNwInterfaceReq ⟨true, 0⟩ emptyProfile)).Safe := by
    rw [start_safe_iff]
    decide
  refine ⟨safe, fun claimed => ?_⟩
  have real := start_read_back safe fun _ _ => rfl
  obtain ⟨p, found, length, -⟩ := real.found 0x17 ctnetUser.bytes (by decide)
  obtain ⟨q, found', length', -⟩ := claimed.found 0x17 [] (by decide)
  cases found.symm.trans found'
  exact absurd (length.symm.trans length') (by decide)

end LorawanFeeds.QmiClient.Compose
