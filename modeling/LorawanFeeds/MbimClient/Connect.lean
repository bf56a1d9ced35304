import Mathlib.Data.List.Pairwise
import LorawanFeeds.QmiClient.Compose

/-!
# The request for a connection

`mbim_populate_connect_data` and `mbim_set_connect` of `mbim-cm.c`. The texts of the access point
stand behind the members of `MBIM_SET_CONNECT_T`, each byte with a zero behind it. The length of the
buffer is the sum of the three texts, but the offset behind the second one starts anew.
-/
namespace LorawanFeeds.MbimClient

open Lib Memory
open QmiClient.Compose (Text)

/-! ### The code -/

/-- A value in an `int`. -/
def toInt (value : Int) : Int := (value + 2 ^ 31) % 2 ^ 32 - 2 ^ 31

/-- A value in a `size_t`. -/
def toSize (value : Int) : Nat := (value % 2 ^ 64).toNat

/-- `_align_32`. The sum of two `int` wraps here, where C leaves it undefined. -/
def align32 (len : Int) : Int := if len.tmod 4 ≠ 0 then toInt (len + (4 - len.tmod 4)) else len

/-- `mbim_apn`, `mbim_user` and `mbim_passwd`. -/
structure Login where
  apn : Option Text
  user : Option Text
  passwd : Option Text
  deriving DecidableEq, Repr

/-- The bytes of a text; an absent one is treated as one without bytes. -/
def chars (text : Option Text) : List UInt8 := text.elim [] Text.bytes

/-- The three texts, each with the place of its offset. The size is the next member. -/
def Login.slots (login : Login) : List (Nat × List UInt8) :=
  [(8, chars login.apn), (16, chars login.user), (24, chars login.passwd)]

/-- `sizeof(MBIM_SET_CONNECT_T)`, which is where `DataBuffer` begins. -/
def dataBuffer : Nat := 60

/-- The first pass, over the lengths. -/
def bufferLength (login : Login) : Int :=
  login.slots.foldl
    (fun buflen slot =>
      align32 (if slot.2 ≠ [] then toInt (buflen + 2 * slot.2.length) else buflen)) 0

/-- Each byte as a character of 16 bits. -/
def wide (text : List UInt8) : List UInt8 := text.flatMap fun c => [c, 0]

/-- What `char2wchar` writes; it returns the length of it. -/
def char2wchar (src : List UInt8) (dstLen : Nat) : List UInt8 := wide (src.take (dstLen / 2))

/-- The second pass: the offset, everything written so far, and what `char2wchar` has written. -/
structure Placing where
  offset : Int
  writes : List Write
  copies : List Write

/-- One text. The offset behind it is the length of this text alone. -/
def place (buflen : Int) (p : Placing) (slot : Nat × List UInt8) : Placing :=
  if slot.2 ≠ [] then
    let copy : Write := ⟨toSize (p.offset + dataBuffer),
      char2wchar slot.2 (toSize (toInt (buflen - p.offset)))⟩
    { offset := align32 (toInt copy.bytes.length)
      writes := p.writes ++
        [⟨slot.1 + 4, bytesOf (UInt32.ofNat (2 * slot.2.length))⟩,
          ⟨slot.1, bytesOf (UInt32.ofNat (toSize (p.offset + dataBuffer)))⟩, copy]
      copies := p.copies ++ [copy] }
  else p

/-- Behind the password nothing uses the offset, which the source does not align there. -/
def placing (login : Login) : Placing :=
  login.slots.foldl (place (bufferLength login)) ⟨0, [], []⟩

/-- What `mbim_populate_connect_data` returns, with its block. -/
structure Populated where
  buflen : Int
  request : Memory
  writes : List Write
  copies : List Write

/-- `memset` with zeros. -/
def cleared (block : Memory) (size : Int) : Memory := fun k => if (k : Int) < size then 0 else block k

/-- `mbim_populate_connect_data`, with the block that `malloc` returns. -/
def mbimPopulateConnectData (login : Login) (block : Option Memory) : Option Populated :=
  block.map fun block =>
    { buflen := bufferLength login
      request := Write.applyAll (cleared block (dataBuffer + bufferLength login)) (placing login).writes
      writes := (placing login).writes
      copies := (placing login).copies }

/-- `UUID_MBIMContextTypeInternet`. -/
def uuidMBIMContextTypeInternet : List UInt8 :=
  [0x7e, 0x5e, 0x2a, 0x7e, 0x4e, 0x6f, 0x72, 0x72, 0x73, 0x6b, 0x65, 0x6e, 0x7e, 0x5e, 0x2a, 0x7e]

/-- The members that `mbim_set_connect` sets itself. -/
def connectMembers (onoff sessionID auth iptype : UInt32) : List Write :=
  [⟨0, bytesOf sessionID⟩, ⟨4, bytesOf (if onoff = 0 then 0 else 1)⟩, ⟨32, bytesOf 0⟩,
    ⟨36, bytesOf auth⟩, ⟨40, bytesOf iptype⟩, ⟨44, uuidMBIMContextTypeInternet⟩]

/-- The information buffer of the command that `mbim_set_connect` sends. -/
def mbimSetConnect (login : Login) (onoff sessionID auth iptype : UInt32) (block : Option Memory) :
    Option (List UInt8) :=
  match mbimPopulateConnectData login block with
  | none => none
  | some populated =>
    if populated.buflen < 0 then none
    else some ((Write.applyAll populated.request (connectMembers onoff sessionID auth iptype)).read 0
      (dataBuffer + populated.buflen).toNat)

/-! ### The layout -/

/-- The segment that the offset and the size at a place denote. -/
structure Denoted (request : Memory) (buflen : Int) (slot : Nat × List UInt8) : Prop where
  aligned : 4 ∣ (request.le32 slot.1).toNat
  size : (request.le32 (slot.1 + 4)).toNat = 2 * slot.2.length
  inside : ((request.le32 slot.1).toNat + 2 * slot.2.length : Int) ≤ dataBuffer + buflen
  text : request.Holds (request.le32 slot.1).toNat (wide slot.2)

/-- The segments at two places have no byte in common. -/
def SegmentsApart (request : Memory) (slot other : Nat × List UInt8) : Prop :=
  (request.le32 slot.1).toNat + 2 * slot.2.length ≤ (request.le32 other.1).toNat ∨
    (request.le32 other.1).toNat + 2 * other.2.length ≤ (request.le32 slot.1).toNat

/-- The request as it should be. -/
structure LaidOut (login : Login) (r : Populated) : Prop where
  block : ∀ w ∈ r.writes, ((w.offset + w.bytes.length : Nat) : Int) ≤ dataBuffer + r.buflen
  buffer : ∀ w ∈ r.copies, dataBuffer ≤ w.offset
  denoted : ∀ slot ∈ login.slots, slot.2 ≠ [] → Denoted r.request r.buflen slot
  apart : login.slots.Pairwise fun slot other =>
    slot.2 ≠ [] → other.2 ≠ [] → SegmentsApart r.request slot other
  blank : ∀ slot ∈ login.slots, slot.2 = [] → r.request.le32 (slot.1 + 4) = 0

/-! ### Numbers -/

/-- A length up to the next multiple of four. -/
def padded (len : Nat) : Nat := (len + 3) / 4 * 4

theorem toInt_of_fits {value : Int} (least : 0 ≤ value) (most : value < 2 ^ 31) :
    toInt value = value := by
  rw [toInt]
  omega

theorem toInt_lt (value : Int) : toInt value < 2 ^ 31 := by
  rw [toInt]
  omega

theorem dvd_align32 (len : Int) : 4 ∣ align32 len := by
  have parts := Int.tmod_add_mul_tdiv len 4
  rw [align32]
  split
  · rw [toInt]
    omega
  · omega

theorem align32_of_dvd {len : Int} (aligned : 4 ∣ len) : align32 len = len :=
  if_neg (not_not.mpr (Int.tmod_eq_zero_of_dvd aligned))

/-- An even length is padded, or the sum is too great for an `int`. -/
theorem align32_even {len : Nat} (even : 2 ∣ len) (most : len < 2 ^ 31) :
    align32 len = padded len ∧ padded len < 2 ^ 31 ∨ align32 len = -2 ^ 31 ∧ len = 2 ^ 31 - 2 := by
  have rest : (len : Int).tmod 4 = len % 4 := Int.tmod_eq_emod_of_nonneg (by omega)
  rw [align32, rest, toInt, padded]
  split <;> omega

/-! ### Where the texts are placed -/

theorem length_bytesOf (w : UInt32) : (bytesOf w).length = 4 := rfl

/-- A text, the place of its members, and the offset that it is given. -/
structure Placement where
  slot : Nat × List UInt8
  offset : Int

namespace Placement

variable (buflen : Int) (p : Placement)

def size : Write := ⟨p.slot.1 + 4, bytesOf (UInt32.ofNat (2 * p.slot.2.length))⟩

def start : Write := ⟨p.slot.1, bytesOf (UInt32.ofNat (toSize (p.offset + dataBuffer)))⟩

def copy : Write :=
  ⟨toSize (p.offset + dataBuffer), char2wchar p.slot.2 (toSize (toInt (buflen - p.offset)))⟩

def next : Int := align32 (toInt (p.copy buflen).bytes.length)

/-- The places of two texts are different ones. -/
def Beside (p q : Placement) : Prop := p.slot.1 + 8 ≤ q.slot.1 ∨ q.slot.1 + 8 ≤ p.slot.1

end Placement

/-- The texts that are not blank, with their offsets. -/
def placements (buflen : Int) : Int → List (Nat × List UInt8) → List Placement
  | _, [] => []
  | offset, slot :: slots =>
    if slot.2 ≠ [] then
      ⟨slot, offset⟩ :: placements buflen (Placement.next buflen ⟨slot, offset⟩) slots
    else placements buflen offset slots

theorem foldl_place (buflen : Int) (slots : List (Nat × List UInt8)) (p : Placing) :
    (slots.foldl (place buflen) p).writes = p.writes ++
      (placements buflen p.offset slots).flatMap (fun q => [q.size, q.start, q.copy buflen]) ∧
    (slots.foldl (place buflen) p).copies =
      p.copies ++ (placements buflen p.offset slots).map (Placement.copy buflen) := by
  induction slots generalizing p with
  | nil => simp [placements]
  | cons slot slots ih =>
    obtain ⟨writes, copies⟩ := ih (place buflen p slot)
    rw [List.foldl_cons, writes, copies, placements]
    by_cases blank : slot.2 = []
    · simp [place, blank]
    · simp [place, blank, Placement.size, Placement.start, Placement.copy, Placement.next]

theorem map_slot_placements (buflen offset : Int) (slots : List (Nat × List UInt8)) :
    (placements buflen offset slots).map Placement.slot = slots.filter (·.2 ≠ []) := by
  induction slots generalizing offset with
  | nil => rfl
  | cons slot slots ih =>
    by_cases blank : slot.2 = [] <;> simp [placements, blank, ih]

/-- Blank texts do not count for the length. -/
theorem foldl_length (buflen : Int) (aligned : 4 ∣ buflen) (slots : List (Nat × List UInt8)) :
    slots.foldl (fun buflen slot =>
        align32 (if slot.2 ≠ [] then toInt (buflen + 2 * slot.2.length) else buflen)) buflen =
      (slots.filter (·.2 ≠ [])).foldl
        (fun buflen slot => align32 (toInt (buflen + 2 * slot.2.length))) buflen := by
  induction slots generalizing buflen with
  | nil => rfl
  | cons slot slots ih =>
    rw [List.foldl_cons, ih _ (dvd_align32 _)]
    by_cases blank : slot.2 = []
    · simp [blank, align32_of_dvd aligned]
    · simp [blank]

section

variable {buflen : Int} {ps : List Placement} {p : Placement} (m : Memory)
variable (beside : ps.Pairwise Placement.Beside) (low : ∀ p ∈ ps, p.slot.1 + 8 ≤ dataBuffer)
variable (buffer : ∀ p ∈ ps, dataBuffer ≤ (p.copy buflen).offset) (member : p ∈ ps)

include beside low buffer member

/-- The members of a text say what has been written to them: no other text touches them. -/
theorem le32_members :
    let request := Write.applyAll m (ps.flatMap fun q => [q.size, q.start, q.copy buflen])
    request.le32 p.slot.1 = UInt32.ofNat (toSize (p.offset + dataBuffer)) ∧
      request.le32 (p.slot.1 + 4) = UInt32.ofNat (2 * p.slot.2.length) := by
  have different {q : Placement} (other : q ∈ ps) : q = p ∨ p.Beside q := by
    by_cases same : p = q
    · exact .inl same.symm
    · have : Std.Symm Placement.Beside := ⟨fun _ _ => Or.symm⟩
      exact .inr (beside.forall member other same)
  have here := low p member
  have own (w : Write) (mine : w = p.size ∨ w = p.start) :
      ∀ w' ∈ ps.flatMap (fun q => [q.size, q.start, q.copy buflen]), w' = w ∨ w.Apart w' := by
    intro w' written
    obtain ⟨q, other, written⟩ := List.mem_flatMap.mp written
    have behind := buffer q other
    simp only [List.mem_cons, List.not_mem_nil, or_false] at written
    rcases written with rfl | rfl | rfl
    · rcases different other with rfl | apart
      · rcases mine with rfl | rfl
        · exact .inl rfl
        · exact .inr (.inl (le_refl _))
      · right
        rcases mine with rfl | rfl <;>
          simp only [Write.Apart, Placement.size, Placement.start, length_bytesOf, Placement.Beside]
            at apart ⊢ <;> omega
    · rcases different other with rfl | apart
      · rcases mine with rfl | rfl
        · exact .inr (.inr (le_refl _))
        · exact .inl rfl
      · right
        rcases mine with rfl | rfl <;>
          simp only [Write.Apart, Placement.size, Placement.start, length_bytesOf, Placement.Beside]
            at apart ⊢ <;> omega
    · right
      left
      rcases mine with rfl | rfl <;>
        simp only [Placement.size, Placement.start, length_bytesOf] <;> omega
  constructor
  · exact (Write.holds_applyAll m (List.mem_flatMap.mpr ⟨p, member, by simp⟩)
      (own p.start (.inr rfl))).le32_eq
  · exact (Write.holds_applyAll m (List.mem_flatMap.mpr ⟨p, member, by simp⟩)
      (own p.size (.inl rfl))).le32_eq

end

/-! ### The placements of a login -/

theorem length_wide (text : List UInt8) : (wide text).length = 2 * text.length := by
  induction text with
  | nil => rfl
  | cons c text ih =>
    rw [wide, List.flatMap_cons, List.length_append, List.length_cons]
    rw [wide] at ih
    rw [ih, List.length_cons, List.length_cons, List.length_nil]
    omega

theorem length_char2wchar (src : List UInt8) (dstLen : Nat) :
    (char2wchar src dstLen).length = 2 * min (dstLen / 2) src.length := by
  rw [char2wchar, length_wide, List.length_take]

/-- With room for all of it, the whole text is copied. -/
theorem char2wchar_of_fits {src : List UInt8} {dstLen : Nat} (fits : 2 * src.length ≤ dstLen) :
    char2wchar src dstLen = wide src := by
  rw [char2wchar, List.take_of_length_le (by omega)]

section

variable (login : Login) (buflen offset : Int)

theorem slots_beside :
    login.slots.Pairwise fun slot other => slot.1 + 8 ≤ other.1 ∨ other.1 + 8 ≤ slot.1 := by
  simp [Login.slots]

theorem slot_low {slot : Nat × List UInt8} (member : slot ∈ login.slots) :
    slot.1 + 8 ≤ dataBuffer := by
  simp only [Login.slots, List.mem_cons, List.not_mem_nil, or_false] at member
  rcases member with rfl | rfl | rfl <;> simp [dataBuffer]

theorem placements_beside : (placements buflen offset login.slots).Pairwise Placement.Beside := by
  have beside := (slots_beside login).filter (fun slot => decide (slot.2 ≠ []))
  rw [← map_slot_placements buflen offset, List.pairwise_map] at beside
  exact beside

variable {login buflen offset}

theorem slot_of_placement {p : Placement} (member : p ∈ placements buflen offset login.slots) :
    p.slot ∈ login.slots ∧ p.slot.2 ≠ [] := by
  have mapped := List.mem_map_of_mem (f := Placement.slot) member
  rw [map_slot_placements, List.mem_filter] at mapped
  simpa using mapped

theorem placement_of_slot {slot : Nat × List UInt8} (member : slot ∈ login.slots) (some : slot.2 ≠ []) :
    ∃ p ∈ placements buflen offset login.slots, p.slot = slot := by
  have filtered : slot ∈ login.slots.filter (·.2 ≠ []) := by simp [member, some]
  rw [← map_slot_placements buflen offset, List.mem_map] at filtered
  exact filtered

end

/-- The request that the second pass leaves. -/
def populated (login : Login) (block : Memory) : Populated where
  buflen := bufferLength login
  request := Write.applyAll (cleared block (dataBuffer + bufferLength login)) (placing login).writes
  writes := (placing login).writes
  copies := (placing login).copies

/-- The texts that are not blank, with their offsets in the request. -/
def Login.placed (login : Login) : List Placement := placements (bufferLength login) 0 login.slots

section

variable (login : Login)

theorem placing_writes : (placing login).writes =
    login.placed.flatMap fun q => [q.size, q.start, q.copy (bufferLength login)] :=
  (foldl_place (bufferLength login) login.slots ⟨0, [], []⟩).1

theorem placing_copies :
    (placing login).copies = login.placed.map (Placement.copy (bufferLength login)) :=
  (foldl_place (bufferLength login) login.slots ⟨0, [], []⟩).2

variable {login} {block : Memory}

/-- The members of a text, if no copy comes before the buffer. -/
theorem populated_members (buffer : ∀ w ∈ (placing login).copies, dataBuffer ≤ w.offset)
    {p : Placement} (member : p ∈ login.placed) :
    (populated login block).request.le32 p.slot.1 = UInt32.ofNat (toSize (p.offset + dataBuffer)) ∧
      (populated login block).request.le32 (p.slot.1 + 4) = UInt32.ofNat (2 * p.slot.2.length) := by
  rw [placing_copies] at buffer
  have members := le32_members (cleared block (dataBuffer + bufferLength login))
    (placements_beside login (bufferLength login) 0)
    (fun q other => slot_low login (slot_of_placement other).1)
    (fun q other => buffer _ (List.mem_map_of_mem other)) member
  rw [populated, placing_writes]
  exact members

end

/-- The offset as it stands in the request. -/
def Placement.told (p : Placement) : Nat := (UInt32.ofNat (toSize (p.offset + dataBuffer))).toNat

/-- What the receiver of the request sees of the texts. -/
structure Shown (buflen : Int) (ps : List Placement) : Prop where
  inside : ∀ p ∈ ps, ((p.told + 2 * p.slot.2.length : Nat) : Int) ≤ dataBuffer + buflen
  apart : ps.Pairwise fun p q => p.told + 2 * p.slot.2.length ≤ q.told ∨
    q.told + 2 * q.slot.2.length ≤ p.told

theorem LaidOut.shown {login : Login} {block : Memory} (laid : LaidOut login (populated login block)) :
    Shown (bufferLength login) login.placed := by
  have told {p : Placement} (member : p ∈ login.placed) :
      ((populated login block).request.le32 p.slot.1).toNat = p.told := by
    rw [(populated_members laid.buffer member).1, Placement.told]
  constructor
  · intro p member
    obtain ⟨listed, some⟩ := slot_of_placement member
    have inside := (laid.denoted p.slot listed some).inside
    rw [told member] at inside
    exact_mod_cast inside
  · have apart := List.pairwise_filter.mpr (laid.apart.imp fun {slot other} apart
        (some : decide (slot.2 ≠ []) = true) (some' : decide (other.2 ≠ []) = true) =>
          apart (of_decide_eq_true some) (of_decide_eq_true some'))
    rw [← map_slot_placements (bufferLength login) 0, List.pairwise_map] at apart
    refine apart.imp_of_mem fun {p q} first second apart => ?_
    rwa [SegmentsApart, told first, told second] at apart


/-- The texts lie one behind the other in the buffer. -/
structure Ordered (buflen : Int) (ps : List Placement) : Prop where
  small : buflen < 2 ^ 31
  some : 0 ≤ buflen
  placed : ∀ p ∈ ps, 0 ≤ p.offset ∧ 4 ∣ p.offset ∧ p.offset + 2 * p.slot.2.length ≤ buflen
  apart : ps.Pairwise fun p q : Placement => p.offset + 2 * p.slot.2.length ≤ q.offset

namespace Ordered

section

variable {buflen : Int} {ps : List Placement} (ordered : Ordered buflen ps) {p : Placement}
variable (member : p ∈ ps)

include ordered member

/-- Each text is copied as a whole. -/
theorem copy_eq : p.copy buflen = ⟨p.offset.toNat + dataBuffer, wide p.slot.2⟩ := by
  obtain ⟨least, -, most⟩ := ordered.placed p member
  have small := ordered.small
  have start : toSize (p.offset + dataBuffer) = p.offset.toNat + dataBuffer := by
    rw [toSize, dataBuffer]
    omega
  rw [Placement.copy, start, char2wchar_of_fits]
  rw [toInt, toSize]
  omega

theorem told_eq : p.told = p.offset.toNat + dataBuffer := by
  obtain ⟨least, -, most⟩ := ordered.placed p member
  have small := ordered.small
  rw [Placement.told, toSize, dataBuffer, UInt32.toNat_ofNat']
  omega

end

section

variable {login : Login} {block : Memory} (ordered : Ordered (bufferLength login) login.placed)

include ordered

theorem buffer : ∀ w ∈ (placing login).copies, dataBuffer ≤ w.offset := by
  rw [placing_copies]
  intro w member
  obtain ⟨p, placed, rfl⟩ := List.mem_map.mp member
  rw [ordered.copy_eq placed]
  exact Nat.le_add_left _ _

/-- Everything that is written. -/
theorem writes_cases {w : Write} (written : w ∈ (placing login).writes) :
    ∃ p ∈ login.placed, w = p.size ∨ w = p.start ∨
      w = ⟨p.offset.toNat + dataBuffer, wide p.slot.2⟩ := by
  rw [placing_writes] at written
  obtain ⟨p, member, which⟩ := List.mem_flatMap.mp written
  rw [ordered.copy_eq member] at which
  exact ⟨p, member, by simpa using which⟩

theorem block_inside {w : Write} (written : w ∈ (placing login).writes) :
    ((w.offset + w.bytes.length : Nat) : Int) ≤ dataBuffer + bufferLength login := by
  obtain ⟨p, member, which⟩ := ordered.writes_cases written
  obtain ⟨least, -, most⟩ := ordered.placed p member
  have low := slot_low login (slot_of_placement member).1
  rcases which with rfl | rfl | rfl
  · simp only [Placement.size, length_bytesOf]
    omega
  · simp only [Placement.start, length_bytesOf]
    omega
  · simp only [length_wide]
    omega

/-- The text stands at its offset. -/
theorem holds {p : Placement} (member : p ∈ login.placed) :
    (populated login block).request.Holds p.told (wide p.slot.2) := by
  have copy := ordered.copy_eq member
  rw [ordered.told_eq member, populated]
  refine Write.holds_applyAll _ (w := ⟨p.offset.toNat + dataBuffer, wide p.slot.2⟩) ?_ fun w written => ?_
  · rw [placing_writes, ← copy]
    exact List.mem_flatMap.mpr ⟨p, member, by simp⟩
  · obtain ⟨q, other, which⟩ := ordered.writes_cases written
    have low := slot_low login (slot_of_placement other).1
    rcases which with rfl | rfl | rfl
    · right
      right
      simp only [Placement.size, length_bytesOf]
      omega
    · right
      right
      simp only [Placement.start, length_bytesOf]
      omega
    · -- Another text lies before this one or behind it.
      by_cases same : q = p
      · exact .inl (by rw [same])
      · right
        have least := (ordered.placed p member).1
        have least' := (ordered.placed q other).1
        have apart := (ordered.apart.imp fun {a b} (h : _ ≤ _) => Or.inl h :
          login.placed.Pairwise fun p q : Placement => p.offset + 2 * p.slot.2.length ≤ q.offset ∨
            q.offset + 2 * q.slot.2.length ≤ p.offset)
        have : Std.Symm fun p q : Placement => p.offset + 2 * p.slot.2.length ≤ q.offset ∨
            q.offset + 2 * q.slot.2.length ≤ p.offset := ⟨fun _ _ => Or.symm⟩
        have sides := apart.forall other member same
        simp only [Write.Apart, length_wide]
        omega

/-- The size of a blank text is not written. -/
theorem blank_size {slot : Nat × List UInt8} (listed : slot ∈ login.slots) (blank : slot.2 = []) :
    (populated login block).request.le32 (slot.1 + 4) = 0 := by
  have low := slot_low login listed
  have some := ordered.some
  have zero (j : Nat) (inside : j < 4) : (populated login block).request (slot.1 + 4 + j) = 0 := by
    rw [populated]
    dsimp only
    rw [Write.applyAll_outside, cleared, if_pos (by omega)]
    intro w written
    obtain ⟨p, member, which⟩ := ordered.writes_cases written
    obtain ⟨other, text⟩ := slot_of_placement member
    have beside : p.slot.1 + 8 ≤ slot.1 ∨ slot.1 + 8 ≤ p.slot.1 := by
      have different : p.slot ≠ slot := fun same => text (same ▸ blank)
      have : Std.Symm fun s t : Nat × List UInt8 => s.1 + 8 ≤ t.1 ∨ t.1 + 8 ≤ s.1 :=
        ⟨fun _ _ => Or.symm⟩
      exact (slots_beside login).forall other listed different
    rcases which with rfl | rfl | rfl
    · simp only [Placement.size, length_bytesOf]
      omega
    · simp only [Placement.start, length_bytesOf]
      omega
    · left
      dsimp only
      omega
  have bytes : (populated login block).request.Holds (slot.1 + 4) (bytesOf 0) := by
    rw [show bytesOf 0 = List.replicate 4 0 by decide]
    intro j inside
    rw [zero j (by simpa using inside), List.get_eq_getElem, List.getElem_replicate]
  exact bytes.le32_eq

/-- Texts that lie one behind the other are laid out as they should be. -/
theorem laidOut : LaidOut login (populated login block) := by
  have small := ordered.small
  have told {p : Placement} (member : p ∈ login.placed) :
      ((populated login block).request.le32 p.slot.1).toNat = p.offset.toNat + dataBuffer := by
    rw [(populated_members ordered.buffer member).1, ← ordered.told_eq member, Placement.told]
  constructor
  case block => exact fun w written => ordered.block_inside written
  case buffer => exact ordered.buffer
  case blank => exact fun slot listed blank => ordered.blank_size listed blank
  case denoted =>
    intro slot listed some
    obtain ⟨p, member, rfl⟩ := placement_of_slot listed some
    obtain ⟨least, aligned, most⟩ := ordered.placed p member
    have place := told member
    constructor
    case aligned =>
      rw [place, dataBuffer]
      omega
    case size =>
      rw [(populated_members ordered.buffer member).2, UInt32.toNat_ofNat']
      omega
    case inside =>
      rw [place]
      change _ ≤ (dataBuffer : Int) + bufferLength login
      omega
    case text =>
      rw [place, ← ordered.told_eq member]
      exact ordered.holds member
  case apart =>
    have apart := ordered.apart.imp_of_mem (S := fun p q : Placement =>
        SegmentsApart (populated login block).request p.slot q.slot) fun {p q} first second before => by
      left
      rw [told first, told second]
      have least := (ordered.placed p first).1
      have least' := (ordered.placed q second).1
      omega
    rw [← List.pairwise_map (f := Placement.slot), Login.placed, map_slot_placements,
      List.pairwise_filter] at apart
    exact apart.imp fun {slot other} apart some some' => apart (by simpa using some) (by simpa using some')

end

end Ordered


/-! ### One, two and three texts -/

/-- The length of the buffer for texts that are not blank. -/
def lengthOf (slots : List (Nat × List UInt8)) : Int :=
  slots.foldl (fun buflen slot => align32 (toInt (buflen + 2 * slot.2.length))) 0

/-- The bytes that the texts need. -/
def needed (slots : List (Nat × List UInt8)) : Nat :=
  (slots.map fun slot => padded (2 * slot.2.length)).sum

theorem align32_toInt_lt (value : Int) : align32 (toInt value) < 2 ^ 31 := by
  rw [align32]
  split
  · exact toInt_lt _
  · exact toInt_lt _

/-- Where an even length fits into an `int`, it is padded, or the sum does not fit. -/
theorem align32_toInt {len : Nat} (even : 2 ∣ len) (most : len < 2 ^ 31) :
    align32 (toInt len) = padded len ∧ padded len < 2 ^ 31 ∨
      align32 (toInt len) = -2 ^ 31 ∧ len = 2 ^ 31 - 2 := by
  rw [toInt_of_fits (by omega) (by exact_mod_cast most)]
  exact align32_even even most

theorem told_of_fits {slot : Nat × List UInt8} {offset : Nat} (most : offset < 2 ^ 31) :
    (Placement.mk slot offset).told = offset + dataBuffer := by
  rw [Placement.told, dataBuffer, toSize, UInt32.toNat_ofNat']
  dsimp only
  omega

theorem told_least (slot : Nat × List UInt8) :
    (Placement.mk slot (-2 ^ 31)).told = 2 ^ 31 + dataBuffer := by
  rw [Placement.told, dataBuffer]
  dsimp only
  decide

/-- The offset behind a text that fits is the length of this text. -/
theorem next_of_fits {buflen : Int} {slot : Nat × List UInt8} {offset : Nat}
    (fits : (offset + 2 * slot.2.length : Int) ≤ buflen) (most : buflen < 2 ^ 31) :
    Placement.next buflen ⟨slot, offset⟩ = align32 (toInt (2 * slot.2.length : Nat)) := by
  have room : toSize (toInt (buflen - offset)) = (buflen - offset).toNat := by
    rw [toInt_of_fits (by omega) (by omega), toSize]
    omega
  rw [Placement.next, Placement.copy]
  dsimp only
  rw [room, length_char2wchar, min_eq_right (by omega)]

theorem padded_even {len : Nat} (even : 2 ∣ len) : len ≤ padded len ∧ padded len ≤ len + 2 := by
  rw [padded]
  omega

theorem padded_add (len : Nat) (more : Nat) : padded (padded len + more) = padded len + padded more := by
  rw [padded, padded, padded]
  omega

theorem dvd_padded (len : Nat) : 4 ∣ padded len := Nat.dvd_mul_left 4 _

section

variable {x y z : Nat × List UInt8}

theorem needed_one : needed [x] = padded (2 * x.2.length) := by
  rw [needed, List.map_singleton, List.sum_singleton]

theorem needed_two : needed [x, y] = padded (2 * x.2.length) + padded (2 * y.2.length) := by
  simp [needed]

/-- The first text, wherever the others are. -/
theorem first_shown {ps : List Placement} {buflen : Int}
    (shown : Shown buflen (⟨x, (0 : Nat)⟩ :: ps)) : (2 * x.2.length : Int) ≤ buflen := by
  have inside := shown.inside _ (.head _)
  rw [told_of_fits (by decide)] at inside
  dsimp only at inside
  omega

/-- The second text stands behind the first one. -/
theorem second_shown {ps : List Placement} {buflen : Int} (most : buflen < 2 ^ 31)
    (shown : Shown buflen (⟨x, (0 : Nat)⟩ :: ⟨y, Placement.next buflen ⟨x, (0 : Nat)⟩⟩ :: ps)) :
    Placement.next buflen ⟨x, (0 : Nat)⟩ = padded (2 * x.2.length) ∧
      (padded (2 * x.2.length) + 2 * y.2.length : Int) ≤ buflen := by
  have first := first_shown shown
  have second := shown.inside _ (.tail _ (.head _))
  rw [next_of_fits (by omega) most] at second ⊢
  rcases align32_toInt (Nat.dvd_mul_right 2 x.2.length) (by omega) with ⟨same, less⟩ | ⟨same, -⟩
  · rw [same, told_of_fits less] at second
    dsimp only at second
    exact ⟨same, by omega⟩
  · -- After an overflow the text would have to stand beyond the buffer.
    rw [same, told_least] at second
    dsimp only at second
    omega

theorem lengthOf_one : lengthOf [x] = align32 (toInt (2 * x.2.length : Nat)) := by
  have sum : (0 : Int) + 2 * x.2.length = (2 * x.2.length : Nat) := by omega
  rw [lengthOf, List.foldl_cons, List.foldl_nil, sum]

/-- A single text. -/
theorem one_ordered (some : x.2 ≠ []) :
    (Shown (lengthOf [x]) (placements (lengthOf [x]) 0 [x]) → needed [x] < 2 ^ 31) ∧
      (needed [x] < 2 ^ 31 → Ordered (lengthOf [x]) (placements (lengthOf [x]) 0 [x])) := by
  have length := @lengthOf_one x
  have most : lengthOf [x] < 2 ^ 31 := length ▸ align32_toInt_lt _
  have placed : placements (lengthOf [x]) 0 [x] = [⟨x, (0 : Nat)⟩] := by
    simp [placements, some]
  have even := padded_even (Nat.dvd_mul_right 2 x.2.length)
  rw [placed, needed_one]
  constructor
  · intro shown
    have first := first_shown shown
    rcases align32_toInt (Nat.dvd_mul_right 2 x.2.length) (by omega) with ⟨-, less⟩ | ⟨same, -⟩
    · exact less
    · omega
  · intro fits
    rcases align32_toInt (Nat.dvd_mul_right 2 x.2.length) (by omega) with ⟨same, -⟩ | ⟨-, last⟩
    · refine ⟨most, by omega, ?_, List.pairwise_singleton _ _⟩
      intro p member
      cases List.mem_singleton.mp member
      refine ⟨?_, ?_, ?_⟩ <;> dsimp only <;> omega
    · rw [last, padded] at fits
      omega

theorem lengthOf_two : lengthOf [x, y] =
    align32 (toInt (align32 (toInt (2 * x.2.length : Nat)) + 2 * y.2.length)) := by
  have sum : (0 : Int) + 2 * x.2.length = (2 * x.2.length : Nat) := by omega
  rw [lengthOf, List.foldl_cons, List.foldl_cons, List.foldl_nil, sum]

theorem lengthOf_two_padded
    (same : align32 (toInt (2 * x.2.length : Nat)) = padded (2 * x.2.length)) :
    lengthOf [x, y] = align32 (toInt (padded (2 * x.2.length) + 2 * y.2.length : Nat)) := by
  have sum : (padded (2 * x.2.length) : Int) + 2 * y.2.length =
      (padded (2 * x.2.length) + 2 * y.2.length : Nat) := by omega
  rw [lengthOf_two, same, sum]

/-- Two texts. -/
theorem two_ordered (some : x.2 ≠ []) (some' : y.2 ≠ []) :
    (Shown (lengthOf [x, y]) (placements (lengthOf [x, y]) 0 [x, y]) → needed [x, y] < 2 ^ 31) ∧
      (needed [x, y] < 2 ^ 31 →
        Ordered (lengthOf [x, y]) (placements (lengthOf [x, y]) 0 [x, y])) := by
  have most : lengthOf [x, y] < 2 ^ 31 := @lengthOf_two x y ▸ align32_toInt_lt _
  have placed : placements (lengthOf [x, y]) 0 [x, y] =
      [⟨x, (0 : Nat)⟩, ⟨y, Placement.next (lengthOf [x, y]) ⟨x, (0 : Nat)⟩⟩] := by
    simp [placements, some, some']
  have even := padded_even (Nat.dvd_mul_right 2 x.2.length)
  have even' := padded_even (Nat.dvd_mul_right 2 y.2.length)
  have aligned := dvd_padded (2 * x.2.length)
  have aligned' := dvd_padded (2 * y.2.length)
  have sum := padded_add (2 * x.2.length) (2 * y.2.length)
  have dvd : 2 ∣ padded (2 * x.2.length) + 2 * y.2.length := by omega
  rw [placed, needed_two]
  constructor
  · intro shown
    obtain ⟨-, second⟩ := second_shown most shown
    have small : padded (2 * x.2.length) + 2 * y.2.length < 2 ^ 31 := by omega
    rcases align32_toInt (Nat.dvd_mul_right 2 x.2.length) (by omega) with ⟨same, -⟩ | ⟨-, last⟩
    · rcases align32_toInt dvd small with ⟨-, fits⟩ | ⟨least, -⟩
      · rwa [sum] at fits
      · rw [lengthOf_two_padded same, least] at second
        omega
    · omega
  · intro fits
    have small : padded (2 * x.2.length) + 2 * y.2.length < 2 ^ 31 := by omega
    rcases align32_toInt (Nat.dvd_mul_right 2 x.2.length) (by omega) with ⟨same, -⟩ | ⟨-, last⟩
    · rcases align32_toInt dvd small with ⟨whole, -⟩ | ⟨-, last⟩
      · rw [sum] at whole
        have length := (lengthOf_two_padded same).trans whole
        have room : ((0 : Nat) + 2 * x.2.length : Int) ≤ lengthOf [x, y] := by
          rw [length]
          omega
        rw [next_of_fits room most, same, length]
        rw [length] at most
        -- From here on only the numbers count.
        clear room length whole same placed
        refine ⟨most, by omega, ?_, ?_⟩
        · intro p member
          rcases List.mem_cons.mp member with rfl | member
          · refine ⟨?_, ?_, ?_⟩ <;> dsimp only <;> omega
          · cases List.mem_singleton.mp member
            refine ⟨?_, ?_, ?_⟩ <;> dsimp only <;> omega
        · refine List.pairwise_pair.mpr ?_
          dsimp only
          omega
      · omega
    · omega

/-- Three texts: the third one is placed after the length of the second, and not behind it. -/
theorem three_not_shown (some : x.2 ≠ []) (some' : y.2 ≠ []) (some'' : z.2 ≠ []) :
    ¬Shown (lengthOf [x, y, z]) (placements (lengthOf [x, y, z]) 0 [x, y, z]) := by
  have most : lengthOf [x, y, z] < 2 ^ 31 := by
    rw [lengthOf, List.foldl_cons, List.foldl_cons, List.foldl_cons, List.foldl_nil]
    exact align32_toInt_lt _
  have first_pos := List.length_pos_iff.mpr some
  have last_pos := List.length_pos_iff.mpr some''
  generalize lengthOf [x, y, z] = buflen at most ⊢
  have placed : placements buflen 0 [x, y, z] =
      [⟨x, (0 : Nat)⟩, ⟨y, Placement.next buflen ⟨x, (0 : Nat)⟩⟩,
        ⟨z, Placement.next buflen ⟨y, Placement.next buflen ⟨x, (0 : Nat)⟩⟩⟩] := by
    simp [placements, some, some', some'']
  rw [placed]
  intro shown
  obtain ⟨behind, second⟩ := second_shown most shown
  have even := padded_even (Nat.dvd_mul_right 2 x.2.length)
  have aligned := dvd_padded (2 * x.2.length)
  have even' := padded_even (Nat.dvd_mul_right 2 y.2.length)
  have aligned' := dvd_padded (2 * y.2.length)
  have third : Placement.next buflen ⟨y, Placement.next buflen ⟨x, (0 : Nat)⟩⟩ =
      padded (2 * y.2.length) := by
    rw [behind, next_of_fits (by omega) most]
    rcases align32_toInt (Nat.dvd_mul_right 2 y.2.length) (by omega) with ⟨same, -⟩ | ⟨-, last⟩
    · exact same
    · omega
  obtain ⟨-, apart⟩ := shown
  rw [third, behind] at apart
  simp only [List.pairwise_cons, List.mem_cons, List.not_mem_nil, or_false, forall_eq_or_imp,
    forall_eq] at apart
  obtain ⟨⟨-, firstThird⟩, secondThird, -⟩ := apart
  rw [told_of_fits (by omega), told_of_fits (by omega)] at firstThird secondThird
  omega

end

/-! ### The request -/

theorem placements_filter (buflen offset : Int) (slots : List (Nat × List UInt8)) :
    placements buflen offset slots = placements buflen offset (slots.filter (·.2 ≠ [])) := by
  induction slots generalizing offset with
  | nil => rfl
  | cons slot slots ih =>
    by_cases blank : slot.2 = []
    · rw [List.filter_cons_of_neg (by simp [blank]), placements, if_neg (not_not_intro blank), ih]
    · rw [List.filter_cons_of_pos (by simp [blank]), placements, if_pos blank, placements,
        if_pos blank, ih]

theorem needed_filter (slots : List (Nat × List UInt8)) :
    needed slots = needed (slots.filter (·.2 ≠ [])) := by
  induction slots with
  | nil => rfl
  | cons slot slots ih =>
    rw [needed, needed] at ih
    by_cases blank : slot.2 = []
    · rw [List.filter_cons_of_neg (by simp [blank]), needed, List.map_cons, List.sum_cons, ih, blank,
        needed]
      exact Nat.zero_add _
    · rw [List.filter_cons_of_pos (by simp [blank]), needed, needed, List.map_cons, List.sum_cons, ih,
        List.map_cons, List.sum_cons]

theorem bufferLength_eq (login : Login) :
    bufferLength login = lengthOf (login.slots.filter (·.2 ≠ [])) :=
  foldl_length 0 ⟨0, rfl⟩ login.slots

/-- One of the texts is blank, and the length of the others fits into an `int`. -/
structure Login.Fits (login : Login) : Prop where
  blank : ∃ slot ∈ login.slots, slot.2 = []
  room : needed login.slots < 2 ^ 31

/-- The lists of texts that are not blank. -/
theorem shown_fits (login : Login) :
    (Shown (bufferLength login) login.placed → login.Fits) ∧
      (login.Fits → Ordered (bufferLength login) login.placed) := by
  have all : ∀ slot ∈ login.slots.filter (·.2 ≠ []), slot.2 ≠ [] := by
    intro slot member
    simpa using (List.mem_filter.mp member).2
  have few : (login.slots.filter (·.2 ≠ [])).length ≤ 3 := List.length_filter_le _ _
  have blank : (∃ slot ∈ login.slots, slot.2 = []) ↔ (login.slots.filter (·.2 ≠ [])).length < 3 := by
    rw [Nat.lt_iff_le_and_ne, and_iff_right few, ne_eq, show 3 = login.slots.length from rfl,
      List.length_filter_eq_length_iff]
    simp
  have fits : login.Fits ↔ (login.slots.filter (·.2 ≠ [])).length < 3 ∧
      needed (login.slots.filter (·.2 ≠ [])) < 2 ^ 31 := by
    rw [← blank, ← needed_filter]
    exact ⟨fun fits => ⟨fits.blank, fits.room⟩, fun fits => ⟨fits.1, fits.2⟩⟩
  rw [fits, Login.placed, placements_filter, bufferLength_eq]
  generalize login.slots.filter (·.2 ≠ []) = slots at all few
  rcases slots with _ | ⟨x, _ | ⟨y, _ | ⟨z, _ | ⟨w, slots⟩⟩⟩⟩
  · refine ⟨fun _ => ⟨by decide, by decide⟩, fun _ => ?_⟩
    exact ⟨by decide, by decide, List.forall_mem_nil _, List.Pairwise.nil⟩
  · obtain ⟨needs, orders⟩ := one_ordered (all x (.head _))
    exact ⟨fun shown => ⟨by simp, needs shown⟩, fun fits => orders fits.2⟩
  · obtain ⟨needs, orders⟩ := two_ordered (all x (.head _)) (all y (.tail _ (.head _)))
    exact ⟨fun shown => ⟨by simp, needs shown⟩, fun fits => orders fits.2⟩
  · have never := three_not_shown (all x (.head _)) (all y (.tail _ (.head _)))
      (all z (.tail _ (.tail _ (.head _))))
    exact ⟨fun shown => absurd shown never, fun fits => absurd fits.1 (lt_irrefl 3)⟩
  · simp only [List.length_cons] at few
    omega

theorem mbimPopulateConnectData_some (login : Login) (block : Memory) :
    mbimPopulateConnectData login (some block) = some (populated login block) := rfl

/-- The request is laid out as it should be exactly if not all of the three texts are given and the
texts are not too long for an `int`. -/
theorem connect_laid_out_iff (login : Login) (block : Option Memory) :
    ∀ r ∈ mbimPopulateConnectData login block, (LaidOut login r ↔ login.Fits) := by
  intro r returned
  cases block with
  | none => cases returned
  | some block =>
    obtain rfl : populated login block = r :=
      Option.some.inj ((mbimPopulateConnectData_some login block).symm.trans returned)
    obtain ⟨shown, ordered⟩ := shown_fits login
    exact ⟨fun laid => shown (@LaidOut.shown login block laid), fun fits => (ordered fits).laidOut⟩

/-- An access point and a user. -/
def userLogin : Login := ⟨some ⟨[97], by decide⟩, some ⟨[98], by decide⟩, none⟩

theorem userLogin_fits : userLogin.Fits := ⟨⟨(24, []), by decide, rfl⟩, by decide⟩

/-- Two texts stand one behind the other. -/
theorem connect_laid_out_user :
    userLogin.Fits ∧ LaidOut userLogin (populated userLogin fun _ => 0) :=
  ⟨userLogin_fits, (connect_laid_out_iff userLogin _ _
    (mbimPopulateConnectData_some userLogin fun _ => 0)).mpr userLogin_fits⟩

/-- An access point, a user and a password of one byte each. -/
def fullLogin : Login :=
  ⟨some ⟨[97], by decide⟩, some ⟨[98], by decide⟩, some ⟨[99], by decide⟩⟩

/-- The password overwrites the user. -/
theorem connect_not_laid_out :
    ¬∀ (login : Login) (block : Option Memory), ∀ r ∈ mbimPopulateConnectData login block,
      LaidOut login r := by
  intro laid
  have full := laid fullLogin _ _ (mbimPopulateConnectData_some fullLogin fun _ => 0)
  obtain ⟨slot, listed, blank⟩ := ((shown_fits fullLogin).1 full.shown).blank
  simp only [Login.slots, List.mem_cons, List.not_mem_nil, or_false] at listed
  rcases listed with rfl | rfl | rfl <;> cases blank

/-! ### The other members -/

/-- What `mbim_set_connect` writes itself lies before and behind the places of the texts. -/
theorem connectMembers_outside (m : Memory) (onoff sessionID auth iptype : UInt32) {k : Nat}
    (outside : 8 ≤ k ∧ k < 32 ∨ dataBuffer ≤ k) :
    Write.applyAll m (connectMembers onoff sessionID auth iptype) k = m k := by
  have behind : dataBuffer = 60 := rfl
  apply Write.applyAll_outside
  intro w member
  simp only [connectMembers, List.mem_cons, List.not_mem_nil, or_false] at member
  rcases member with rfl | rfl | rfl | rfl | rfl | rfl <;>
    simp only [length_bytesOf, uuidMBIMContextTypeInternet, List.length_cons, List.length_nil] <;> omega

/-- The layout is a matter of the places of the texts and of the buffer. -/
theorem LaidOut.congr {login : Login} {r : Populated} (laid : LaidOut login r)
    (behind : ∀ slot ∈ login.slots, slot.2 ≠ [] → dataBuffer ≤ (r.request.le32 slot.1).toNat)
    {request : Memory} (same : ∀ k, 8 ≤ k ∧ k < 32 ∨ dataBuffer ≤ k →
      (k : Int) < dataBuffer + r.buflen → request k = r.request k) (some : 0 ≤ r.buflen) :
    LaidOut login { r with request } := by
  obtain ⟨inside, buffer, denoted, apart, blank⟩ := laid
  -- The offsets and the sizes stand in front, the texts behind.
  have word {at_ : Nat} (low : 8 ≤ at_) (high : at_ + 4 ≤ 32) :
      request.le32 at_ = r.request.le32 at_ := by
    have room : dataBuffer = 60 := rfl
    rw [le32, le32, same _ (.inl (by omega)) (by omega), same _ (.inl (by omega)) (by omega),
      same _ (.inl (by omega)) (by omega), same _ (.inl (by omega)) (by omega)]
  have place {slot : Nat × List UInt8} (listed : slot ∈ login.slots) : 8 ≤ slot.1 ∧ slot.1 ≤ 24 := by
    simp only [Login.slots, List.mem_cons, List.not_mem_nil, or_false] at listed
    rcases listed with rfl | rfl | rfl <;> simp
  constructor
  case block => exact inside
  case buffer => exact buffer
  case denoted =>
    intro slot listed some
    obtain ⟨low, high⟩ := place listed
    obtain ⟨aligned, size, within, text⟩ := denoted slot listed some
    have first := behind slot listed some
    constructor <;> dsimp only <;> rw [word (by omega) (by omega)]
    · exact aligned
    · exact size
    · exact within
    · refine text.congr fun k least most => same k (.inr (by omega)) ?_
      rw [length_wide] at most
      omega
  case apart =>
    refine apart.imp_of_mem fun {slot other} listed listed' apart some some' => ?_
    obtain ⟨low, high⟩ := place listed
    obtain ⟨low', high'⟩ := place listed'
    dsimp only
    rw [SegmentsApart, word (by omega) (by omega), word (by omega) (by omega)]
    exact apart some some'
  case blank =>
    intro slot listed empty
    obtain ⟨low, high⟩ := place listed
    dsimp only
    rw [word (by omega) (by omega)]
    exact blank slot listed empty

/-- The layout is still there in the information buffer that is sent. -/
theorem laid_out_sent {login : Login} (fits : login.Fits) (block : Memory)
    (onoff sessionID auth iptype : UInt32) :
    ∃ information, mbimSetConnect login onoff sessionID auth iptype (some block) = some information ∧
      (information.length : Int) = dataBuffer + bufferLength login ∧
      LaidOut login { populated login block with request := ofList information } := by
  have ordered := (shown_fits login).2 fits
  have some := ordered.some
  let sent := Write.applyAll (populated login block).request (connectMembers onoff sessionID auth iptype)
  refine ⟨sent.read 0 (dataBuffer + bufferLength login).toNat, if_neg (Int.not_lt.mpr some), ?_, ?_⟩
  · rw [length_read, Int.toNat_of_nonneg (by omega)]
  · refine LaidOut.congr (@Ordered.laidOut login block ordered) ?_ ?_ some
    · intro slot listed some
      obtain ⟨p, member, rfl⟩ := placement_of_slot listed some
      have told := ordered.told_eq member
      rw [Placement.told] at told
      rw [(populated_members ordered.buffer member).1, told]
      exact Nat.le_add_left _ _
    · intro k outside inside
      have length : (populated login block).buflen = bufferLength login := rfl
      rw [ofList_read _ (by omega)]
      exact connectMembers_outside _ _ _ _ _ outside

end LorawanFeeds.MbimClient
