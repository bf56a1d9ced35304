import Mathlib.Data.List.Induction
import Mathlib.Data.Nat.Bitwise

/-!
# Words in memory

A block of memory is what can be read from its first byte on. What stands behind the block is part
of it: a copy of some of its bytes says nothing about the others.
-/
namespace LorawanFeeds.Lib

/-- The bytes from an address on. -/
abbrev Memory := Nat → UInt8

namespace Memory

/-- A block with these bytes, and zeros behind it. -/
def ofList (bytes : List UInt8) : Memory := fun k => bytes.getD k 0

/-- The block has these bytes at an offset. -/
def Holds (m : Memory) (offset : Nat) (bytes : List UInt8) : Prop :=
  ∀ k, (inside : k < bytes.length) → m (offset + k) = bytes.get ⟨k, inside⟩

instance (m : Memory) (offset : Nat) (bytes : List UInt8) : Decidable (m.Holds offset bytes) :=
  inferInstanceAs (Decidable (∀ k, (inside : k < bytes.length) → _))

/-- A word of 32 bits from its bytes, the lowest first. -/
def word (a b c d : UInt8) : UInt32 :=
  a.toUInt32 ||| b.toUInt32 <<< 8 ||| c.toUInt32 <<< 16 ||| d.toUInt32 <<< 24

/-- The bytes of a word. -/
def bytesOf (w : UInt32) : List UInt8 :=
  [w.toUInt8, (w >>> 8).toUInt8, (w >>> 16).toUInt8, (w >>> 24).toUInt8]

/-- The little-endian word at an offset. -/
def le32 (m : Memory) (offset : Nat) : UInt32 :=
  word (m offset) (m (offset + 1)) (m (offset + 2)) (m (offset + 3))

/-- The little-endian word of 16 bits at an offset. -/
def le16 (m : Memory) (offset : Nat) : UInt16 :=
  UInt16.ofNat ((m offset).toNat + 256 * (m (offset + 1)).toNat)

/-- Some bytes at an offset. -/
def read (m : Memory) (offset size : Nat) : List UInt8 :=
  (List.range size).map fun k => m (offset + k)

theorem length_read (m : Memory) (offset size : Nat) : (m.read offset size).length = size := by
  simp [read]

theorem read_add (m : Memory) (offset a b : Nat) :
    m.read offset (a + b) = m.read offset a ++ m.read (offset + a) b := by
  simp [read, List.range_add, Function.comp_def, Nat.add_assoc]

theorem read_congr {m m' : Memory} {offset size : Nat}
    (same : ∀ k, offset ≤ k → k < offset + size → m k = m' k) :
    m.read offset size = m'.read offset size := by
  refine List.map_congr_left fun k member => same _ (by omega) ?_
  have inside := List.mem_range.mp member
  omega

/-- `memcpy` of the first bytes of a block into another one. -/
def memcpy (dest src : Memory) (size : Nat) : Memory := fun k => if k < size then src k else dest k

theorem memcpy_of_lt (dest src : Memory) {size k : Nat} (inside : k < size) :
    memcpy dest src size k = src k := if_pos inside

/-- A word inside of a copy. -/
theorem le32_congr {m m' : Memory} {size : Nat} (same : ∀ k < size, m k = m' k) {offset : Nat}
    (inside : offset + 4 ≤ size) : le32 m offset = le32 m' offset := by
  rw [le32, le32, same _ (by omega), same _ (by omega), same _ (by omega), same _ (by omega)]

/-! ### The bytes of a word -/

theorem getLsbD_word (a b c d : UInt8) {i : Nat} (inside : i < 32) :
    (word a b c d).toBitVec.getLsbD i =
      if i < 8 then a.toBitVec.getLsbD i
      else if i < 16 then b.toBitVec.getLsbD (i - 8)
      else if i < 24 then c.toBitVec.getLsbD (i - 16)
      else d.toBitVec.getLsbD (i - 24) := by
  simp only [word, UInt32.toBitVec_or, BitVec.getLsbD_or]
  -- One byte for each range of positions: the others have no bits there.
  have none (x : UInt8) {k : Nat} (behind : 8 ≤ k) : x.toBitVec.getLsbD k = false :=
    BitVec.getLsbD_of_ge _ _ behind
  split_ifs with first second third
  · simp [inside, first, show i < 16 by omega, show i < 24 by omega]
  · simp [inside, first, second, show i < 24 by omega, none a (show 8 ≤ i by omega)]
  · simp [inside, first, second, third, none a (show 8 ≤ i by omega),
      none b (show 8 ≤ i - 8 by omega)]
  · simp [inside, first, second, third, none a (show 8 ≤ i by omega),
      none b (show 8 ≤ i - 8 by omega), none c (show 8 ≤ i - 16 by omega)]

theorem word_bytes (w : UInt32) :
    word w.toUInt8 (w >>> 8).toUInt8 (w >>> 16).toUInt8 (w >>> 24).toUInt8 = w := by
  apply UInt32.toBitVec_inj.mp
  apply BitVec.eq_of_getLsbD_eq
  intro i inside
  rw [getLsbD_word _ _ _ _ inside]
  split_ifs with first second third
  · simp [inside, first]
  · simp [inside, show i - 8 < 8 by omega, show 8 + (i - 8) = i by omega]
  · simp [inside, show i - 16 < 8 by omega, show 16 + (i - 16) = i by omega]
  · simp [inside, show i - 24 < 8 by omega, show 24 + (i - 24) = i by omega]

/-- A byte of a word, by its bits. -/
theorem toUInt8_shiftRight {w shift : UInt32} {x : UInt8} (small : shift.toNat < 32)
    (bits : ∀ i < 8, w.toBitVec.getLsbD (shift.toNat + i) = x.toBitVec.getLsbD i) :
    (w >>> shift).toUInt8 = x := by
  apply UInt8.toBitVec_inj.mp
  apply BitVec.eq_of_getLsbD_eq
  intro i inside
  have modulo : shift.toNat % 32 = shift.toNat := Nat.mod_eq_of_lt small
  rw [← bits i inside]
  simp [inside, modulo]

theorem bytesOf_word (a b c d : UInt8) : bytesOf (word a b c d) = [a, b, c, d] := by
  have bits {i : Nat} (inside : i < 32) := getLsbD_word a b c d inside
  have first : (word a b c d >>> 0).toUInt8 = a := toUInt8_shiftRight (by decide) fun i inside => by
    rw [UInt32.toNat_zero, Nat.zero_add, bits (by omega), if_pos inside]
  have second : (word a b c d >>> 8).toUInt8 = b := toUInt8_shiftRight (by decide) fun i inside => by
    rw [show (8 : UInt32).toNat = 8 from rfl, bits (by omega), if_neg (by omega), if_pos (by omega),
      Nat.add_sub_cancel_left]
  have third : (word a b c d >>> 16).toUInt8 = c := toUInt8_shiftRight (by decide) fun i inside => by
    rw [show (16 : UInt32).toNat = 16 from rfl, bits (by omega), if_neg (by omega), if_neg (by omega),
      if_pos (by omega), Nat.add_sub_cancel_left]
  have fourth : (word a b c d >>> 24).toUInt8 = d := toUInt8_shiftRight (by decide) fun i inside => by
    rw [show (24 : UInt32).toNat = 24 from rfl, bits (by omega), if_neg (by omega), if_neg (by omega),
      if_neg (by omega), Nat.add_sub_cancel_left]
  rw [UInt32.shiftRight_zero] at first
  rw [bytesOf, first, second, third, fourth]

/-- Words are the same if their bytes are. -/
theorem word_inj {a b c d a' b' c' d' : UInt8} :
    word a b c d = word a' b' c' d' ↔ a = a' ∧ b = b' ∧ c = c' ∧ d = d' := by
  constructor
  · intro same
    have bytes := congrArg bytesOf same
    rw [bytesOf_word, bytesOf_word] at bytes
    simpa using bytes
  · rintro ⟨rfl, rfl, rfl, rfl⟩
    rfl

/-! ### Blocks with known bytes -/

theorem holds_append {m : Memory} {offset : Nat} {front back : List UInt8} :
    m.Holds offset (front ++ back) ↔ m.Holds offset front ∧ m.Holds (offset + front.length) back := by
  constructor
  · intro holds
    refine ⟨fun k inside => ?_, fun k inside => ?_⟩
    · have here := holds k (by simp; omega)
      simpa [List.getElem_append_left inside] using here
    · have here := holds (front.length + k) (by simp; omega)
      rw [← Nat.add_assoc] at here
      simpa using here
  · rintro ⟨first, second⟩ k inside
    by_cases left : k < front.length
    · rw [first k left]
      simp [List.getElem_append_left left]
    · have back := second (k - front.length) (by simp at inside; omega)
      rw [show offset + front.length + (k - front.length) = offset + k by omega] at back
      rw [back]
      simp [List.getElem_append_right (Nat.not_lt.mp left)]

theorem holds_ofList (front back : List UInt8) : (ofList (front ++ back)).Holds front.length back := by
  intro k inside
  simp [ofList, inside]

/-- A copy has the bytes of the block. -/
theorem ofList_read (m : Memory) {size k : Nat} (inside : k < size) :
    ofList (m.read 0 size) k = m k := by
  simp [ofList, read, inside]

theorem Holds.read_eq {m : Memory} {offset : Nat} {bytes : List UInt8} (holds : m.Holds offset bytes) :
    m.read offset bytes.length = bytes := by
  refine List.ext_getElem (by simp [read]) fun k inside _ => ?_
  simp only [read, List.getElem_map, List.getElem_range]
  exact holds k (by simpa [read] using inside)

theorem holds_four {m : Memory} {offset : Nat} {a b c d : UInt8} (holds : m.Holds offset [a, b, c, d]) :
    m.le32 offset = word a b c d := by
  rw [le32, show m offset = a from holds 0 (by simp), show m (offset + 1) = b from holds 1 (by simp),
    show m (offset + 2) = c from holds 2 (by simp), show m (offset + 3) = d from holds 3 (by simp)]

theorem Holds.le32_eq {m : Memory} {offset : Nat} {w : UInt32} (holds : m.Holds offset (bytesOf w)) :
    m.le32 offset = w := by
  rw [holds_four holds, word_bytes]

/-- The bytes of a word of 16 bits. -/
def bytes16 (w : UInt16) : List UInt8 := [w.toNat.toUInt8, (w.toNat / 256).toUInt8]

theorem le16_eq_zero {m : Memory} {offset : Nat} :
    m.le16 offset = 0 ↔ m offset = 0 ∧ m (offset + 1) = 0 := by
  have low := (m offset).toNat_lt
  have high := (m (offset + 1)).toNat_lt
  rw [le16, ← UInt16.toNat_inj, UInt16.toNat_ofNat', ← UInt8.toNat_inj, ← UInt8.toNat_inj]
  simp only [UInt16.toNat_zero, UInt8.toNat_zero]
  omega

theorem Holds.le16_eq {m : Memory} {offset : Nat} {w : UInt16} (holds : m.Holds offset (bytes16 w)) :
    m.le16 offset = w := by
  have small := w.toNat_lt
  have low : m offset = w.toNat.toUInt8 := holds 0 (by simp [bytes16])
  have high : m (offset + 1) = (w.toNat / 256).toUInt8 := holds 1 (by simp [bytes16])
  rw [le16, low, high, ← UInt16.toNat_inj]
  simp only [Nat.toUInt8, UInt8.toNat_ofNat', UInt16.toNat_ofNat']
  omega

/-- Only these bytes matter. -/
theorem Holds.congr {m m' : Memory} {offset : Nat} {bytes : List UInt8} (holds : m.Holds offset bytes)
    (same : ∀ k, offset ≤ k → k < offset + bytes.length → m' k = m k) : m'.Holds offset bytes := by
  intro k inside
  rw [same (offset + k) (by omega) (by omega)]
  exact holds k inside

/-- The block from an offset on. -/
def tail (m : Memory) (n : Nat) : Memory := fun k => m (n + k)

theorem holds_tail {m : Memory} {n offset : Nat} {bytes : List UInt8} :
    (m.tail n).Holds offset bytes ↔ m.Holds (n + offset) bytes := by
  simp only [Holds, tail, Nat.add_assoc]

/-! ### Writing -/

/-- Some bytes that are written at an offset. -/
structure Write where
  offset : Nat
  bytes : List UInt8
  deriving DecidableEq, Repr

namespace Write

def apply (m : Memory) (w : Write) : Memory := fun k =>
  if w.offset ≤ k ∧ k < w.offset + w.bytes.length then w.bytes.getD (k - w.offset) 0 else m k

def applyAll (m : Memory) (ws : List Write) : Memory := ws.foldl apply m

/-- The bytes are written into a block of this size. -/
def Inside (size : Nat) (w : Write) : Prop := w.offset + w.bytes.length ≤ size

instance (size : Nat) (w : Write) : Decidable (w.Inside size) := inferInstanceAs (Decidable (_ ≤ _))

theorem holds_apply (m : Memory) (w : Write) : (apply m w).Holds w.offset w.bytes := by
  intro k inside
  rw [apply, if_pos (by omega), Nat.add_sub_cancel_left]
  simp [inside]

theorem apply_outside (m : Memory) (w : Write) {k : Nat}
    (outside : k < w.offset ∨ w.offset + w.bytes.length ≤ k) : apply m w k = m k :=
  if_neg (by omega)

theorem applyAll_concat (m : Memory) (ws : List Write) (w : Write) :
    applyAll m (ws ++ [w]) = apply (applyAll m ws) w := by
  rw [applyAll, List.foldl_append]
  rfl

/-- What stands before a write stays. -/
theorem holds_before {m : Memory} {w : Write} {offset : Nat} {bytes : List UInt8}
    (holds : m.Holds offset bytes) (before : offset + bytes.length ≤ w.offset) :
    (apply m w).Holds offset bytes :=
  holds.congr fun _ _ inside => apply_outside m w (.inl (by omega))

/-- What stands behind a write stays. -/
theorem holds_behind {m : Memory} {w : Write} {offset : Nat} {bytes : List UInt8}
    (holds : m.Holds offset bytes) (behind : w.offset + w.bytes.length ≤ offset) :
    (apply m w).Holds offset bytes :=
  holds.congr fun _ outside _ => apply_outside m w (.inr (by omega))

/-- Two writes have no byte in common. -/
def Apart (w w' : Write) : Prop :=
  w.offset + w.bytes.length ≤ w'.offset ∨ w'.offset + w'.bytes.length ≤ w.offset

/-- A byte that no write touches. -/
theorem applyAll_outside (m : Memory) {ws : List Write} {k : Nat}
    (outside : ∀ w ∈ ws, k < w.offset ∨ w.offset + w.bytes.length ≤ k) : applyAll m ws k = m k := by
  induction ws using List.reverseRecOn with
  | nil => rfl
  | append_singleton ws w ih =>
    rw [applyAll_concat, apply_outside _ _ (outside w (by simp))]
    exact ih fun other member => outside other (by simp [member])

/-- What one of the writes leaves, if no other one touches it. -/
theorem holds_applyAll (m : Memory) {ws : List Write} {w : Write} (member : w ∈ ws)
    (apart : ∀ w' ∈ ws, w' = w ∨ w.Apart w') : (applyAll m ws).Holds w.offset w.bytes := by
  induction ws using List.reverseRecOn with
  | nil => cases member
  | append_singleton ws last ih =>
    rw [applyAll_concat]
    rcases apart last (by simp) with rfl | beside
    · exact holds_apply _ _
    · rcases List.mem_append.mp member with earlier | final
      · have before := ih earlier fun w' other => apart w' (by simp [other])
        exact beside.elim (holds_before before) (holds_behind before)
      · obtain rfl := List.mem_singleton.mp final
        exact holds_apply _ _

end Write

/-! ### Pointers -/

/-- `while (test(*p)) p++;` for no more than some steps. -/
def advance (m : Memory) (test : UInt8 → Bool) : Nat → Nat → Nat
  | 0, p => p
  | steps + 1, p => if test (m p) then m.advance test steps (p + 1) else p

theorem advance_eq {m : Memory} {test : UInt8 → Bool} {p : Nat} {front : List UInt8} {stop : UInt8}
    (holds : m.Holds p (front ++ [stop])) (goesOn : ∀ b ∈ front, test b = true)
    (stops : test stop = false) {steps : Nat} (enough : front.length ≤ steps) :
    m.advance test steps p = p + front.length := by
  induction front generalizing p steps with
  | nil =>
    have here : m p = stop := holds 0 (by simp)
    cases steps with
    | zero => rfl
    | succ steps => simp [advance, here, stops]
  | cons b front ih =>
    cases steps with
    | zero => cases enough
    | succ steps =>
      have here : m p = b := holds 0 (by simp)
      have there : m.Holds (p + 1) (front ++ [stop]) :=
        (holds_append.mp (show m.Holds p ([b] ++ (front ++ [stop])) from holds)).2
      rw [advance, here, if_pos (goesOn b (.head _)),
        ih there (fun c member => goesOn c (.tail _ member)) (Nat.le_of_succ_le_succ enough),
        List.length_cons]
      omega

/-- A pointer comes to rest at the first byte that fails the test, at a known one at the latest. -/
theorem advance_spec {m : Memory} {test : UInt8 → Bool} {p stop steps : Nat} (before : p ≤ stop)
    (stops : test (m stop) = false) (enough : stop ≤ p + steps) :
    p ≤ m.advance test steps p ∧ m.advance test steps p ≤ stop ∧
      test (m (m.advance test steps p)) = false ∧
        ∀ k, p ≤ k → k < m.advance test steps p → test (m k) = true := by
  induction steps generalizing p with
  | zero =>
    obtain rfl : p = stop := by omega
    exact ⟨le_refl _, le_refl _, stops, fun k least most => by cases Nat.not_lt.mpr least most⟩
  | succ steps ih =>
    rw [advance]
    split
    next goesOn =>
      have other : p ≠ stop := by
        rintro rfl
        exact absurd goesOn (by simp [stops])
      obtain ⟨least, most, rests, passed⟩ := ih (show p + 1 ≤ stop by omega) (by omega)
      refine ⟨by omega, most, rests, fun k first last => ?_⟩
      rcases Nat.eq_or_lt_of_le first with rfl | behind
      · exact goesOn
      · exact passed k behind last
    next rests =>
      refine ⟨le_refl _, before, by simpa using rests, fun k first last => ?_⟩
      omega

end Memory

end LorawanFeeds.Lib
