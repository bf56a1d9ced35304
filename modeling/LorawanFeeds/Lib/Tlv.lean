import LorawanFeeds.Lib.Memory

/-!
# Records of a type, a length and a value

A record is a byte for its type, two for the length of its value, the lower first, and the value. The
records of a body stand one behind the other, and the last one that fits ends the list.
-/
namespace LorawanFeeds.Lib

open Memory

/-- A record, whose length can be written. -/
structure Tlv where
  type : UInt8
  value : List UInt8
  fits : value.length < 2 ^ 16
  deriving DecidableEq

namespace Tlv

/-- The bytes of a record. -/
def encode (t : Tlv) : List UInt8 :=
  t.type :: t.value.length.toUInt8 :: (t.value.length / 256).toUInt8 :: t.value

def encodeAll (ts : List Tlv) : List UInt8 := ts.flatMap encode

theorem length_encode (t : Tlv) : t.encode.length = 3 + t.value.length := by
  simp only [encode, List.length_cons]
  omega

theorem encodeAll_cons (t : Tlv) (ts : List Tlv) : encodeAll (t :: ts) = t.encode ++ encodeAll ts := rfl

theorem length_encodeAll (ts : List Tlv) :
    (encodeAll ts).length = (ts.map fun t => 3 + t.value.length).sum := by
  induction ts with
  | nil => rfl
  | cons t ts ih =>
    rw [encodeAll_cons, List.length_append, ih, length_encode]
    rfl

/-! ### Records in memory -/

section

variable (m : Memory)

/-- The length that stands in a record. -/
def lengthAt (p : Nat) : Nat := (m.le16 (p + 1)).toNat

theorem lengthAt_lt (p : Nat) : lengthAt m p < 2 ^ 16 := (m.le16 (p + 1)).toNat_lt

/-- Where the records begin that lie wholly inside of a body. -/
def offsets (length p : Nat) : List Nat :=
  if 3 + lengthAt m p ≤ length then
    p :: offsets (length - (3 + lengthAt m p)) (p + (3 + lengthAt m p))
  else []
termination_by length

/-- Where the last of them ends, and how much of the body is left there. -/
def rest (length p : Nat) : Nat × Nat :=
  if 3 + lengthAt m p ≤ length then
    rest (length - (3 + lengthAt m p)) (p + (3 + lengthAt m p))
  else (p, length)
termination_by length

variable {m} {length p : Nat}

theorem offsets_of_le (inside : 3 + lengthAt m p ≤ length) : offsets m length p =
    p :: offsets m (length - (3 + lengthAt m p)) (p + (3 + lengthAt m p)) := by
  rw [offsets, if_pos inside]

theorem offsets_of_lt (overrun : length < 3 + lengthAt m p) : offsets m length p = [] := by
  rw [offsets, if_neg (by omega)]

theorem rest_of_le (inside : 3 + lengthAt m p ≤ length) :
    rest m length p = rest m (length - (3 + lengthAt m p)) (p + (3 + lengthAt m p)) := by
  rw [rest, if_pos inside]

theorem rest_of_lt (overrun : length < 3 + lengthAt m p) : rest m length p = (p, length) := by
  rw [rest, if_neg (by omega)]

/-! ### Records that have been written -/

theorem lengthAt_encode {t : Tlv} (holds : m.Holds p t.encode) : lengthAt m p = t.value.length := by
  have low : m (p + 1) = t.value.length.toUInt8 := holds 1 (by simp [encode])
  have high : m (p + 1 + 1) = (t.value.length / 256).toUInt8 := holds 2 (by simp [encode])
  have fits := t.fits
  rw [lengthAt, le16, low, high]
  simp only [Nat.toUInt8, UInt8.toNat_ofNat', UInt16.toNat_ofNat']
  omega

theorem type_encode {t : Tlv} (holds : m.Holds p t.encode) : m p = t.type :=
  holds 0 (by simp [encode])

theorem holds_value {t : Tlv} (holds : m.Holds p t.encode) : m.Holds (p + 3) t.value :=
  (@holds_append _ _ [_, _, _] _).mp holds |>.2

/-- Where the records of a list begin. -/
def starts : List Tlv → Nat → List Nat
  | [], _ => []
  | t :: ts, p => p :: starts ts (p + (3 + t.value.length))

theorem offsets_encodeAll {ts : List Tlv} (holds : m.Holds p (encodeAll ts)) :
    offsets m (encodeAll ts).length p = starts ts p := by
  induction ts generalizing p with
  | nil =>
    have overrun : (encodeAll []).length < 3 + lengthAt m p := by
      rw [encodeAll, List.flatMap_nil, List.length_nil]
      omega
    exact offsets_of_lt overrun
  | cons t ts ih =>
    rw [encodeAll_cons, holds_append, length_encode] at holds
    have value := lengthAt_encode holds.1
    have inside : 3 + lengthAt m p ≤ (encodeAll (t :: ts)).length := by
      rw [value, encodeAll_cons, List.length_append, length_encode]
      omega
    rw [offsets_of_le inside, value, encodeAll_cons, List.length_append, length_encode,
      Nat.add_sub_cancel_left, ih holds.2, starts]

theorem rest_encodeAll {ts : List Tlv} (holds : m.Holds p (encodeAll ts)) :
    (rest m (encodeAll ts).length p).2 = 0 := by
  induction ts generalizing p with
  | nil =>
    have overrun : (encodeAll []).length < 3 + lengthAt m p := by
      rw [encodeAll, List.flatMap_nil, List.length_nil]
      omega
    rw [rest_of_lt overrun]
    rfl
  | cons t ts ih =>
    rw [encodeAll_cons, holds_append, length_encode] at holds
    have value := lengthAt_encode holds.1
    have inside : 3 + lengthAt m p ≤ (encodeAll (t :: ts)).length := by
      rw [value, encodeAll_cons, List.length_append, length_encode]
      omega
    rw [rest_of_le inside, value, encodeAll_cons, List.length_append, length_encode,
      Nat.add_sub_cancel_left, ih holds.2]

end

end Tlv

end LorawanFeeds.Lib
