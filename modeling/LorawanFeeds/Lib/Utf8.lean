import Mathlib.Data.List.Basic

/-!
# The bytes of a text

A text as the list of its bytes in UTF-8. Characters of more than one byte have no byte below 128,
so that a byte of ASCII in a text is one of its characters.
-/
namespace LorawanFeeds.Lib.Utf8

theorem toList_loop (b : ByteArray) (i : Nat) (read : List UInt8) :
    ByteArray.toList.loop b i read = read.reverse ++ b.data.toList.drop i := by
  by_cases inside : i < b.size
  · have here : b.get! i = b.data.toList.get ⟨i, inside⟩ := by
      simp only [ByteArray.get!, List.get_eq_getElem, Array.getElem_toList]
      exact getElem!_pos b.data i inside
    rw [ByteArray.toList.loop, if_pos inside, toList_loop b (i + 1), List.reverse_cons,
      List.append_assoc, here]
    congr 1
    exact (List.drop_eq_getElem_cons inside).symm
  · have beyond : b.data.toList.length ≤ i := Nat.le_of_not_lt inside
    rw [ByteArray.toList.loop, if_neg inside, List.drop_eq_nil_of_le beyond, List.append_nil]
termination_by b.size - i

theorem toUTF8_toList (s : String) :
    s.toUTF8.toList = s.toList.flatMap String.utf8EncodeChar := by
  have bytes : s.toByteArray = s.toList.utf8Encode := by
    rw [← String.toByteArray_ofList, String.ofList_toList]
  have list : s.toUTF8.toList = s.toByteArray.data.toList := toList_loop _ 0 []
  rw [list, bytes, List.utf8Encode, List.toList_data_toByteArray]

/-- A byte below 128 is the character itself. -/
theorem toNat_eq_of_mem_utf8EncodeChar {c : Char} {b : UInt8} (small : b.toNat < 128)
    (member : b ∈ String.utf8EncodeChar c) : c.toNat = b.toNat := by
  have high {n : Nat} (continued : 128 ≤ n) (fits : n < 256) : b ≠ UInt8.ofNat n := by
    rintro rfl
    rw [UInt8.toNat_ofNat'] at small
    omega
  rw [String.utf8EncodeChar] at member
  split at member
  next one =>
    rw [List.mem_singleton.mp member, UInt8.toNat_ofNat', Nat.mod_eq_of_lt]
    · rfl
    · omega
  next =>
    exfalso
    split at member
    · rcases List.mem_pair.mp member with same | same <;>
        exact high (by omega) (by omega) same
    · split at member
      · simp only [List.mem_cons, List.not_mem_nil, or_false] at member
        rcases member with same | same | same <;> exact high (by omega) (by omega) same
      · simp only [List.mem_cons, List.not_mem_nil, or_false] at member
        rcases member with same | same | same | same <;> exact high (by omega) (by omega) same

/-- A character of ASCII that is not in a text is not among its bytes. -/
theorem notMem_toUTF8 {s : String} {c : Char} (ascii : c.toNat < 128) (absent : c ∉ s.toList) :
    UInt8.ofNat c.toNat ∉ s.toUTF8.toList := by
  rw [toUTF8_toList, List.mem_flatMap]
  rintro ⟨d, member, encoded⟩
  have value : (UInt8.ofNat c.toNat).toNat = c.toNat := by
    rw [UInt8.toNat_ofNat', Nat.mod_eq_of_lt]
    omega
  have same := toNat_eq_of_mem_utf8EncodeChar (by omega) encoded
  rw [value] at same
  have equal : d = c := Char.toNat_inj.mp same
  exact absent (equal ▸ member)

end LorawanFeeds.Lib.Utf8
