import Mathlib.Data.Nat.Bitwise

/-!
# Two fields in one word

A word holds a low field of `k` bits and a high field. Each is read back by a shift or a mask, as
long as the low field fits.
-/
namespace LorawanFeeds.Lib

variable {k low : Nat}

theorem or_shiftLeft_eq_add (fits : low < 2 ^ k) (high : Nat) :
    low ||| high <<< k = 2 ^ k * high + low := by
  rw [Nat.or_comm, ← Nat.shiftLeft_add_eq_or_of_lt fits, Nat.shiftLeft_eq, Nat.mul_comm]

theorem shiftRight_or_shiftLeft (fits : low < 2 ^ k) (high : Nat) :
    (low ||| high <<< k) >>> k = high := by
  rw [or_shiftLeft_eq_add fits, Nat.shiftRight_eq_div_pow, Nat.mul_add_div (Nat.two_pow_pos k),
    Nat.div_eq_of_lt fits, Nat.add_zero]

theorem mask_or_shiftLeft (fits : low < 2 ^ k) (high : Nat) :
    (low ||| high <<< k) &&& (2 ^ k - 1) = low := by
  rw [or_shiftLeft_eq_add fits, Nat.and_two_pow_sub_one_eq_mod, Nat.mul_add_mod,
    Nat.mod_eq_of_lt fits]

end LorawanFeeds.Lib
