import Mathlib.Data.List.Basic
import Mathlib.Tactic.Common

/-!
# Base64

`base64.cpp`. The output goes to a freshly allocated buffer, so the model keeps the buffer:
a cell holds no value until it is written, and a write outside the buffer has no result.
Sizes are natural numbers; below 2^29 input bytes no `int` of the source overflows.
-/
namespace LorawanFeeds.Bridge.Base64

/-- A `char` buffer from `new char[n]`: `none` is a cell nobody wrote to yet. -/
abbrev Buffer := List (Option UInt8)

def Buffer.alloc (size : Nat) : Buffer := List.replicate size none

/-- `out[i] = c`; no result outside the buffer. -/
def Buffer.write (out : Buffer) (i : Nat) (c : UInt8) : Option Buffer :=
  if i < out.length then some (out.set i (some c)) else none

/-- Consecutive writes from index `i` on. -/
def Buffer.writes (out : Buffer) (i : Nat) : List UInt8 → Option Buffer
  | [] => some out
  | c :: cs => (out.write i c).bind fun out => Buffer.writes out (i + 1) cs

/-- `string(out)`: the bytes before the first zero. No result when an unwritten cell or the
end of the buffer comes first. -/
def Buffer.cString : Buffer → Option (List UInt8)
  | [] => none
  | none :: _ => none
  | some c :: rest => if c = 0 then some [] else (Buffer.cString rest).map (c :: ·)

def code62 : UInt8 := '+'.toUInt8
def code63 : UInt8 := '/'.toUInt8
def codePad : UInt8 := '='.toUInt8

/-- `code_to_char`; its last branch exits the program and is not reached with six bits. -/
def codeToChar (x : Nat) : UInt8 :=
  if x ≤ 25 then 'A'.toUInt8 + x.toUInt8
  else if x ≤ 51 then 'a'.toUInt8 + (x - 26).toUInt8
  else if x ≤ 61 then '0'.toUInt8 + (x - 52).toUInt8
  else if x = 62 then code62
  else code63

/-- The 24-bit word of a block of three bytes. -/
def word (a b c : UInt8) : Nat := a.toNat <<< 16 ||| b.toNat <<< 8 ||| c.toNat

/-- The four characters of a word, of which a partial block writes the first two or three. -/
def wordChars (b : Nat) : List UInt8 :=
  [codeToChar (b >>> 18 &&& 0x3F), codeToChar (b >>> 12 &&& 0x3F),
    codeToChar (b >>> 6 &&& 0x3F), codeToChar (b &&& 0x3F)]

/-- The loop over the full blocks, from block `i` on with `count` blocks to go. -/
def fullBlocks (input : List UInt8) : Nat → Nat → Buffer → Option Buffer
  | _, 0, out => some out
  | i, count + 1, out => do
    let b := word (input.getD (3 * i) 0) (input.getD (3 * i + 1) 0) (input.getD (3 * i + 2) 0)
    let out ← out.writes (4 * i) (wordChars b)
    fullBlocks input (i + 1) count out

/-- `bin_to_b64_nopad`: the buffer and the number of characters before the terminator. -/
def binToB64Nopad (input : List UInt8) (out : Buffer) (maxLen : Nat) : Option (Buffer × Nat) :=
  if input.length = 0 then (out.write 0 0).map (·, 0)
  else
    let blocks := input.length / 3
    let lastChars := match input.length % 3 with
      | 0 => 0
      | 1 => 2
      | _ => 3
    let resultLen := 4 * blocks + lastChars
    -- The source throws if the result and its terminator do not fit.
    if maxLen < resultLen + 1 then none
    else do
      let out ← fullBlocks input 0 blocks out
      let a := input.getD (3 * blocks) 0
      let b := input.getD (3 * blocks + 1) 0
      -- The partial block, and the terminator behind it.
      let out ← match lastChars with
        | 0 => out.write (4 * blocks) 0
        | 2 => out.writes (4 * blocks) ((wordChars (word a 0 0)).take 2 ++ [0])
        | _ => out.writes (4 * blocks) ((wordChars (word a b 0)).take 3 ++ [0])
      some (out, resultLen)

/-- `bin_to_b64`: the padding of the last block. -/
def binToB64 (input : List UInt8) (out : Buffer) (maxLen : Nat) : Option (Buffer × Nat) := do
  let (out, ret) ← binToB64Nopad input out maxLen
  match ret % 4 with
  | 0 => some (out, ret)
  -- The padding overwrites the terminator.
  | 2 =>
    if maxLen ≥ ret + 2 + 1 then
      (out.writes ret [codePad, codePad, 0]).map (·, ret + 2)
    else none
  | 3 => if maxLen ≥ ret + 1 + 1 then (out.writes ret [codePad, 0]).map (·, ret + 1) else none
  | _ => none

/-- `Base64::encode`; no result where the source throws or leaves its buffer. -/
def encode (input : List UInt8) : Option (List UInt8) := do
  let maxLen := 4 * input.length + 1
  let (out, _) ← binToB64 input (Buffer.alloc maxLen) maxLen
  out.cString

/-! ### What it computes -/

/-- The encoding, block by block. -/
def encoding : List UInt8 → List UInt8
  | [] => []
  | [a] => (wordChars (word a 0 0)).take 2 ++ [codePad, codePad]
  | [a, b] => (wordChars (word a b 0)).take 3 ++ [codePad]
  | a :: b :: c :: rest => wordChars (word a b c) ++ encoding rest

theorem encoding_length (input : List UInt8) :
    (encoding input).length = 4 * ((input.length + 2) / 3) := by
  induction input using encoding.induct with
  | case1 => rfl
  | case2 a => simp [encoding, wordChars]
  | case3 a b => simp [encoding, wordChars]
  | case4 a b c rest ih =>
    simp only [encoding, List.length_append, ih, List.length_cons]
    simp only [wordChars, List.length_cons, List.length_nil]
    omega

theorem codeToChar_ne_zero : ∀ x < 64, codeToChar x ≠ 0 := by decide

theorem sixBits_lt (b : Nat) : b &&& 0x3F < 64 := Nat.lt_of_le_of_lt Nat.and_le_right (by decide)

theorem wordChars_ne_zero (b : Nat) : ∀ c ∈ wordChars b, c ≠ 0 := by
  intro c member
  simp only [wordChars, List.mem_cons, List.not_mem_nil, or_false] at member
  rcases member with rfl | rfl | rfl | rfl <;> exact codeToChar_ne_zero _ (sixBits_lt _)

theorem encoding_ne_zero (input : List UInt8) : ∀ c ∈ encoding input, c ≠ 0 := by
  have pad : codePad ≠ 0 := by decide
  induction input using encoding.induct with
  | case1 => simp [encoding]
  | case2 a =>
    intro c member
    simp only [encoding, List.mem_append, List.mem_cons, List.not_mem_nil, or_false] at member
    rcases member with early | rfl | rfl
    · exact wordChars_ne_zero _ c (List.mem_of_mem_take early)
    · exact pad
    · exact pad
  | case3 a b =>
    intro c member
    simp only [encoding, List.mem_append, List.mem_cons, List.not_mem_nil, or_false] at member
    rcases member with early | rfl
    · exact wordChars_ne_zero _ c (List.mem_of_mem_take early)
    · exact pad
  | case4 a b c rest ih =>
    intro d member
    rcases List.mem_append.mp member with first | later
    · exact wordChars_ne_zero _ d first
    · exact ih d later

/-- Whole blocks are encoded independently of what follows. -/
theorem encoding_append (input rest : List UInt8) (whole : input.length % 3 = 0) :
    encoding (input ++ rest) = encoding input ++ encoding rest := by
  induction input using encoding.induct with
  | case1 => rfl
  | case2 a => simp at whole
  | case3 a b => simp at whole
  | case4 a b c tail ih =>
    have shorter : tail.length % 3 = 0 := by
      simp only [List.length_cons] at whole
      omega
    simp [encoding, ih shorter]

/-! ### The buffer -/

theorem Buffer.writes_eq (cs : List UInt8) (written tail : Buffer) (i : Nat)
    (here : written.length = i) (room : cs.length ≤ tail.length) :
    Buffer.writes (written ++ tail) i cs = some (written ++ cs.map some ++ tail.drop cs.length) := by
  induction cs generalizing written tail i with
  | nil => simp [Buffer.writes]
  | cons c cs ih =>
    cases tail with
    | nil => simp at room
    | cons cell tail =>
      -- The first write extends the written part by one cell.
      have inside : i < (written ++ cell :: tail).length := by
        simp only [List.length_append, List.length_cons]
        omega
      have placed : (written ++ cell :: tail).set i (some c) = (written ++ [some c]) ++ tail := by
        subst here
        simp
      rw [Buffer.writes, Buffer.write, if_pos inside, Option.bind_some, placed,
        ih (written ++ [some c]) tail (i + 1) (by simp [here]) (by simpa using room)]
      simp

theorem Buffer.cString_eq (cs : List UInt8) (tail : Buffer) (nonzero : ∀ c ∈ cs, c ≠ 0) :
    Buffer.cString (cs.map some ++ some 0 :: tail) = some cs := by
  induction cs with
  | nil => rfl
  | cons c cs ih =>
    have rest := ih fun d member => nonzero d (List.mem_cons_of_mem c member)
    simp [Buffer.cString, nonzero c (by simp), rest]

theorem fullBlocks_eq (front rest : List UInt8) (written tail : Buffer) (i count : Nat)
    (at_ : front.length = 3 * i) (here : written.length = 4 * i)
    (enough : 3 * count ≤ rest.length) (room : 4 * count ≤ tail.length) :
    fullBlocks (front ++ rest) i count (written ++ tail) =
      some (written ++ (encoding (rest.take (3 * count))).map some ++ tail.drop (4 * count)) := by
  -- One block a round: what has been read and what has been written move along.
  induction count generalizing front rest written tail i with
  | zero => simp [fullBlocks, encoding]
  | succ count ih =>
    -- With a block to go there are three more bytes.
    match rest, enough with
    | a :: b :: c :: rest, enough =>
      have taken : (a :: b :: c :: rest).take (3 * (count + 1)) =
          a :: b :: c :: rest.take (3 * count) := by
        rw [show 3 * (count + 1) = 3 * count + 3 by omega]
        rfl
      have first : (front ++ a :: b :: c :: rest).getD (3 * i) 0 = a := by simp [← at_]
      have second : (front ++ a :: b :: c :: rest).getD (3 * i + 1) 0 = b := by
        simp [← at_, List.getD_eq_getElem?_getD]
      have third : (front ++ a :: b :: c :: rest).getD (3 * i + 2) 0 = c := by
        simp [← at_, List.getD_eq_getElem?_getD]
      have size : (wordChars (word a b c)).length = 4 := rfl
      have block := Buffer.writes_eq (wordChars (word a b c)) written tail (4 * i) here
        (by rw [size]; omega)
      simp only [fullBlocks, first, second, third, block, Option.bind_eq_bind, Option.bind_some]
      have next := ih (front ++ [a, b, c]) rest (written ++ (wordChars (word a b c)).map some)
        (tail.drop 4) (i + 1) (by simp [at_]; omega) (by simp [here, size]; omega)
        (by simp at enough; omega) (by simp; omega)
      rw [size, show front ++ a :: b :: c :: rest = (front ++ [a, b, c]) ++ rest by simp, next,
        taken]
      simp [encoding, List.drop_drop, show 4 + 4 * count = 4 * (count + 1) by omega]
    | [], enough => simp at enough
    | [_], enough => simp at enough; omega
    | [_, _], enough => simp at enough; omega

/-- A partial block, its terminator, and then the padding over the terminator. -/
theorem writes_padding (chars pads : List UInt8) (written tail : Buffer) (i : Nat)
    (here : written.length = i) (room : chars.length + pads.length + 1 ≤ tail.length)
    (padded : 0 < pads.length) :
    ((Buffer.writes (written ++ tail) i (chars ++ [0])).bind fun out =>
        Buffer.writes out (i + chars.length) (pads ++ [0])) =
      some (written ++ (chars ++ pads).map some ++ some 0 ::
        tail.drop (chars.length + pads.length + 1)) := by
  rw [Buffer.writes_eq (chars ++ [0]) written tail i here (by simp; omega), Option.bind_some]
  -- The padding starts on the cell of the terminator.
  have split : written ++ (chars ++ [0]).map some ++ tail.drop (chars ++ [0]).length =
      (written ++ chars.map some) ++ (some 0 :: tail.drop (chars.length + 1)) := by simp
  rw [split, Buffer.writes_eq (pads ++ [0]) _ _ _ (by simp [here]) (by simp; omega)]
  simp [List.drop_drop, show chars.length + 1 + pads.length = chars.length + pads.length + 1 by omega]

/-- `encode` returns the encoding for every input: it neither throws nor leaves its buffer. -/
theorem encode_eq (input : List UInt8) : encode input = some (encoding input) := by
  by_cases empty : input.length = 0
  · rw [List.length_eq_zero_iff] at empty
    subst empty
    decide
  · -- The input is its whole blocks and at most two more bytes.
    obtain ⟨front, last, rfl, whole, short⟩ : ∃ front last, input = front ++ last ∧
        front.length % 3 = 0 ∧ last.length < 3 :=
      ⟨input.take (3 * (input.length / 3)), input.drop (3 * (input.length / 3)),
        (List.take_append_drop _ _).symm, by simp; omega, by simp; omega⟩
    obtain ⟨blocks, size⟩ : ∃ blocks, front.length = 3 * blocks := ⟨front.length / 3, by omega⟩
    have bound : (encoding front).length = 4 * blocks := by rw [encoding_length, size]; omega
    have total : (front ++ last).length = 3 * blocks + last.length := by simp [size]
    -- The loop over the blocks, from an empty buffer on.
    have full (maxLen : Nat) (room : 4 * blocks ≤ maxLen) :
        fullBlocks (front ++ last) 0 blocks (Buffer.alloc maxLen) =
          some ((encoding front).map some ++ (Buffer.alloc (maxLen - 4 * blocks))) := by
      have loop := fullBlocks_eq [] (front ++ last) [] (Buffer.alloc maxLen) 0 blocks rfl rfl
        (by omega) (by simpa [Buffer.alloc] using room)
      simpa [Buffer.alloc, ← size] using loop
    have nonzero := encoding_ne_zero (front ++ last)
    rw [encoding_append front last whole] at nonzero ⊢
    have quotient : (3 * blocks + last.length) / 3 = blocks := by omega
    have remainder : (3 * blocks + last.length) % 3 = last.length := by omega
    -- No partial block, one of one byte, and one of two bytes.
    match last, short with
    | [], _ =>
      simp only [List.length_nil, Nat.add_zero] at total quotient remainder
      have positive : ¬ 3 * blocks = 0 := by omega
      have stop := Buffer.writes_eq [0] ((encoding front).map some)
        (Buffer.alloc (4 * (3 * blocks) + 1 - 4 * blocks)) (4 * blocks) (by simpa using bound)
        (by simp [Buffer.alloc]; omega)
      have noPad : (4 * blocks + 0) % 4 = 0 := by omega
      have fits : ¬ 4 * (3 * blocks) + 1 < 4 * blocks + 0 + 1 := by omega
      simp only [Buffer.writes, Option.bind_fun_some] at stop
      simp only [encode, binToB64, binToB64Nopad, total, quotient, remainder, if_neg positive,
        if_neg fits, full _ (show 4 * blocks ≤ 4 * (3 * blocks) + 1 by omega),
        Option.bind_eq_bind, Option.bind_some, stop, noPad]
      simpa [encoding] using Buffer.cString_eq _ _ nonzero
    | [a], _ =>
      simp only [List.length_singleton] at total quotient remainder
      have positive : ¬ 3 * blocks + 1 = 0 := by omega
      have fits : ¬ 4 * (3 * blocks + 1) + 1 < 4 * blocks + 2 + 1 := by omega
      have pads : (4 * blocks + 2) % 4 = 2 := by omega
      have room : 4 * (3 * blocks + 1) + 1 ≥ 4 * blocks + 2 + 2 + 1 := by omega
      have byte : (front ++ [a]).getD (3 * blocks) 0 = a := by simp [← size]
      have stop := writes_padding ((wordChars (word a 0 0)).take 2) [codePad, codePad]
        ((encoding front).map some) (Buffer.alloc (4 * (3 * blocks + 1) + 1 - 4 * blocks))
        (4 * blocks) (by simpa using bound) (by simp [Buffer.alloc, wordChars]; omega) (by simp)
      obtain ⟨out, wrote, padded⟩ := Option.bind_eq_some_iff.mp stop
      simp only [encode, binToB64, binToB64Nopad, total, quotient, remainder, if_neg positive,
        if_neg fits, full _ (show 4 * blocks ≤ 4 * (3 * blocks + 1) + 1 by omega),
        Option.bind_eq_bind, Option.bind_some, byte, wrote, pads, if_pos room]
      rw [show out.writes (4 * blocks + 2) [codePad, codePad, 0] = _ from padded]
      simpa [encoding] using Buffer.cString_eq _ _ nonzero
    | [a, b], _ =>
      simp only [List.length_cons, List.length_nil, Nat.zero_add, Nat.reduceAdd] at total quotient remainder
      have positive : ¬ 3 * blocks + 2 = 0 := by omega
      have fits : ¬ 4 * (3 * blocks + 2) + 1 < 4 * blocks + 3 + 1 := by omega
      have pads : (4 * blocks + 3) % 4 = 3 := by omega
      have room : 4 * (3 * blocks + 2) + 1 ≥ 4 * blocks + 3 + 1 + 1 := by omega
      have first : (front ++ [a, b]).getD (3 * blocks) 0 = a := by simp [← size]
      have second : (front ++ [a, b]).getD (3 * blocks + 1) 0 = b := by
        simp [← size, List.getD_eq_getElem?_getD]
      have stop := writes_padding ((wordChars (word a b 0)).take 3) [codePad]
        ((encoding front).map some) (Buffer.alloc (4 * (3 * blocks + 2) + 1 - 4 * blocks))
        (4 * blocks) (by simpa using bound) (by simp [Buffer.alloc, wordChars]; omega) (by simp)
      obtain ⟨out, wrote, padded⟩ := Option.bind_eq_some_iff.mp stop
      simp only [encode, binToB64, binToB64Nopad, total, quotient, remainder, if_neg positive,
        if_neg fits, full _ (show 4 * blocks ≤ 4 * (3 * blocks + 2) + 1 by omega),
        Option.bind_eq_bind, Option.bind_some, first, second, wrote, pads, if_pos room]
      rw [show out.writes (4 * blocks + 3) [codePad, 0] = _ from padded]
      simpa [encoding] using Buffer.cString_eq _ _ nonzero

end LorawanFeeds.Bridge.Base64
