import Mathlib.Algebra.Group.Nat.Defs
import Mathlib.Data.List.GetD
import LorawanFeeds.Bridge.Base64

/-!
# Base64, decoded

`b64_to_bin_nopad` and `b64_to_bin`. A character that is not of the alphabet ends the program, so the
model has no result there, as for a write outside the buffer. What `encode` returns is decoded
block by block, and in each block the four codes put its word together again.
-/
namespace LorawanFeeds.Bridge.Base64

/-- `char_to_code`; its last branch exits the program. -/
def charToCode (x : UInt8) : Option Nat :=
  if 'A'.toUInt8 ≤ x ∧ x ≤ 'Z'.toUInt8 then some (x - 'A'.toUInt8).toNat
  else if 'a'.toUInt8 ≤ x ∧ x ≤ 'z'.toUInt8 then some (x - 'a'.toUInt8 + 26).toNat
  else if '0'.toUInt8 ≤ x ∧ x ≤ '9'.toUInt8 then some (x - '0'.toUInt8 + 52).toNat
  else if x = code62 then some 62
  else if x = code63 then some 63
  else none

/-- The word of some characters from an index on: the first one gives the highest bits. -/
def codeWord (input : List UInt8) (i : Nat) : List Nat → Option Nat
  | [] => some 0
  | shift :: shifts => do
    let code ← charToCode (input.getD i 0)
    let word ← codeWord input (i + 1) shifts
    some ((0x3F &&& code) <<< shift ||| word)

/-- The three bytes of a word, of which a partial block writes the first one or two. -/
def wordBytes (b : Nat) : List UInt8 :=
  [(b >>> 16 &&& 0xFF).toUInt8, (b >>> 8 &&& 0xFF).toUInt8, (b &&& 0xFF).toUInt8]

/-- The loop over the full blocks, from block `i` on with `count` blocks to go. -/
def decodeBlocks (input : List UInt8) : Nat → Nat → Buffer → Option Buffer
  | _, 0, out => some out
  | i, count + 1, out => do
    let b ← codeWord input (4 * i) [18, 12, 6, 0]
    let out ← out.writes (3 * i) (wordBytes b)
    decodeBlocks input (i + 1) count out

/-- `b64_to_bin_nopad`: the buffer, and the number of bytes. -/
def b64ToBinNopad (input : List UInt8) (size : Nat) (out : Buffer) (maxLen : Nat) :
    Option (Buffer × Nat) :=
  if size = 0 then some (out, 0)
  else do
    let blocks := size / 4
    -- One character alone is an error.
    let lastBytes ← match size % 4 with
      | 0 => some 0
      | 1 => none
      | 2 => some 1
      | _ => some 2
    let resultLen := 3 * blocks + lastBytes
    if maxLen < resultLen then none
    else do
      let out ← decodeBlocks input 0 blocks out
      let out ← match lastBytes with
        | 1 => (codeWord input (4 * blocks) [18, 12]).bind fun b =>
          out.writes (3 * blocks) ((wordBytes b).take 1)
        | 2 => (codeWord input (4 * blocks) [18, 12, 6]).bind fun b =>
          out.writes (3 * blocks) ((wordBytes b).take 2)
        | _ => some out
      some (out, resultLen)

/-- `b64_to_bin`: the padding is left off. -/
def b64ToBin (input : List UInt8) (size : Nat) (out : Buffer) (maxLen : Nat) :
    Option (Buffer × Nat) :=
  if size % 4 = 0 ∧ 4 ≤ size then
    if input.getD (size - 2) 0 = codePad then b64ToBinNopad input (size - 2) out maxLen
    else if input.getD (size - 1) 0 = codePad then b64ToBinNopad input (size - 1) out maxLen
    else b64ToBinNopad input size out maxLen
  else b64ToBinNopad input size out maxLen

/-- `string(out, ret)`: the first bytes of the buffer, all of which have to be written. -/
def Buffer.bytes (out : Buffer) (count : Nat) : Option (List UInt8) := (out.take count).mapM id

/-- `Base64::decode`; no result where the source throws, exits or leaves its buffer. -/
def decode (input : List UInt8) : Option (List UInt8) := do
  let (out, ret) ← b64ToBin input input.length (Buffer.alloc input.length) input.length
  out.bytes ret

example : decode [84, 87, 70, 117, 84, 81, 61, 61] = some [77, 97, 110, 77] := by decide

/-! ### Words -/

theorem charToCode_codeToChar : ∀ v < 64, charToCode (codeToChar v) = some v := by decide

theorem codeToChar_ne_pad : ∀ v < 64, codeToChar v ≠ codePad := by decide

theorem sixBits_eq (b : Nat) : b &&& 0x3F = b % 64 := Nat.and_two_pow_sub_one_eq_mod b 6

theorem eightBits_eq (b : Nat) : b &&& 0xFF = b % 256 := Nat.and_two_pow_sub_one_eq_mod b 8

theorem word_eq (a b c : UInt8) : word a b c = a.toNat * 65536 + b.toNat * 256 + c.toNat := by
  have low := b.toNat_lt
  have last := c.toNat_lt
  rw [word, Nat.or_assoc, ← Nat.shiftLeft_add_eq_or_of_lt (show c.toNat < 2 ^ 8 from last),
    ← Nat.shiftLeft_add_eq_or_of_lt (by rw [Nat.shiftLeft_eq]; omega), Nat.shiftLeft_eq,
    Nat.shiftLeft_eq]
  omega

theorem word_lt (a b c : UInt8) : word a b c < 2 ^ 24 := by
  have first := a.toNat_lt
  have second := b.toNat_lt
  have third := c.toNat_lt
  rw [word_eq]
  omega

/-- The bytes of a word are those that it has been made of. -/
theorem wordBytes_word (a b c : UInt8) : wordBytes (word a b c) = [a, b, c] := by
  have first := a.toNat_lt
  have second := b.toNat_lt
  have third := c.toNat_lt
  have high : (word a b c >>> 16 &&& 0xFF) = a.toNat := by
    rw [eightBits_eq, Nat.shiftRight_eq_div_pow, word_eq]
    omega
  have middle : (word a b c >>> 8 &&& 0xFF) = b.toNat := by
    rw [eightBits_eq, Nat.shiftRight_eq_div_pow, word_eq]
    omega
  have low : (word a b c &&& 0xFF) = c.toNat := by
    rw [eightBits_eq, word_eq]
    omega
  rw [wordBytes, high, middle, low]
  simp [Nat.toUInt8]

/-- The parts of a word with six bits each, put together again. -/
def pieces (b : Nat) : List Nat → Nat
  | [] => 0
  | shift :: shifts => b / 2 ^ shift % 64 * 2 ^ shift + pieces b shifts

/-- No part reaches into the one before it. -/
def Falling (b : Nat) : List Nat → Prop
  | [] => True
  | shift :: shifts => pieces b shifts < 2 ^ shift ∧ Falling b shifts

/-- The codes of the characters, each at its place in the word. -/
theorem codeWord_chars (b : Nat) (shifts : List Nat) (before more : List UInt8)
    (falling : Falling b shifts) :
    codeWord (before ++ (shifts.map fun shift => codeToChar (b >>> shift &&& 0x3F)) ++ more)
      before.length shifts = some (pieces b shifts) := by
  induction shifts generalizing before with
  | nil => rfl
  | cons shift shifts ih =>
    obtain ⟨small, falling⟩ := falling
    have char : (before ++ ((shift :: shifts).map fun shift => codeToChar (b >>> shift &&& 0x3F)) ++
        more).getD before.length 0 = codeToChar (b >>> shift &&& 0x3F) := by
      simp [List.getD_eq_getElem?_getD]
    have rest := ih (before ++ [codeToChar (b >>> shift &&& 0x3F)]) falling
    have code : 0x3F &&& (b >>> shift &&& 0x3F) = b / 2 ^ shift % 64 := by
      rw [Nat.and_comm, sixBits_eq, sixBits_eq, Nat.mod_mod, Nat.shiftRight_eq_div_pow]
    simp only [List.length_append, List.length_singleton, List.append_assoc, List.cons_append,
      List.nil_append] at rest
    rw [codeWord, char, charToCode_codeToChar _ (sixBits_lt _)]
    simp only [List.map_cons, List.append_assoc, List.cons_append, rest, Option.bind_eq_bind,
      Option.bind_some, code, pieces]
    rw [← Nat.shiftLeft_add_eq_or_of_lt small, Nat.shiftLeft_eq]

section

variable {b : Nat} (before more : List UInt8)

/-- The four characters of a word give it back. -/
theorem codeWord_four (small : b < 2 ^ 24) :
    codeWord (before ++ wordChars b ++ more) before.length [18, 12, 6, 0] = some b := by
  have falling : Falling b [18, 12, 6, 0] := by
    simp only [Falling, pieces, and_true]
    omega
  have whole : pieces b [18, 12, 6, 0] = b := by
    simp only [pieces]
    omega
  rw [← congrArg some whole]
  exact codeWord_chars b [18, 12, 6, 0] before more falling

/-- Three are enough for two bytes. -/
theorem codeWord_three (small : b < 2 ^ 24) (even : b % 2 ^ 6 = 0) :
    codeWord (before ++ (wordChars b).take 3 ++ more) before.length [18, 12, 6] = some b := by
  have falling : Falling b [18, 12, 6] := by
    simp only [Falling, pieces, and_true]
    omega
  have whole : pieces b [18, 12, 6] = b := by
    simp only [pieces]
    omega
  rw [← congrArg some whole]
  exact codeWord_chars b [18, 12, 6] before more falling

/-- Two are enough for one byte. -/
theorem codeWord_two (small : b < 2 ^ 24) (even : b % 2 ^ 12 = 0) :
    codeWord (before ++ (wordChars b).take 2 ++ more) before.length [18, 12] = some b := by
  have falling : Falling b [18, 12] := by
    simp only [Falling, pieces, and_true]
    omega
  have whole : pieces b [18, 12] = b := by
    simp only [pieces]
    omega
  rw [← congrArg some whole]
  exact codeWord_chars b [18, 12] before more falling

end

/-! ### The loop -/

theorem decodeBlocks_eq (before more input : List UInt8) (written tail : Buffer) (i count : Nat)
    (at_ : before.length = 4 * i) (here : written.length = 3 * i)
    (size : input.length = 3 * count) (room : 3 * count ≤ tail.length) :
    decodeBlocks (before ++ encoding input ++ more) i count (written ++ tail) =
      some (written ++ input.map some ++ tail.drop (3 * count)) := by
  -- One block a round, as in the encoder: four characters are read, three bytes are written.
  induction count generalizing before input written tail i with
  | zero =>
    obtain rfl := List.length_eq_zero_iff.mp size
    simp [decodeBlocks]
  | succ count ih =>
    match input, size with
    | a :: b :: c :: rest, size =>
      simp only [List.length_cons] at size
      have text : before ++ encoding (a :: b :: c :: rest) ++ more =
          before ++ wordChars (word a b c) ++ (encoding rest ++ more) := by
        simp [encoding]
      have read := codeWord_four before (encoding rest ++ more) (word_lt a b c)
      have block := Buffer.writes_eq [a, b, c] written tail (3 * i) here
        (by simp only [List.length_cons, List.length_nil]; omega)
      have next := ih (before ++ wordChars (word a b c)) rest (written ++ [a, b, c].map some)
        (tail.drop 3) (i + 1) (by simp [at_, wordChars]; omega) (by simp [here]; omega) (by omega)
        (by simp; omega)
      rw [at_] at read
      rw [text, decodeBlocks, read]
      simp only [Option.bind_eq_bind, Option.bind_some, wordBytes_word, block]
      rw [List.append_assoc (before ++ wordChars (word a b c))] at next
      refine next.trans ?_
      simp [List.drop_drop, show 3 + 3 * count = 3 * (count + 1) by omega]
    | [], size => simp at size
    | [_], size => simp at size; omega
    | [_, _], size => simp at size; omega

theorem Buffer.bytes_eq (cs : List UInt8) (tail : Buffer) :
    Buffer.bytes (cs.map some ++ tail) cs.length = some cs := by
  have all : (cs.map some).mapM id = some cs := by
    induction cs with
    | nil => rfl
    | cons c cs ih => simp [ih]
  rw [Buffer.bytes, List.take_left' (by simp), all]

/-! ### The alphabet -/

/-- A character of the Base64 alphabet. -/
def InAlphabet (c : UInt8) : Prop :=
  'A'.toUInt8 ≤ c ∧ c ≤ 'Z'.toUInt8 ∨ 'a'.toUInt8 ≤ c ∧ c ≤ 'z'.toUInt8 ∨
    '0'.toUInt8 ≤ c ∧ c ≤ '9'.toUInt8 ∨ c = '+'.toUInt8 ∨ c = '/'.toUInt8

instance (c : UInt8) : Decidable (InAlphabet c) := inferInstanceAs (Decidable (_ ∨ _))

theorem codeToChar_inAlphabet : ∀ v < 64, InAlphabet (codeToChar v) := by decide

theorem wordChars_inAlphabet (b : Nat) : ∀ c ∈ wordChars b, InAlphabet c := by
  intro c member
  simp only [wordChars, List.mem_cons, List.not_mem_nil, or_false] at member
  rcases member with rfl | rfl | rfl | rfl <;> exact codeToChar_inAlphabet _ (sixBits_lt _)

theorem ne_pad_of_inAlphabet {c : UInt8} (known : InAlphabet c) : c ≠ codePad := by
  rintro rfl
  exact absurd known (by decide)

/-- The characters of the alphabet come first, and then at most two that pad. -/
theorem encoding_chars (input : List UInt8) :
    ∃ chars pads, encoding input = chars ++ List.replicate pads codePad ∧ pads ≤ 2 ∧
      (pads = 0 ↔ input.length % 3 = 0) ∧ ∀ c ∈ chars, InAlphabet c := by
  induction input using encoding.induct with
  | case1 => exact ⟨[], 0, rfl, by omega, by simp, by simp⟩
  | case2 a =>
    refine ⟨(wordChars (word a 0 0)).take 2, 2, rfl, by omega, by simp, fun c member => ?_⟩
    exact wordChars_inAlphabet _ c (List.mem_of_mem_take member)
  | case3 a b =>
    refine ⟨(wordChars (word a b 0)).take 3, 1, rfl, by omega, by simp, fun c member => ?_⟩
    exact wordChars_inAlphabet _ c (List.mem_of_mem_take member)
  | case4 a b c rest ih =>
    obtain ⟨chars, pads, same, few, whole, known⟩ := ih
    refine ⟨wordChars (word a b c) ++ chars, pads, by simp [encoding, same], few, ?_, ?_⟩
    · rw [whole]
      simp only [List.length_cons]
      omega
    · intro d member
      rcases List.mem_append.mp member with first | later
      · exact wordChars_inAlphabet _ d first
      · exact known d later

/-! ### The round trip -/

section

variable {front : List UInt8} {blocks : Nat} (size : front.length = 3 * blocks)

include size

theorem encoding_blocks_length : (encoding front).length = 4 * blocks := by
  rw [encoding_length, size]
  omega

/-- Whole blocks. -/
theorem b64ToBinNopad_whole (maxLen : Nat) (room : 3 * blocks ≤ maxLen) :
    b64ToBinNopad (encoding front) (4 * blocks) (Buffer.alloc maxLen) maxLen =
      some (front.map some ++ Buffer.alloc (maxLen - 3 * blocks), 3 * blocks) := by
  rw [b64ToBinNopad]
  by_cases empty : blocks = 0
  · subst empty
    obtain rfl := List.length_eq_zero_iff.mp size
    simp [Buffer.alloc]
  · have loop := decodeBlocks_eq [] [] front [] (Buffer.alloc maxLen) 0 blocks rfl rfl size
      (by simpa [Buffer.alloc] using room)
    simp only [List.nil_append, List.append_nil, Buffer.alloc, List.drop_replicate] at loop
    have quotient : 4 * blocks / 4 = blocks := by omega
    have remainder : 4 * blocks % 4 = 0 := by omega
    simp only [if_neg (show ¬ 4 * blocks = 0 by omega), remainder, quotient, Nat.add_zero,
      Option.bind_eq_bind, Option.bind_some, if_neg (Nat.not_lt.mpr room), Buffer.alloc, loop]

/-- Whole blocks, and two characters. -/
theorem b64ToBinNopad_one (a : UInt8) (more : List UInt8) (maxLen : Nat)
    (room : 3 * blocks + 1 ≤ maxLen) :
    b64ToBinNopad (encoding front ++ (wordChars (word a 0 0)).take 2 ++ more) (4 * blocks + 2)
        (Buffer.alloc maxLen) maxLen =
      some ((front ++ [a]).map some ++ Buffer.alloc (maxLen - (3 * blocks + 1)), 3 * blocks + 1) := by
  have loop := decodeBlocks_eq [] ((wordChars (word a 0 0)).take 2 ++ more) front []
    (Buffer.alloc maxLen) 0 blocks rfl rfl size (by simp [Buffer.alloc]; omega)
  simp only [List.nil_append, Buffer.alloc, List.drop_replicate, ← List.append_assoc] at loop
  have read := codeWord_two (encoding front) more (word_lt a 0 0) (by rw [word_eq]; simp; omega)
  rw [encoding_blocks_length size] at read
  have wrote := Buffer.writes_eq [a] (front.map some)
    (List.replicate (maxLen - 3 * blocks) none) (3 * blocks) (by simpa using size) (by simp; omega)
  have quotient : (4 * blocks + 2) / 4 = blocks := by omega
  have remainder : (4 * blocks + 2) % 4 = 2 := by omega
  rw [b64ToBinNopad, if_neg (by omega), remainder, quotient]
  simp only [Option.bind_eq_bind, Option.bind_some, if_neg (Nat.not_lt.mpr room), Buffer.alloc, loop,
    read, wordBytes_word, List.take_succ_cons, List.take_zero, wrote]
  simp [show maxLen - 3 * blocks - 1 = maxLen - (3 * blocks + 1) by omega]

/-- Whole blocks, and three characters. -/
theorem b64ToBinNopad_two (a b : UInt8) (more : List UInt8) (maxLen : Nat)
    (room : 3 * blocks + 2 ≤ maxLen) :
    b64ToBinNopad (encoding front ++ (wordChars (word a b 0)).take 3 ++ more) (4 * blocks + 3)
        (Buffer.alloc maxLen) maxLen =
      some ((front ++ [a, b]).map some ++ Buffer.alloc (maxLen - (3 * blocks + 2)),
        3 * blocks + 2) := by
  have loop := decodeBlocks_eq [] ((wordChars (word a b 0)).take 3 ++ more) front []
    (Buffer.alloc maxLen) 0 blocks rfl rfl size (by simp [Buffer.alloc]; omega)
  simp only [List.nil_append, Buffer.alloc, List.drop_replicate, ← List.append_assoc] at loop
  have read := codeWord_three (encoding front) more (word_lt a b 0) (by rw [word_eq]; simp; omega)
  rw [encoding_blocks_length size] at read
  have wrote := Buffer.writes_eq [a, b] (front.map some)
    (List.replicate (maxLen - 3 * blocks) none) (3 * blocks) (by simpa using size) (by simp; omega)
  have quotient : (4 * blocks + 3) / 4 = blocks := by omega
  have remainder : (4 * blocks + 3) % 4 = 3 := by omega
  rw [b64ToBinNopad, if_neg (by omega), remainder, quotient]
  simp only [Option.bind_eq_bind, Option.bind_some, if_neg (Nat.not_lt.mpr room), Buffer.alloc, loop,
    read, wordBytes_word, List.take_succ_cons, List.take_zero, wrote]
  simp [show maxLen - 3 * blocks - 2 = maxLen - (3 * blocks + 2) by omega]

end

/-- No character of whole blocks pads. -/
theorem encoding_ne_pad {front : List UInt8} (whole : front.length % 3 = 0) :
    ∀ c ∈ encoding front, c ≠ codePad := by
  obtain ⟨chars, pads, same, _, none, known⟩ := encoding_chars front
  rw [same, none.mpr whole, List.replicate_zero, List.append_nil]
  exact fun c member => ne_pad_of_inAlphabet (known c member)

/-- What `encode` returns is decoded to its input, inside of the buffer. -/
theorem decode_encoding (input : List UInt8) : decode (encoding input) = some input := by
  -- The input is its whole blocks and at most two more bytes, as in `encode_eq`.
  obtain ⟨front, last, rfl, whole, short⟩ : ∃ front last, input = front ++ last ∧
      front.length % 3 = 0 ∧ last.length < 3 :=
    ⟨input.take (3 * (input.length / 3)), input.drop (3 * (input.length / 3)),
      (List.take_append_drop _ _).symm, by simp; omega, by simp; omega⟩
  obtain ⟨blocks, size⟩ : ∃ blocks, front.length = 3 * blocks := ⟨front.length / 3, by omega⟩
  have chars := encoding_blocks_length size
  have noPad := encoding_ne_pad whole
  rw [decode, encoding_append front last whole]
  match last, short with
  | [], _ =>
    rw [show encoding [] = [] from rfl, List.append_nil, List.append_nil, b64ToBin, chars]
    have place (k : Nat) (some : 4 ≤ 4 * blocks) (small : k < 4) (back : 0 < k) :
        (encoding front).getD (4 * blocks - k) 0 ≠ codePad := by
      have inside : 4 * blocks - k < (encoding front).length := by omega
      rw [List.getD_eq_getElem?_getD, List.getElem?_eq_getElem inside, Option.getD_some]
      exact noPad _ (List.getElem_mem inside)
    have bytes := Buffer.bytes_eq front (Buffer.alloc (4 * blocks - 3 * blocks))
    rw [size] at bytes
    have plain := b64ToBinNopad_whole size (4 * blocks) (by omega)
    split
    next padded =>
      rw [if_neg (place 2 padded.2 (by omega) (by omega)),
        if_neg (place 1 padded.2 (by omega) (by omega)), plain]
      simpa using bytes
    next =>
      rw [plain]
      simpa using bytes
  | [a], _ =>
    have text : encoding front ++ encoding [a] =
        encoding front ++ (wordChars (word a 0 0)).take 2 ++ [codePad, codePad] := by
      simp [encoding]
    have length : (encoding front ++ (wordChars (word a 0 0)).take 2 ++ [codePad, codePad]).length =
        4 * blocks + 2 + 2 := by
      simp [chars, wordChars]
    have pad : (encoding front ++ (wordChars (word a 0 0)).take 2 ++ [codePad, codePad]).getD
        (4 * blocks + 2) 0 = codePad := by
      rw [List.getD_append_right _ _ _ _ (by simp [chars, wordChars])]
      simp [chars, wordChars]
    have bytes := Buffer.bytes_eq (front ++ [a]) (Buffer.alloc (4 * blocks + 2 + 2 - (3 * blocks + 1)))
    rw [List.length_append, size] at bytes
    rw [text, b64ToBin, length, if_pos (by omega), Nat.add_sub_cancel, if_pos pad,
      b64ToBinNopad_one size a _ _ (by omega)]
    simpa using bytes
  | [a, b], _ =>
    have text : encoding front ++ encoding [a, b] =
        encoding front ++ (wordChars (word a b 0)).take 3 ++ [codePad] := by
      simp [encoding]
    have length : (encoding front ++ (wordChars (word a b 0)).take 3 ++ [codePad]).length =
        4 * blocks + 3 + 1 := by
      simp [chars, wordChars]
    have noPad' : (encoding front ++ (wordChars (word a b 0)).take 3 ++ [codePad]).getD
        (4 * blocks + 3 + 1 - 2) 0 ≠ codePad := by
      rw [List.append_assoc, List.getD_append_right _ _ _ _ (by rw [chars]; omega), chars,
        show 4 * blocks + 3 + 1 - 2 - 4 * blocks = 2 by omega]
      exact codeToChar_ne_pad _ (sixBits_lt _)
    have pad : (encoding front ++ (wordChars (word a b 0)).take 3 ++ [codePad]).getD
        (4 * blocks + 3 + 1 - 1) 0 = codePad := by
      rw [List.getD_append_right _ _ _ _ (by simp [chars, wordChars])]
      simp [chars, wordChars]
    have bytes := Buffer.bytes_eq (front ++ [a, b])
      (Buffer.alloc (4 * blocks + 3 + 1 - (3 * blocks + 2)))
    rw [List.length_append, size] at bytes
    rw [text, b64ToBin, length, if_pos (by omega), if_neg noPad', if_pos pad, Nat.add_sub_cancel,
      b64ToBinNopad_two size a b _ _ (by omega)]
    simpa using bytes

/-- What `encode` returns for a byte string is text of the alphabet with its padding at the end, and
`decode` takes it back. The sizes of both buffers are an `int`. -/
theorem decode_encode_inverse (x : List UInt8) (small : x.length < 2 ^ 29) :
    ∃ text, encode x = some text ∧ text.length = 4 * ((x.length + 2) / 3) ∧
      (∃ chars pads, text = chars ++ List.replicate pads codePad ∧ pads ≤ 2 ∧
        ∀ c ∈ chars, InAlphabet c) ∧
      4 * x.length + 1 < 2 ^ 31 ∧ text.length < 2 ^ 31 ∧ decode text = some x := by
  obtain ⟨chars, pads, same, few, _, known⟩ := encoding_chars x
  have length := encoding_length x
  exact ⟨encoding x, encode_eq x, length, ⟨chars, pads, same, few, known⟩, by omega, by omega,
    decode_encoding x⟩

/-- A text with a zero byte in it. -/
theorem decode_encode_zero :
    ([0, 255] : List UInt8).length < 2 ^ 29 ∧ ∃ text, encode [0, 255] = some text ∧
      text.length = 4 ∧ (∃ chars pads, text = chars ++ List.replicate pads codePad ∧ pads ≤ 2 ∧
        ∀ c ∈ chars, InAlphabet c) ∧
      9 < 2 ^ 31 ∧ text.length < 2 ^ 31 ∧ decode text = some [0, 255] :=
  ⟨by decide, decode_encode_inverse [0, 255] (by decide)⟩

end LorawanFeeds.Bridge.Base64
