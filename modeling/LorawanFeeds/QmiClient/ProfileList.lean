import LorawanFeeds.QmiClient.Tlv

/-!
# Tables filled from an answer

The list of profiles in `requestGetProfile`, and the decoders of `requestGetICCID` and
`requestGetIMSI`, behind the check of the response. How much is written into the tables of the client
is said by the modem. The list of profiles is walked with a cursor of 8 bits.
-/
namespace LorawanFeeds.QmiClient.ProfileList

open Lib Memory

/-! ### The list of profiles -/

/-- Where the cursor goes from the index of a profile: past the length of its name, its name, and the
type of the next profile. -/
def nextCursor (list : Memory) (k : UInt8) : UInt8 :=
  if list (k + 1).toNat = 0 then k + 1 + 2 else k + 1 + (2 + list (k + 1).toNat)

/-- The loop that fills `profile_indexs`. -/
def walkProfiles (list : Memory) : Nat → UInt8 → List UInt8
  | 0, _ => []
  | n + 1, k => list k.toNat :: walkProfiles list n (nextCursor list k)

/-- What is written into `profile_indexs`, as many entries as the first byte of the list says. -/
def profileIndexs (list : Memory) : List UInt8 := walkProfiles list (list 0).toNat 2

/-- And from a response, if it is not rejected. -/
def profileEntries (m : Memory) : List UInt8 :=
  if qmiRspCheck m then (getTLV m 0x01).elim [] fun p => profileIndexs (m.tail (p + 3)) else []

/-- A profile in the list. -/
structure Listed where
  type : UInt8
  index : UInt8
  name : List UInt8
  short : name.length < 256

def Listed.bytes (p : Listed) : List UInt8 := p.type :: p.index :: p.name.length.toUInt8 :: p.name

def encodeList (ps : List Listed) : List UInt8 := ps.length.toUInt8 :: ps.flatMap Listed.bytes

/-- How many bytes precede the last index, counted from the first one. -/
def beforeLast (lengths : List Nat) : Nat := (lengths.dropLast.map (3 + ·)).sum

theorem walkProfiles_length (list : Memory) (n : Nat) (k : UInt8) :
    (walkProfiles list n k).length = n := by
  induction n generalizing k with
  | zero => rfl
  | succ n ih => rw [walkProfiles, List.length_cons, ih]

/-- Only the bytes that a cursor of 8 bits can point to are read. -/
theorem walkProfiles_congr {list list' : Memory} (same : ∀ k < 256, list k = list' k) (n : Nat)
    (k : UInt8) : walkProfiles list n k = walkProfiles list' n k := by
  induction n generalizing k with
  | zero => rfl
  | succ n ih =>
    have step : nextCursor list k = nextCursor list' k := by
      rw [nextCursor, nextCursor, same _ (k + 1).toNat_lt]
    rw [walkProfiles, walkProfiles, same _ k.toNat_lt, step, ih]

theorem beforeLast_cons_cons (l next : Nat) (rest : List Nat) :
    beforeLast (l :: next :: rest) = 3 + l + beforeLast (next :: rest) := rfl

/-- As long as the cursor has not come round, it stands at the index of a profile. -/
theorem walkProfiles_listed {list : Memory} (ps : List Listed) {q : Nat} {k : UInt8}
    (cursor : k.toNat = q + 1) (holds : list.Holds q (ps.flatMap Listed.bytes))
    (low : k.toNat + beforeLast (ps.map fun p => p.name.length) < 256) :
    walkProfiles list ps.length k = ps.map Listed.index := by
  induction ps generalizing q k with
  | nil => rfl
  | cons p rest ih =>
    rw [List.flatMap_cons, holds_append] at holds
    obtain ⟨here, behind⟩ := holds
    have index : list k.toNat = p.index := by
      rw [cursor]
      exact here 1 (by simp [Listed.bytes])
    rw [List.length_cons, walkProfiles, index, List.map_cons]
    congr 1
    cases rest with
    | nil => rfl
    | cons next rest =>
      simp only [List.map_cons, beforeLast_cons_cons] at low
      have one : (k + 1).toNat = q + 2 := by
        rw [UInt8.toNat_add, cursor, show (1 : UInt8).toNat = 1 from rfl]
        omega
      have length : list (k + 1).toNat = p.name.length.toUInt8 := by
        rw [one]
        exact here 2 (by simp [Listed.bytes])
      have value : p.name.length.toUInt8.toNat = p.name.length :=
        UInt8.toNat_ofNat_of_lt' p.short
      have size : p.bytes.length = 3 + p.name.length := by
        simp only [Listed.bytes, List.length_cons]
        omega
      have step : (nextCursor list k).toNat = q + p.bytes.length + 1 := by
        have two : (2 : UInt8).toNat = 2 := rfl
        rw [nextCursor, length, size]
        split
        next none =>
          rw [none] at value
          rw [UInt8.toNat_add, one, two, ← value, UInt8.toNat_zero]
          omega
        next =>
          rw [UInt8.toNat_add (k + 1), UInt8.toNat_add 2, one, two, value]
          omega
      apply ih step behind
      rw [step, size]
      simp only [List.map_cons]
      omega

theorem profileEntries_of_check {m : Memory} {p : Nat} (checked : qmiRspCheck m = true)
    (found : getTLV m 0x01 = some p) : profileEntries m = profileIndexs (m.tail (p + 3)) := by
  rw [profileEntries, if_pos checked, found]
  rfl

/-- The walk over a response with these profiles finds their indexes. -/
theorem profileEntries_listed {m : Memory} {p : Nat} {ps : List Listed}
    (checked : qmiRspCheck m = true) (found : getTLV m 0x01 = some p)
    (holds : (m.tail (p + 3)).Holds 0 (encodeList ps)) (few : ps.length < 256)
    (low : 2 + beforeLast (ps.map fun p => p.name.length) < 256) :
    profileEntries m = ps.map Listed.index := by
  have number : m.tail (p + 3) 0 = ps.length.toUInt8 := holds 0 (by simp [encodeList])
  have count : (m.tail (p + 3) 0).toNat = ps.length := by
    rw [number]
    exact UInt8.toNat_ofNat_of_lt' few
  rw [profileEntries_of_check checked found, profileIndexs, count]
  exact walkProfiles_listed ps rfl ((@holds_append _ 0 [_] _).mp holds).2 low

/-- A profile whose name has this length. -/
def blankProfile (index length : UInt8) : Listed :=
  ⟨0, index, List.replicate length.toNat 0, by simpa using length.toNat_lt⟩

/-- Profiles with names of these lengths, the last one with this index. -/
def blankProfiles (front : List UInt8) (last index : UInt8) : List Listed :=
  front.map (blankProfile 0) ++ [blankProfile index last]

theorem beforeLast_blankProfiles (front : List UInt8) (last index : UInt8) :
    beforeLast ((blankProfiles front last index).map fun p => p.name.length) =
      ((front.map (blankProfile 0)).flatMap Listed.bytes).length := by
  have each (l : UInt8) : (blankProfile 0 l).bytes.length = 3 + l.toNat := by
    simp [blankProfile, Listed.bytes]
    omega
  rw [beforeLast, blankProfiles, List.map_append, List.map_singleton, List.dropLast_concat,
    List.length_flatMap, List.map_map, List.map_map, List.map_map]
  congr 1
  apply List.map_congr_left
  intro l _
  show 3 + (List.replicate l.toNat 0).length = (blankProfile 0 l).bytes.length
  rw [each, List.length_replicate]

/-- The bytes of these profiles, up to the last index. -/
def blankFront (front : List UInt8) : List UInt8 :=
  (front.length + 1).toUInt8 :: ((front.map (blankProfile 0)).flatMap Listed.bytes ++ [0])

theorem encodeList_blankProfiles (front : List UInt8) (last index : UInt8) :
    ∃ rest, encodeList (blankProfiles front last index) = blankFront front ++ index :: rest := by
  refine ⟨(blankProfile index last).bytes.drop 2, ?_⟩
  simp [encodeList, blankProfiles, blankFront, Listed.bytes, blankProfile]

/-- A last index that the cursor cannot point to makes no difference. -/
theorem profileIndexs_blind {front : List UInt8} {last : UInt8} {list list' : Memory}
    (high : 256 ≤ (blankFront front).length)
    (holds : list.Holds 0 (encodeList (blankProfiles front last 0)))
    (holds' : list'.Holds 0 (encodeList (blankProfiles front last 1))) :
    profileIndexs list = profileIndexs list' := by
  obtain ⟨rest, bytes⟩ := encodeList_blankProfiles front last 0
  obtain ⟨rest', bytes'⟩ := encodeList_blankProfiles front last 1
  rw [bytes, holds_append] at holds
  rw [bytes', holds_append] at holds'
  have same : ∀ k < 256, list k = list' k := by
    intro k low
    have first := holds.1 k (by omega)
    have second := holds'.1 k (by omega)
    rw [Nat.zero_add] at first second
    rw [first, second]
  rw [profileIndexs, profileIndexs, same 0 (by decide), walkProfiles_congr same]

/-- Every list of profiles with names of these lengths yields the indexes, in a response that is not
rejected. -/
def YieldsIndexes (lengths : List UInt8) : Prop :=
  ∀ (m : Memory) (p : Nat) (ps : List Listed), qmiRspCheck m = true → getTLV m 0x01 = some p →
    (ps.map fun p => p.name.length) = lengths.map UInt8.toNat →
    (m.tail (p + 3)).Holds 0 (encodeList ps) → profileEntries m = ps.map Listed.index

theorem encodeList_length_le (ps : List Listed) : (encodeList ps).length ≤ 1 + ps.length * 258 := by
  have bytes : (ps.flatMap Listed.bytes).length ≤ ps.length * 258 := by
    induction ps with
    | nil => exact Nat.le_refl 0
    | cons p rest ih =>
      have short := p.short
      rw [List.flatMap_cons, List.length_append, List.length_cons]
      simp only [Listed.bytes, List.length_cons]
      omega
  rw [encodeList, List.length_cons]
  omega

/-- A response with one record behind the result. -/
theorem found_single {type : UInt8} (other : type ≠ 0x02) (value : List UInt8)
    (fits : value.length + 10 < 2 ^ 16) :
    ∃ m p, qmiRspCheck m = true ∧ getTLV m type.toNat = some p ∧ m.Holds (p + 3) value := by
  let t : Tlv := ⟨type, value, by omega⟩
  have size : (Tlv.encodeAll [success, t]).length < 2 ^ 16 := by
    rw [Tlv.length_encodeAll]
    show 3 + 4 + (3 + value.length + 0) < 2 ^ 16
    omega
  have carries := carries_messageOf size
  have first : [success, t].find? (·.type = type) = some t := by
    have next : ¬ success.type = type := other.symm
    simp [next, t]
  obtain ⟨p, found, holds⟩ := carries.getTLV_some first
  exact ⟨messageOf [success, t], p, carries.check_of_success, found, Tlv.holds_value holds⟩

/-- A response with a list of profiles. -/
theorem listed_response (ps : List Listed) (few : ps.length ≤ 250) :
    ∃ m p, qmiRspCheck m = true ∧ getTLV m 0x01 = some p ∧
      (m.tail (p + 3)).Holds 0 (encodeList ps) := by
  have bound := encodeList_length_le ps
  obtain ⟨m, p, checked, found, holds⟩ :=
    @found_single 0x01 (by decide) (encodeList ps) (by omega)
  exact ⟨m, p, checked, found, holds_tail.mpr holds⟩

/-- The indexes come out as long as the last of them is among the first 256 bytes. -/
theorem yieldsIndexes_iff {lengths : List UInt8} (few : lengths.length ≤ 42) :
    YieldsIndexes lengths ↔ 2 + beforeLast (lengths.map UInt8.toNat) < 256 := by
  constructor
  · intro yields
    by_contra high
    rcases List.eq_nil_or_concat lengths with rfl | ⟨front, last, eq⟩
    · exact high (by decide)
    · rw [List.concat_eq_append] at eq
      subst eq
      have names (index : UInt8) : ((blankProfiles front last index).map fun p => p.name.length) =
          (front ++ [last]).map UInt8.toNat := by
        simp [blankProfiles, blankProfile, Function.comp_def]
      have number (index : UInt8) : (blankProfiles front last index).length ≤ 250 := by
        simp [blankProfiles] at few ⊢
        omega
      obtain ⟨m, p, checked, found, holds⟩ :=
        listed_response (blankProfiles front last 0) (number 0)
      obtain ⟨m', p', checked', found', holds'⟩ :=
        listed_response (blankProfiles front last 1) (number 1)
      have first := yields m p _ checked found (names 0) holds
      have second := yields m' p' _ checked' found' (names 1) holds'
      have blind : profileEntries m = profileEntries m' := by
        rw [profileEntries_of_check checked found, profileEntries_of_check checked' found']
        refine profileIndexs_blind ?_ holds holds'
        rw [← names 0, beforeLast_blankProfiles] at high
        simp only [blankFront, List.length_cons, List.length_append, List.length_nil]
        omega
      rw [first, second] at blind
      simp [blankProfiles, blankProfile] at blind
  · intro low m p ps checked found names holds
    have size : ps.length = lengths.length := by
      have same := congrArg List.length names
      simpa using same
    exact profileEntries_listed checked found holds (by omega) (by rwa [names])

/-! ### The identifiers of the card -/

/-- The digits of `charmaps`. -/
def charmap (digit : UInt8) : UInt8 := if digit < 10 then 48 + digit else 55 + digit

/-- What `requestGetICCID` writes into `DeviceICCID`, from the content of a record. -/
def deviceICCID (contentLen : UInt16) (content : Memory) : List UInt8 :=
  (List.range contentLen.toNat).flatMap (fun i =>
    [charmap (content i &&& 0x0F), charmap ((content i &&& 0xF0) >>> 4)]) ++ [0]

/-- What `requestGetIMSI` writes into `DeviceIMSI`. The first byte of the content is its length, and
the first digit is not written. -/
def deviceIMSI (content : Memory) : List UInt8 :=
  (List.range (content 0).toNat).flatMap (fun i =>
    (if i ≠ 0 then [(content (i + 1) &&& 0x0F) + 48] else []) ++
      [((content (i + 1) &&& 0xF0) >>> 4) + 48]) ++ [0]

/-- And from a response, if it is not rejected. -/
def iccidWrites (m : Memory) : List UInt8 :=
  if qmiRspCheck m then
    (getTLV m 0x11).elim [] fun p => deviceICCID (m.le16 (p + 3)) (m.tail (p + 5))
  else []

def imsiWrites (m : Memory) : List UInt8 :=
  if qmiRspCheck m then (getTLV m 0x11).elim [] fun p => deviceIMSI (m.tail (p + 5)) else []

theorem deviceICCID_length (contentLen : UInt16) (content : Memory) :
    (deviceICCID contentLen content).length = 2 * contentLen.toNat + 1 := by
  rw [deviceICCID, List.length_append, List.length_flatMap]
  simp only [List.length_cons, List.length_nil, List.map_const', List.length_range, List.sum_replicate_nat]
  omega

theorem deviceIMSI_length (content : Memory) :
    (deviceIMSI content).length = if content 0 = 0 then 1 else 2 * (content 0).toNat := by
  have digits (n : Nat) : ((List.range n).flatMap fun i =>
      (if i ≠ 0 then [(content (i + 1) &&& 0x0F) + 48] else []) ++
        [((content (i + 1) &&& 0xF0) >>> 4) + 48]).length = 2 * n - 1 := by
    induction n with
    | zero => rfl
    | succ n ih =>
      rw [List.range_succ, List.flatMap_append, List.length_append, ih]
      by_cases first : n = 0
      · simp [first]
      · simp [first]
        omega
  rw [deviceIMSI, List.length_append, digits]
  by_cases none : content 0 = 0
  · simp [none]
  · have some : (content 0).toNat ≠ 0 := fun zero => none (UInt8.toNat_inj.mp zero)
    rw [if_neg none, List.length_singleton]
    omega

/-- The tables of the client are not overrun, and the indexes are found, exactly if the modem keeps to
these numbers in the responses that are not rejected. -/
theorem tables_kept_iff (m : Memory) (lengths : List UInt8) (few : lengths.length ≤ 42) :
    ((profileEntries m).length ≤ 42 ↔ (qmiRspCheck m = true →
      ∀ p, getTLV m 0x01 = some p → (m (p + 3)).toNat ≤ 42)) ∧
    (YieldsIndexes lengths ↔ 2 + beforeLast (lengths.map UInt8.toNat) < 256) ∧
    ((iccidWrites m).length ≤ 32 ↔ (qmiRspCheck m = true →
      ∀ p, getTLV m 0x11 = some p → (m.le16 (p + 3)).toNat ≤ 15)) ∧
    ((imsiWrites m).length ≤ 32 ↔ (qmiRspCheck m = true →
      ∀ p, getTLV m 0x11 = some p → (m (p + 5)).toNat ≤ 16)) := by
  rw [profileEntries, iccidWrites, imsiWrites]
  cases checked : qmiRspCheck m with
  | false => simp [yieldsIndexes_iff few]
  | true =>
    simp only [if_true, forall_const]
    refine ⟨?_, yieldsIndexes_iff few, ?_, ?_⟩
    · cases found : getTLV m 0x01 with
      | none => simp
      | some p =>
        rw [Option.elim_some, profileIndexs, walkProfiles_length]
        simp [tail]
    · cases found : getTLV m 0x11 with
      | none => simp
      | some p =>
        rw [Option.elim_some, deviceICCID_length]
        simp only [Option.some_inj, forall_eq']
        omega
    · cases found : getTLV m 0x11 with
      | none => simp
      | some p =>
        rw [Option.elim_some, deviceIMSI_length]
        simp only [Option.some_inj, forall_eq', tail, Nat.add_zero]
        by_cases none : m (p + 5) = 0
        · simp [none]
        · simp only [none, if_false]
          omega

/-- The indexes of two profiles with names of five and seven characters. -/
theorem short_names_yield : YieldsIndexes [5, 7] :=
  (tables_kept_iff (ofList []) [5, 7] (by decide)).2.1.mpr (by decide)

/-- Successful responses with a list of 43 profiles, a list of 20 profiles with names of 14 characters,
and identifiers of 16 and 17 bytes. -/
theorem tables_overrun :
    (∃ m p, qmiRspCheck m = true ∧ getTLV m 0x01 = some p ∧
      (m.tail (p + 3)).Holds 0 (encodeList (List.replicate 43 (blankProfile 1 0))) ∧
      ¬ (profileEntries m).length ≤ 42) ∧
    ¬ YieldsIndexes (List.replicate 20 14) ∧
    (∃ m p, qmiRspCheck m = true ∧ getTLV m 0x11 = some p ∧
      m.Holds (p + 3) (bytes16 16 ++ List.replicate 16 0x98) ∧ ¬ (iccidWrites m).length ≤ 32) ∧
    ∃ m p, qmiRspCheck m = true ∧ getTLV m 0x11 = some p ∧
      m.Holds (p + 3) (bytes16 18 ++ 17 :: List.replicate 17 0x49) ∧
      ¬ (imsiWrites m).length ≤ 32 := by
  refine ⟨?_, ?_, ?_, ?_⟩
  · obtain ⟨m, p, checked, found, holds⟩ :=
      listed_response (List.replicate 43 (blankProfile 1 0)) (by simp)
    refine ⟨m, p, checked, found, holds, ?_⟩
    have number : m.tail (p + 3) 0 = 43 := holds 0 (by simp [encodeList])
    rw [profileEntries_of_check checked found, profileIndexs, walkProfiles_length, number]
    decide
  · rw [yieldsIndexes_iff (by decide)]
    decide
  · obtain ⟨m, p, checked, found, holds⟩ :=
      @found_single 0x11 (by decide) (bytes16 16 ++ List.replicate 16 0x98) (by decide)
    refine ⟨m, p, checked, found, holds, ?_⟩
    have length : m.le16 (p + 3) = 16 := (holds_append.mp holds).1.le16_eq
    have card : getTLV m 0x11 = some p := found
    rw [iccidWrites, if_pos checked, card, Option.elim_some, deviceICCID_length, length]
    decide
  · obtain ⟨m, p, checked, found, holds⟩ :=
      @found_single 0x11 (by decide) (bytes16 18 ++ 17 :: List.replicate 17 0x49) (by decide)
    refine ⟨m, p, checked, found, holds, ?_⟩
    have first : m.tail (p + 5) 0 = 17 := (holds_append.mp holds).2 0 (by simp)
    have card : getTLV m 0x11 = some p := found
    rw [imsiWrites, if_pos checked, card, Option.elim_some, deviceIMSI_length, first]
    decide

end LorawanFeeds.QmiClient.ProfileList
