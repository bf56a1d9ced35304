import LorawanFeeds.Lib.Tlv

/-!
# The records of a QMUX message

`GetTLV` of `QMIThread.c`. A message is the memory from its `QCQMUX_MSG_HDR` on: the type, the length
of the body, and the body. The rest of the length is counted in an unsigned word of 16 bits, from
which the size of each record is taken without a comparison.
-/
namespace LorawanFeeds.QmiClient

open Lib Memory

/-- The `Length` of `QCQMUX_MSG_HDR`. -/
def bodyLength (m : Memory) : UInt16 := m.le16 2

/-- What `qmi_rsp_check_and_return` asks of a response: `QMUXResult` and `QMUXError` are zero. They
are read where they stand if the result comes first, whatever record does. -/
def qmiRspCheck (m : Memory) : Bool := m.le16 7 = 0 ∧ m.le16 9 = 0

/-- The value of the record that says of a response that there was no error. -/
theorem success_fits : ([0, 0, 0, 0] : List UInt8).length < 2 ^ 16 := by decide

def success : Tlv := ⟨0x02, [0, 0, 0, 0], success_fits⟩

/-- The condition of the loop in `GetTLV`: a record by its type, or by its number. -/
def requested (m : Memory) (tlvType : Int) (tlvFind p : Nat) : Bool :=
  if 0x1000 < tlvType then tlvFind + 0x1000 = tlvType else (m p).toNat = tlvType

/-- What the condition reads of a record. -/
def typeReads (tlvType : Int) (p : Nat) : List Nat := if 0x1000 < tlvType then [] else [p]

/-- The loop of `GetTLV`: what it returns, and the bytes it has read. There is no result if it has
not ended by then. -/
def walkTLV (m : Memory) (tlvType : Int) : Nat → Nat → UInt16 → Nat → Option (Option Nat × List Nat)
  | 0, _, _, _ => none
  | fuel + 1, tlvFind, length, p =>
    if length < 3 then some (none, [])
    else if requested m tlvType (tlvFind + 1) p then some (some p, typeReads tlvType p)
    else
      (walkTLV m tlvType fuel (tlvFind + 1) (length - (m.le16 (p + 1) + 3))
        (p + (3 + (m.le16 (p + 1)).toNat))).map fun (found, reads) =>
          (found, typeReads tlvType p ++ [p + 1, p + 2] ++ reads)

/-- `GetTLV`. A body has less than 2 ^ 16 records. -/
def getTLV (m : Memory) (tlvType : Int) : Option Nat :=
  ((walkTLV m tlvType (2 ^ 16) 0 (bodyLength m) 4).map Prod.fst).join

/-! ### The records inside -/

/-- The first of some records that is requested. -/
def firstRequested (m : Memory) (tlvType : Int) : Nat → List Nat → Option Nat
  | _, [] => none
  | tlvFind, p :: ps =>
    if requested m tlvType (tlvFind + 1) p then some p else firstRequested m tlvType (tlvFind + 1) ps

section

variable (m : Memory) (tlvType : Int)

/-- The loop ends, it reads nothing outside of the body, and it returns the first requested record
among those that lie wholly inside. -/
def Inside (tlvFind : Nat) (length : UInt16) (p : Nat) : Prop :=
  ∃ fuel found reads, walkTLV m tlvType fuel tlvFind length p = some (found, reads) ∧
    (∀ k ∈ reads, p ≤ k ∧ k < p + length.toNat) ∧
    found = firstRequested m tlvType tlvFind (Tlv.offsets m length.toNat p)

/-- Behind the records that lie inside, too little is left for another one, or what stands there
is not requested and so long that the counter comes out below three. -/
def Stops (tlvFind q left : Nat) : Prop :=
  left < 3 ∨ requested m tlvType tlvFind q = false ∧ 2 ^ 16 + left < Tlv.lengthAt m q + 6

/-- The requested record is found before the last one ends, or the loop stops there. -/
def Contained (tlvFind : Nat) (length : UInt16) (p : Nat) : Prop :=
  firstRequested m tlvType tlvFind (Tlv.offsets m length.toNat p) ≠ none ∨
    Stops m tlvType (tlvFind + (Tlv.offsets m length.toNat p).length + 1)
      (Tlv.rest m length.toNat p).1 (Tlv.rest m length.toNat p).2

end

section

variable {m : Memory} {tlvType : Int} {tlvFind : Nat} {length : UInt16} {p : Nat}

theorem typeReads_eq {k : Nat} (member : k ∈ typeReads tlvType p) : k = p := by
  rw [typeReads] at member
  split at member
  · cases member
  · exact List.mem_singleton.mp member

/-- The counter, as long as a record lies inside. -/
theorem toNat_next (inside : 3 + Tlv.lengthAt m p ≤ length.toNat) :
    (length - (m.le16 (p + 1) + 3)).toNat = length.toNat - (3 + Tlv.lengthAt m p) := by
  have bound := length.toNat_lt
  rw [Tlv.lengthAt] at inside ⊢
  rw [UInt16.toNat_sub, UInt16.toNat_add, show (3 : UInt16).toNat = 3 from rfl]
  omega

/-- And behind a record that does not. -/
theorem toNat_wrapped (overrun : length.toNat < 3 + Tlv.lengthAt m p) (some : 3 ≤ length.toNat) :
    (length - (m.le16 (p + 1) + 3)).toNat = 2 ^ 16 + length.toNat - (3 + Tlv.lengthAt m p) := by
  have bound := length.toNat_lt
  have fits := Tlv.lengthAt_lt m p
  rw [Tlv.lengthAt] at overrun fits ⊢
  rw [UInt16.toNat_sub, UInt16.toNat_add, show (3 : UInt16).toNat = 3 from rfl]
  omega

theorem three_le (more : ¬ length < 3) : 3 ≤ length.toNat :=
  UInt16.le_iff_toNat_le.mp (UInt16.not_lt.mp more)

/-- A record inside that is not requested is passed over. -/
theorem contained_next (inside : 3 + Tlv.lengthAt m p ≤ length.toNat)
    (other : requested m tlvType (tlvFind + 1) p = false) :
    Contained m tlvType tlvFind length p ↔
      Contained m tlvType (tlvFind + 1) (length - (m.le16 (p + 1) + 3))
        (p + (3 + Tlv.lengthAt m p)) := by
  rw [Contained, Contained, toNat_next inside, Tlv.offsets_of_le inside, Tlv.rest_of_le inside,
    firstRequested, other, if_neg Bool.false_ne_true, List.length_cons]
  generalize Tlv.offsets m _ _ = ps
  have count : tlvFind + (ps.length + 1) + 1 = tlvFind + 1 + ps.length + 1 := by omega
  rw [count]

/-- Behind the last record that lies inside. -/
theorem contained_last (overrun : length.toNat < 3 + Tlv.lengthAt m p) :
    Contained m tlvType tlvFind length p ↔ Stops m tlvType (tlvFind + 1) p length.toNat := by
  rw [Contained, Tlv.offsets_of_lt overrun, Tlv.rest_of_lt overrun]
  simp [firstRequested]

/-- The loop comes to its end inside of the body. -/
theorem walkTLV_of_contained {fuel : Nat} (contained : Contained m tlvType tlvFind length p)
    (enough : length.toNat < fuel) :
    ∃ reads, walkTLV m tlvType fuel tlvFind length p =
        some (firstRequested m tlvType tlvFind (Tlv.offsets m length.toNat p), reads) ∧
      ∀ k ∈ reads, p ≤ k ∧ k < p + length.toNat := by
  induction fuel generalizing tlvFind length p with
  | zero => omega
  | succ fuel ih =>
    rw [walkTLV]
    by_cases small : length < 3
    · have left : length.toNat < 3 := UInt16.lt_iff_toNat_lt.mp small
      rw [if_pos small, Tlv.offsets_of_lt (by omega)]
      exact ⟨[], rfl, by simp⟩
    have more := three_le small
    rw [if_neg small]
    by_cases inside : 3 + Tlv.lengthAt m p ≤ length.toNat
    · rw [Tlv.offsets_of_le inside, firstRequested]
      cases here : requested m tlvType (tlvFind + 1) p with
      | true =>
        refine ⟨_, rfl, fun k member => ?_⟩
        have place := typeReads_eq member
        omega
      | false =>
        have size := toNat_next inside
        obtain ⟨reads, walked, between⟩ :=
          ih ((contained_next inside here).mp contained) (by omega)
        rw [size] at walked between
        refine ⟨typeReads tlvType p ++ [p + 1, p + 2] ++ reads, ?_, fun k member => ?_⟩
        · rw [Tlv.lengthAt] at walked
          simp only [Bool.false_eq_true, if_false, Tlv.lengthAt, walked, Option.map_some]
        · simp only [List.mem_append, List.mem_cons, List.not_mem_nil, or_false] at member
          rcases member with (first | second) | later
          · have place := typeReads_eq first
            omega
          · omega
          · have bounds := between k later
            omega
    · rcases (contained_last (by omega)).mp contained with few | ⟨other, wraps⟩
      · omega
      -- The counter wraps around to less than three.
      have size := toNat_wrapped (m := m) (p := p) (by omega) more
      have stop : length - (m.le16 (p + 1) + 3) < 3 := by
        rw [UInt16.lt_iff_toNat_lt, size, show (3 : UInt16).toNat = 3 from rfl]
        omega
      obtain ⟨rest, rfl⟩ : ∃ rest, fuel = rest + 1 := ⟨fuel - 1, by omega⟩
      rw [other, if_neg Bool.false_ne_true, walkTLV, if_pos stop, Tlv.offsets_of_lt (by omega)]
      refine ⟨_, rfl, fun k member => ?_⟩
      simp only [List.mem_append, List.mem_cons, List.not_mem_nil, or_false] at member
      rcases member with first | second
      · have place := typeReads_eq first
        omega
      · omega

/-- Otherwise it goes on behind the body, or returns a record that does not lie inside. -/
theorem walkTLV_of_not_contained {fuel : Nat} {found : Option Nat} {reads : List Nat}
    (escapes : ¬ Contained m tlvType tlvFind length p)
    (walked : walkTLV m tlvType fuel tlvFind length p = some (found, reads)) :
    (∃ k ∈ reads, p + length.toNat ≤ k) ∨
      found ≠ firstRequested m tlvType tlvFind (Tlv.offsets m length.toNat p) := by
  induction fuel generalizing tlvFind length p found reads with
  | zero => cases walked
  | succ fuel ih =>
    rw [walkTLV] at walked
    by_cases small : length < 3
    · have left : length.toNat < 3 := UInt16.lt_iff_toNat_lt.mp small
      exact absurd ((contained_last (by omega)).mpr (.inl left)) escapes
    have more := three_le small
    rw [if_neg small] at walked
    by_cases inside : 3 + Tlv.lengthAt m p ≤ length.toNat
    · cases here : requested m tlvType (tlvFind + 1) p with
      | true =>
        refine absurd (.inl ?_) escapes
        rw [Tlv.offsets_of_le inside, firstRequested, if_pos here]
        simp
      | false =>
        rw [here, if_neg Bool.false_ne_true] at walked
        obtain ⟨⟨later, behind⟩, next, same⟩ := Option.map_eq_some_iff.mp walked
        cases same
        have size := toNat_next inside
        have again := ih (fun contained => escapes ((contained_next inside here).mpr contained)) next
        rw [size] at again
        rw [Tlv.offsets_of_le inside, firstRequested, here, if_neg Bool.false_ne_true]
        rcases again with ⟨k, member, beyond⟩ | other
        · refine .inl ⟨k, List.mem_append_right _ member, ?_⟩
          change p + (3 + Tlv.lengthAt m p) + _ ≤ k at beyond
          omega
        · exact .inr other
    · have overrun : length.toNat < 3 + Tlv.lengthAt m p := by omega
      rw [contained_last overrun, Stops, not_or, not_and] at escapes
      rw [Tlv.offsets_of_lt overrun, firstRequested]
      cases here : requested m tlvType (tlvFind + 1) p with
      | true =>
        rw [here, if_pos rfl] at walked
        cases walked
        exact .inr (by simp)
      | false =>
        have large := escapes.2 here
        rw [here, if_neg Bool.false_ne_true] at walked
        obtain ⟨⟨later, behind⟩, next, same⟩ := Option.map_eq_some_iff.mp walked
        cases same
        have size := toNat_wrapped (m := m) (p := p) overrun more
        have goes : ¬ length - (m.le16 (p + 1) + 3) < 3 := by
          rw [UInt16.lt_iff_toNat_lt, size, show (3 : UInt16).toNat = 3 from rfl]
          omega
        -- The next record begins behind the body.
        cases fuel with
        | zero => cases next
        | succ fuel =>
          rw [walkTLV, if_neg goes] at next
          split at next
          · cases next
            exact .inr (by simp)
          · obtain ⟨⟨last, further⟩, _, same⟩ := Option.map_eq_some_iff.mp next
            cases same
            refine .inl ⟨p + (3 + Tlv.lengthAt m p) + 1, ?_, by omega⟩
            simp [Tlv.lengthAt]

theorem inside_iff : Inside m tlvType tlvFind length p ↔ Contained m tlvType tlvFind length p := by
  constructor
  · rintro ⟨fuel, found, reads, walked, between, same⟩
    by_contra escapes
    rcases walkTLV_of_not_contained escapes walked with ⟨k, member, beyond⟩ | other
    · have bounds := between k member
      omega
    · exact other same
  · intro contained
    obtain ⟨reads, walked, between⟩ := walkTLV_of_contained contained (Nat.lt_succ_self _)
    exact ⟨_, _, reads, walked, between, rfl⟩

end

/-- `GetTLV` ends, stays inside of the body and finds the first requested record that lies inside,
exactly if this one comes before any that overruns the body, or nothing that is taken for a record
is left behind those inside. -/
theorem getTLV_inside_iff (m : Memory) (tlvType : Int) :
    Inside m tlvType 0 (bodyLength m) 4 ↔
      firstRequested m tlvType 0 (Tlv.offsets m (bodyLength m).toNat 4) ≠ none ∨
        Stops m tlvType ((Tlv.offsets m (bodyLength m).toNat 4).length + 1)
          (Tlv.rest m (bodyLength m).toNat 4).1 (Tlv.rest m (bodyLength m).toNat 4).2 := by
  rw [inside_iff, Contained, Nat.zero_add]

/-- A record of one byte in a body that has no room for it. -/
def overrunning : Memory := ofList [0x2D, 0, 3, 0, 1, 1, 0]

/-- The next record is looked for behind the message. -/
theorem overrun_not_inside :
    ¬ ∀ (m : Memory) (tlvType : Int), Inside m tlvType 0 (bodyLength m) 4 := by
  intro always
  have contained := inside_iff.mp (always overrunning 2)
  have length : (bodyLength overrunning).toNat = 3 := by decide
  have size : Tlv.lengthAt overrunning 4 = 1 := by decide
  rw [contained_last (by omega)] at contained
  rcases contained with few | ⟨_, wraps⟩ <;> omega

/-! ### Messages that have been written -/

/-- The body of the message is these records. -/
structure Carries (m : Memory) (ts : List Tlv) : Prop where
  length : (bodyLength m).toNat = (Tlv.encodeAll ts).length
  body : m.Holds 4 (Tlv.encodeAll ts)

theorem requested_of_type {m : Memory} {type : UInt8} {tlvFind p : Nat} :
    requested m type.toNat tlvFind p = decide (m p = type) := by
  have small := type.toNat_lt
  have same : ((m p).toNat : Int) = type.toNat ↔ m p = type := by
    rw [Int.natCast_inj, UInt8.toNat_inj]
  rw [requested, if_neg (by omega), decide_eq_decide]
  exact same

theorem firstRequested_starts {m : Memory} {ts : List Tlv} {p : Nat}
    (holds : m.Holds p (Tlv.encodeAll ts)) (type : UInt8) (tlvFind : Nat) :
    (∃ t q, ts.find? (·.type = type) = some t ∧ m.Holds q t.encode ∧
        firstRequested m type.toNat tlvFind (Tlv.starts ts p) = some q) ∨
      (∀ t ∈ ts, t.type ≠ type) ∧
        firstRequested m type.toNat tlvFind (Tlv.starts ts p) = none := by
  induction ts generalizing p tlvFind with
  | nil => exact .inr ⟨by simp, rfl⟩
  | cons t ts ih =>
    rw [Tlv.encodeAll_cons, holds_append, Tlv.length_encode] at holds
    have here := Tlv.type_encode holds.1
    rw [Tlv.starts, firstRequested, requested_of_type, here]
    by_cases same : t.type = type
    · exact .inl ⟨t, p, by simp [same], holds.1, by simp [same]⟩
    · simp only [same, decide_false, Bool.false_eq_true, if_false, not_false_eq_true,
        List.find?_cons_of_neg, List.mem_cons, forall_eq_or_imp, ne_eq, true_and]
      exact ih holds.2 (tlvFind + 1)

theorem getTLV_of_contained {m : Memory} {tlvType : Int}
    (contained : Contained m tlvType 0 (bodyLength m) 4) :
    getTLV m tlvType = firstRequested m tlvType 0 (Tlv.offsets m (bodyLength m).toNat 4) := by
  obtain ⟨reads, walked, _⟩ := walkTLV_of_contained contained (bodyLength m).toNat_lt
  rw [getTLV, walked]
  rfl

namespace Carries

variable {m : Memory} {ts : List Tlv}

theorem contained (carries : Carries m ts) (tlvType : Int) :
    Contained m tlvType 0 (bodyLength m) 4 := by
  refine .inr (.inl ?_)
  rw [carries.length, Tlv.rest_encodeAll carries.body]
  decide

theorem getTLV_eq (carries : Carries m ts) (type : UInt8) :
    getTLV m type.toNat = firstRequested m type.toNat 0 (Tlv.starts ts 4) := by
  rw [getTLV_of_contained (carries.contained _), carries.length, Tlv.offsets_encodeAll carries.body]

/-- The first record of its type is found. -/
theorem getTLV_some (carries : Carries m ts) {type : UInt8} {t : Tlv}
    (first : ts.find? (·.type = type) = some t) :
    ∃ p, getTLV m type.toNat = some p ∧ m.Holds p t.encode := by
  rw [carries.getTLV_eq]
  rcases firstRequested_starts carries.body type 0 with ⟨t', q, found, holds, same⟩ | ⟨none, _⟩
  · cases first.symm.trans found
    exact ⟨q, same, holds⟩
  · have type' := List.find?_some first
    exact absurd (by simpa using type') (none t (List.mem_of_find?_eq_some first))

theorem getTLV_none (carries : Carries m ts) {type : UInt8} (none : ∀ t ∈ ts, t.type ≠ type) :
    getTLV m type.toNat = Option.none := by
  rw [carries.getTLV_eq]
  rcases firstRequested_starts carries.body type 0 with ⟨t, q, found, _, _⟩ | ⟨_, nothing⟩
  · have type' := List.find?_some found
    exact absurd (by simpa using type') (none t (List.mem_of_find?_eq_some found))
  · exact nothing

/-- A response with the result first passes. -/
theorem check_of_success (carries : Carries m (success :: ts)) : qmiRspCheck m = true := by
  have body := carries.body
  rw [Tlv.encodeAll_cons, holds_append] at body
  have value : m.Holds 7 (bytes16 0 ++ bytes16 0) := Tlv.holds_value body.1
  rw [holds_append] at value
  rw [qmiRspCheck, value.1.le16_eq, show m.le16 9 = 0 from value.2.le16_eq]
  rfl

/-- And one that reports a failure does not. -/
theorem check_of_failure {result : Tlv} (carries : Carries m (result :: ts))
    (type : result.type = 0x02) (length : result.value.length = 4) (failure : result ≠ success) :
    qmiRspCheck m = false := by
  have body := carries.body
  rw [Tlv.encodeAll_cons, holds_append] at body
  have value := Tlv.holds_value body.1
  by_contra passes
  have zero : m.le16 7 = 0 ∧ m.le16 9 = 0 := by simpa [qmiRspCheck] using passes
  have all : ∀ k < 4, m (7 + k) = 0 := by
    intro k low
    have error := le16_eq_zero.mp zero.2
    obtain ⟨first, second⟩ := le16_eq_zero.mp zero.1
    obtain rfl | rfl | rfl | rfl : k = 0 ∨ k = 1 ∨ k = 2 ∨ k = 3 := by omega
    · exact first
    · exact second
    · exact error.1
    · exact error.2
  have zeros : result.value = [0, 0, 0, 0] := by
    refine List.eq_replicate_iff.mpr ⟨length, fun b member => ?_⟩
    obtain ⟨k, inside, rfl⟩ := List.mem_iff_getElem.mp member
    have byte : m (7 + k) = result.value[k] := value k inside
    rw [← byte, all k (length ▸ inside)]
  obtain ⟨resultType, resultValue, fits⟩ := result
  cases type
  cases zeros
  exact failure rfl

end Carries

/-- A message with these records. -/
def messageOf (ts : List Tlv) : Memory :=
  ofList ([0, 0, (Tlv.encodeAll ts).length.toUInt8, ((Tlv.encodeAll ts).length / 256).toUInt8] ++
    Tlv.encodeAll ts)

theorem carries_messageOf {ts : List Tlv} (fits : (Tlv.encodeAll ts).length < 2 ^ 16) :
    Carries (messageOf ts) ts := by
  constructor
  · have low : messageOf ts 2 = (Tlv.encodeAll ts).length.toUInt8 := rfl
    have high : messageOf ts 3 = ((Tlv.encodeAll ts).length / 256).toUInt8 := rfl
    rw [bodyLength, le16, low, high]
    simp only [Nat.toUInt8, UInt8.toNat_ofNat', UInt16.toNat_ofNat']
    omega
  · exact holds_ofList [_, _, _, _] _

end LorawanFeeds.QmiClient
