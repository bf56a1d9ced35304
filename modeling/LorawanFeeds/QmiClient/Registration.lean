import Mathlib.Data.Bool.AllAny
import Mathlib.Data.List.Induction
import LorawanFeeds.QmiClient.Tlv

/-!
# The state of the registration

`requestRegistrationState2` of `QMIThread.c` goes through the records of a `GET_SYS_INFO` response in
the order in which they stand there. Some of them assign a variable that others extend, and one looks
at what those before it have left.
-/
namespace LorawanFeeds.QmiClient.Registration

open Lib Memory

/-! ### The records -/

/-- `DeviceClass`. -/
inductive DeviceClass where
  | unset
  | cdma
  | gsm
  deriving DecidableEq, Repr

/-- The variables that the result depends on. -/
structure State where
  psAttached : Bool := false
  isLte : Bool := false
  isCdma : Bool := false
  hdrPersonality : UInt8 := 0
  dataCapList : UInt32 := 0
  deviceClass : DeviceClass := .unset
  endcAvailable : Option UInt8 := none
  restrictDcnr : Option UInt8 := none
  deriving DecidableEq, Repr

/-- The bits of `DataCapList`. -/
def classGprs : UInt32 := 0x01
def classEdge : UInt32 := 0x02
def classUmts : UInt32 := 0x04
def classLte : UInt32 := 0x20
def class5gNsa : UInt32 := 0x40
def class5gSa : UInt32 := 0x80
def class1xrtt : UInt32 := 0x00010000
def class1xevdo : UInt32 := 0x00020000
def class1xevdoRevA : UInt32 := 0x00040000
def class1xevdv : UInt32 := 0x00080000
def class3xrtt : UInt32 := 0x00100000
def class1xevdoRevB : UInt32 := 0x00200000
def classUmb : UInt32 := 0x00400000

/-- `SrvStatus == 0x02`. -/
def inService (v : Memory) : Bool := v 0 = 0x02

/-- `SrvDomainValid == 0x01` and `SrvDomain & 0x02`. -/
def inDomain (v : Memory) : Bool := v 0 = 0x01 ∧ v 1 &&& 0x02 ≠ 0

/-- `HdrPersonalityValid == 0x01` and `HdrPersonality == 0x03`. -/
def eHrpd (v : Memory) : Bool := v 10 = 0x01 ∧ v 11 = 0x03

namespace State

variable (s : State)

/-- `s_is_cdma = (0 == is_lte)`. -/
def cdma : State := { s with isCdma := !s.isLte }

def lte : State := { s with isLte := true, isCdma := false }

def attach : State := { s with psAttached := true }

/-- `DataCapList` and `DeviceClass` are assigned. -/
def assign (dataCapList : UInt32) (deviceClass : DeviceClass) : State := { s with dataCapList, deviceClass }

end State

/-- One turn of the loop, with the type of a record and the memory from its value on. The records of
the systems and of the service status are cases of the `switch` in the source. -/
def onTlv (type : UInt8) (v : Memory) (s : State) : State :=
  match type with
  | 0x10 =>
    if inService v then
      (s.assign (class1xrtt ||| class1xevdo ||| class1xevdoRevA ||| class1xevdv ||| class1xevdoRevB)
        .cdma).cdma
    else s
  | 0x11 => if inService v then (s.assign (class3xrtt ||| classUmb) .cdma).cdma else s
  | 0x12 => if inService v then s.assign (classGprs ||| classEdge) .gsm else s
  | 0x13 => if inService v then s.assign classUmts .gsm else s
  | 0x14 => if inService v then (s.assign classLte .gsm).lte else s
  | 0x4A => if inService v then (s.assign (s.dataCapList ||| class5gSa) .gsm).lte else s
  | 0x4B => if inDomain v then s.attach else s
  | 0x4E => { s with endcAvailable := some (v 0) }
  | 0x4F => { s with restrictDcnr := some (v 0) }
  | 0x15 => if inDomain v then s.attach.cdma else s
  | 0x16 =>
    let s := if inDomain v then s.attach.cdma else s
    if s.psAttached ∧ eHrpd v then { s with hdrPersonality := 0x02 } else s
  | 0x17 => if inDomain v then s.attach else s
  | 0x18 => if inDomain v then s.attach else s
  | 0x19 => if inDomain v then s.attach.lte else s
  | 0x25 => if inDomain v then s.attach else s
  | _ => s

/-- The loop over the records. Their lengths are taken from `remainingLen`, which is signed. -/
def walkTlvs (m : Memory) (remainingLen : Int) (p : Nat) (s : State) : State :=
  if 0 < remainingLen then
    walkTlvs m (remainingLen - (Tlv.lengthAt m p + 3)) (p + (3 + Tlv.lengthAt m p))
      (onTlv (m p) (m.tail (p + 3)) s)
  else s
termination_by remainingLen.toNat

/-- What the caller and the other functions see of it. -/
structure Result where
  psAttachedState : Bool
  isCdma : Bool
  type5g : UInt32
  hdrPersonality : UInt8
  deriving DecidableEq, Repr

/-- Dual connectivity is available, and not restricted. -/
def State.endc (s : State) : Bool := s.endcAvailable.any (· ≠ 0) ∧ s.restrictDcnr.any (· = 0)

/-- `s_5g_type`, from the variables after the loop. -/
def type5gOf (dataCapList : UInt32) (deviceClass : DeviceClass) (endc : Bool) : UInt32 :=
  let dataCapList := if dataCapList &&& classLte ≠ 0 ∧ endc then dataCapList ||| class5gNsa else dataCapList
  if deviceClass = .cdma then 0
  else if dataCapList &&& class5gSa ≠ 0 then class5gSa
  else if dataCapList &&& class5gNsa ≠ 0 then class5gNsa
  else 0

def State.result (s : State) : Result where
  psAttachedState := s.psAttached
  isCdma := s.isCdma
  type5g := type5gOf s.dataCapList s.deviceClass s.endc
  hdrPersonality := s.hdrPersonality

/-- `requestRegistrationState2`, with what the variables have been before and a response. `s_is_cdma`
and the two others are reset behind the check. -/
def requestRegistrationState2 (before : Result) (m : Memory) : Result :=
  if qmiRspCheck m then (walkTlvs m (bodyLength m).toNat 4 {}).result
  else { before with psAttachedState := false }

/-! ### Records that are long enough -/

/-- How many bytes of its value are looked at. -/
def needed (type : UInt8) : Nat :=
  if type ∈ [0x10, 0x11, 0x12, 0x13, 0x14, 0x4A, 0x4E, 0x4F] then 1
  else if type ∈ [0x15, 0x17, 0x18, 0x19, 0x25, 0x4B] then 2
  else if type = 0x16 then 12
  else 0

/-- The record has the members that the function reads. -/
def Complete (t : Tlv) : Prop := needed t.type ≤ t.value.length

instance (t : Tlv) : Decidable (Complete t) := inferInstanceAs (Decidable (_ ≤ _))

theorem onTlv_congr {type : UInt8} {v v' : Memory} (same : ∀ k < needed type, v k = v' k) (s : State) :
    onTlv type v s = onTlv type v' s := by
  have status (some : 0 < needed type) : inService v = inService v' := by
    rw [inService, inService, same 0 some]
  have domain (some : 1 < needed type) : inDomain v = inDomain v' := by
    rw [inDomain, inDomain, same 0 (by omega), same 1 some]
  have personality (some : 11 < needed type) : eHrpd v = eHrpd v' := by
    rw [eHrpd, eHrpd, same 10 (by omega), same 11 some]
  unfold onTlv
  split
  case h_8 => rw [same 0 (by decide)]
  case h_9 => rw [same 0 (by decide)]
  case h_11 => rw [domain (by decide), personality (by decide)]
  case h_16 => rfl
  all_goals first | rw [status (by decide)] | rw [domain (by decide)]

/-- What a record does to the state. -/
def step (s : State) (t : Tlv) : State := onTlv t.type (ofList t.value) s

theorem onTlv_record {m : Memory} {p : Nat} {t : Tlv} (holds : m.Holds p t.encode)
    (complete : Complete t) (s : State) : onTlv (m p) (m.tail (p + 3)) s = step s t := by
  rw [Tlv.type_encode holds, step]
  apply onTlv_congr
  intro k low
  have inside : k < t.value.length := Nat.lt_of_lt_of_le low complete
  have byte := Tlv.holds_value holds k inside
  rw [tail, byte, ofList, List.getD_eq_getElem _ _ inside]
  rfl

/-- The loop goes through the records one after the other. -/
theorem walkTlvs_records {m : Memory} {p : Nat} {ts : List Tlv} (holds : m.Holds p (Tlv.encodeAll ts))
    (complete : ∀ t ∈ ts, Complete t) (s : State) :
    walkTlvs m (Tlv.encodeAll ts).length p s = ts.foldl step s := by
  induction ts generalizing p s with
  | nil =>
    rw [walkTlvs, if_neg (by decide)]
    rfl
  | cons t ts ih =>
    rw [Tlv.encodeAll_cons, holds_append, Tlv.length_encode] at holds
    have length := Tlv.lengthAt_encode holds.1
    have size : ((Tlv.encodeAll (t :: ts)).length : Int) =
        t.value.length + 3 + (Tlv.encodeAll ts).length := by
      rw [Tlv.encodeAll_cons, List.length_append, Tlv.length_encode]
      omega
    rw [walkTlvs, size, if_pos (by omega), length, onTlv_record holds.1 (complete t (.head _)),
      List.foldl_cons, ← ih holds.2 (fun t member => complete t (.tail _ member)) (step s t)]
    congr 1
    omega

theorem requestRegistrationState2_eq (before : Result) {m : Memory} {ts : List Tlv}
    (carries : Carries m ts) (checked : qmiRspCheck m = true) (complete : ∀ t ∈ ts, Complete t) :
    requestRegistrationState2 before m = (ts.foldl step {}).result := by
  rw [requestRegistrationState2, if_pos checked, carries.length,
    walkTlvs_records carries.body complete]

/-! ### What a record does -/

/-- The system attaches. -/
def attaches (t : Tlv) : Bool :=
  [(0x15 : UInt8), 0x16, 0x17, 0x18, 0x19, 0x25, 0x4B].contains t.type && inDomain (ofList t.value)

/-- The network is LTE or its successor. -/
def isLte (t : Tlv) : Bool :=
  ([(0x14 : UInt8), 0x4A].contains t.type && inService (ofList t.value)) ||
    (decide (t.type = 0x19) && inDomain (ofList t.value))

/-- The network is CDMA, unless it is LTE. -/
def isCdma (t : Tlv) : Bool :=
  ([(0x10 : UInt8), 0x11].contains t.type && inService (ofList t.value)) ||
    ([(0x15 : UInt8), 0x16].contains t.type && inDomain (ofList t.value))

/-- `DataCapList` is assigned, or extended. -/
def assigns (t : Tlv) : Bool :=
  [(0x10 : UInt8), 0x11, 0x12, 0x13, 0x14].contains t.type && inService (ofList t.value)

def extends5g (t : Tlv) : Bool := decide (t.type = 0x4A) && inService (ofList t.value)

def isEHrpd (t : Tlv) : Bool := decide (t.type = 0x16) && eHrpd (ofList t.value)

/-- What is assigned. -/
def capOf (type : UInt8) : UInt32 :=
  if type = 0x10 then class1xrtt ||| class1xevdo ||| class1xevdoRevA ||| class1xevdv ||| class1xevdoRevB
  else if type = 0x11 then class3xrtt ||| classUmb
  else if type = 0x12 then classGprs ||| classEdge
  else if type = 0x13 then classUmts
  else classLte

def classOf (type : UInt8) : DeviceClass := if type = 0x10 ∨ type = 0x11 then .cdma else .gsm

/-- A record does all of this, and nothing else. -/
theorem step_eq (s : State) (t : Tlv) : step s t =
    { psAttached := s.psAttached || attaches t
      isLte := s.isLte || isLte t
      isCdma := if isLte t then false else if isCdma t then !s.isLte else s.isCdma
      hdrPersonality := if (s.psAttached || attaches t) && isEHrpd t then 2 else s.hdrPersonality
      dataCapList := if assigns t then capOf t.type
        else if extends5g t then s.dataCapList ||| class5gSa else s.dataCapList
      deviceClass := if assigns t then classOf t.type
        else if extends5g t then .gsm else s.deviceClass
      endcAvailable := if t.type = 0x4E then some (ofList t.value 0) else s.endcAvailable
      restrictDcnr := if t.type = 0x4F then some (ofList t.value 0) else s.restrictDcnr } := by
  obtain ⟨type, value, fits⟩ := t
  obtain ⟨ps, lte, cdma, hdr, caps, device, endc, dcnr⟩ := s
  rw [step]
  unfold onTlv
  simp only
  split
  case h_16 => simp_all [attaches, isLte, isCdma, assigns, extends5g, isEHrpd]
  case h_11 =>
    cases domain : inDomain (ofList value) <;> cases personality : eHrpd (ofList value) <;>
      cases ps <;>
      simp [attaches, isLte, isCdma, assigns, extends5g, isEHrpd, domain, personality, State.attach,
        State.cdma]
  case h_8 => simp [attaches, isLte, isCdma, assigns, extends5g, isEHrpd]
  case h_9 => simp [attaches, isLte, isCdma, assigns, extends5g, isEHrpd]
  all_goals
    cases service : inService (ofList value) <;> cases domain : inDomain (ofList value) <;>
      simp [attaches, isLte, isCdma, assigns, extends5g, isEHrpd, service, domain, State.attach,
        State.assign, State.cdma, State.lte, capOf, classOf]

/-! ### What does not depend on the order -/

theorem foldl_psAttached (ts : List Tlv) (s : State) :
    (ts.foldl step s).psAttached = (s.psAttached || ts.any attaches) := by
  induction ts generalizing s with
  | nil => simp
  | cons t ts ih => rw [List.foldl_cons, ih, step_eq, List.any_cons, Bool.or_assoc]

/-- No record says both. -/
theorem isLte_of_isCdma {t : Tlv} (cdma : isCdma t = true) : isLte t = false := by
  simp only [isCdma, Bool.or_eq_true, Bool.and_eq_true, List.contains_cons, List.contains_nil,
    beq_iff_eq, Bool.or_false] at cdma
  rcases cdma with ⟨type | type, -⟩ | ⟨type | type, -⟩ <;> simp [isLte, type]

/-- CDMA gives way to LTE in whichever order they come. -/
theorem foldl_isCdma (ts : List Tlv) {s : State} (exclusive : s.isCdma = true → s.isLte = false) :
    (ts.foldl step s).isCdma = ((s.isCdma || ts.any isCdma) && !(s.isLte || ts.any isLte)) := by
  induction ts generalizing s with
  | nil =>
    cases cdma : s.isCdma
    · simp [cdma]
    · simp [cdma, exclusive cdma]
  | cons t ts ih =>
    rw [List.foldl_cons, ih, step_eq, List.any_cons, List.any_cons]
    · cases lte : isLte t
      · cases cdma : isCdma t
        · simp
        · cases s.isLte <;> simp
      · have other : isCdma t = false := by
          by_contra cdma
          simp [isLte_of_isCdma (Bool.not_eq_false _ ▸ cdma)] at lte
        simp [other]
    · rw [step_eq]
      cases lte : isLte t
      · cases cdma : isCdma t
        · simpa using exclusive
        · simp
      · simp

/-- A member that records of one type set. -/
theorem foldl_member (member : State → Option UInt8) {type : UInt8}
    (sets : ∀ s t, member (step s t) = if t.type = type then some (ofList t.value 0) else member s)
    (unset : member {} = none) {ts : List Tlv} (distinct : (ts.map Tlv.type).Nodup) (b : UInt8) :
    member (ts.foldl step {}) = some b ↔ ∃ t ∈ ts, t.type = type ∧ ofList t.value 0 = b := by
  induction ts using List.reverseRecOn with
  | nil => simp [unset]
  | append_singleton ts t ih =>
    rw [List.map_append, List.nodup_append] at distinct
    rw [List.foldl_append, List.foldl_cons, List.foldl_nil, sets]
    by_cases same : t.type = type
    · have none : ∀ u ∈ ts, u.type ≠ type := by
        intro u inside equal
        exact distinct.2.2 u.type (List.mem_map_of_mem inside) t.type (by simp) (equal.trans same.symm)
      rw [if_pos same, Option.some_inj]
      constructor
      · intro value
        exact ⟨t, by simp, same, value⟩
      · rintro ⟨u, inside, equal, value⟩
        rcases List.mem_append.mp inside with before | last
        · exact absurd equal (none u before)
        · rw [List.mem_singleton] at last
          rwa [← last]
    · rw [if_neg same, ih distinct.1]
      constructor
      · rintro ⟨u, inside, found⟩
        exact ⟨u, List.mem_append_left _ inside, found⟩
      · rintro ⟨u, inside, equal, value⟩
        rcases List.mem_append.mp inside with before | last
        · exact ⟨u, before, equal, value⟩
        · rw [List.mem_singleton] at last
          exact absurd (last ▸ equal) same

/-- Dual connectivity, by the records. -/
def offersEndc (t : Tlv) : Bool := decide (t.type = 0x4E) && decide (ofList t.value 0 ≠ 0)
def permitsDcnr (t : Tlv) : Bool := decide (t.type = 0x4F) && decide (ofList t.value 0 = 0)

def dualConnectivity (ts : List Tlv) : Bool := ts.any offersEndc && ts.any permitsDcnr

theorem foldl_endc {ts : List Tlv} (distinct : (ts.map Tlv.type).Nodup) :
    (ts.foldl step {}).endc = dualConnectivity ts := by
  have offered := @foldl_member State.endcAvailable 0x4E (fun s t => by rw [step_eq]) rfl ts distinct
  have permitted := @foldl_member State.restrictDcnr 0x4F (fun s t => by rw [step_eq]) rfl ts distinct
  have first : (ts.foldl step {}).endcAvailable.any (· ≠ 0) = ts.any offersEndc := by
    rw [Bool.eq_iff_iff, Option.any_eq_true, List.any_eq_true]
    simp only [offered, offersEndc, Bool.and_eq_true, decide_eq_true_eq]
    grind
  have second : (ts.foldl step {}).restrictDcnr.any (· = 0) = ts.any permitsDcnr := by
    rw [Bool.eq_iff_iff, Option.any_eq_true, List.any_eq_true]
    simp only [permitted, permitsDcnr, Bool.and_eq_true, decide_eq_true_eq]
    grind
  rw [State.endc, first, second, dualConnectivity, Bool.decide_and, Bool.decide_eq_true,
    Bool.decide_eq_true]

/-! ### What does -/

/-- LTE is in service. -/
def lteInService (t : Tlv) : Bool := decide (t.type = 0x14) && inService (ofList t.value)

/-- No record undoes what another one has done, or looks at what another one does. -/
structure NoConflict (ts : List Tlv) : Prop where
  sa : ts.any extends5g = true → ts.any assigns = false
  nsa : ts.any lteInService = true → dualConnectivity ts = true → ∀ t ∈ ts, assigns t = true →
    t.type = 0x14
  hdr : (ts.any fun t => isEHrpd t && !attaches t) = true → ts.any attaches = false

/-- The result of records without a conflict. -/
def expected (ts : List Tlv) : Result where
  psAttachedState := ts.any attaches
  isCdma := ts.any isCdma && !ts.any isLte
  type5g := if ts.any extends5g then class5gSa
    else if ts.any lteInService && dualConnectivity ts then class5gNsa
    else 0
  hdrPersonality := if ts.any fun t => isEHrpd t && attaches t then 2 else 0

theorem foldl_hdrPersonality {ts : List Tlv}
    (apart : (ts.any fun t => isEHrpd t && !attaches t) = true → ts.any attaches = false) :
    (ts.foldl step {}).hdrPersonality =
      if ts.any fun t => isEHrpd t && attaches t then 2 else 0 := by
  induction ts using List.reverseRecOn with
  | nil => rfl
  | append_singleton ts t ih =>
    have before : (ts.any fun t => isEHrpd t && !attaches t) = true → ts.any attaches = false := by
      intro found
      have all := apart (by rw [List.any_append, found, Bool.true_or])
      rw [List.any_append, Bool.or_eq_false_iff] at all
      exact all.1
    rw [List.foldl_append, List.foldl_cons, List.foldl_nil, step_eq]
    simp only [foldl_psAttached, ih before, List.any_append, List.any_cons, List.any_nil, Bool.or_false,
      Bool.false_or]
    cases personality : isEHrpd t
    · simp
    · cases attached : attaches t
      · -- the record does not attach itself, and so nothing does
        have all := apart (by simp [personality, attached])
        rw [List.any_append, Bool.or_eq_false_iff] at all
        simp [all.1]
      · simp

/-- No other record has to do with the personality. -/
theorem foldl_hdrPersonality_kept {ts : List Tlv} (others : ∀ t ∈ ts, isEHrpd t = false) (s : State) :
    (ts.foldl step s).hdrPersonality = s.hdrPersonality := by
  induction ts generalizing s with
  | nil => rfl
  | cons t ts ih =>
    rw [List.foldl_cons, ih fun t member => others t (.tail _ member), step_eq, others t (.head _)]
    simp

/-- Where nothing is assigned, what 5G adds stays. -/
theorem foldl_extended {ts : List Tlv} (none : ts.any assigns = false) :
    (ts.foldl step {}).dataCapList = (if ts.any extends5g then class5gSa else 0) ∧
    (ts.foldl step {}).deviceClass = if ts.any extends5g then .gsm else .unset := by
  induction ts using List.reverseRecOn with
  | nil => exact ⟨rfl, rfl⟩
  | append_singleton ts t ih =>
    rw [List.any_append, Bool.or_eq_false_iff] at none
    obtain ⟨before, last⟩ := none
    rw [List.any_cons, List.any_nil, Bool.or_false] at last
    obtain ⟨caps, device⟩ := ih before
    rw [List.foldl_append, List.foldl_cons, List.foldl_nil, step_eq]
    simp only [caps, device, last, List.any_append, List.any_cons, List.any_nil, Bool.or_false]
    cases extends5g t <;> cases ts.any extends5g <;> simp [class5gSa]

/-- Without 5G, what was assigned last stays. -/
theorem foldl_assigned {ts : List Tlv} (none : ts.any extends5g = false) :
    ((ts.foldl step {}).dataCapList = 0 ∧ (ts.foldl step {}).deviceClass = .unset ∧
      ts.any assigns = false) ∨
    ∃ t ∈ ts, assigns t = true ∧ (ts.foldl step {}).dataCapList = capOf t.type ∧
      (ts.foldl step {}).deviceClass = classOf t.type := by
  induction ts using List.reverseRecOn with
  | nil => exact .inl ⟨rfl, rfl, rfl⟩
  | append_singleton ts t ih =>
    rw [List.any_append, Bool.or_eq_false_iff] at none
    obtain ⟨before, last⟩ := none
    rw [List.any_cons, List.any_nil, Bool.or_false] at last
    rw [List.foldl_append, List.foldl_cons, List.foldl_nil, step_eq]
    cases assigned : assigns t
    · rcases ih before with ⟨caps, device, nothing⟩ | ⟨u, inside, assigns', caps, device⟩
      · exact .inl ⟨by simp [last, caps], by simp [last, device], by simp [nothing, assigned]⟩
      · exact .inr ⟨u, by simp [inside], assigns', by simp [last, caps], by simp [last, device]⟩
    · exact .inr ⟨t, by simp, assigned, by simp, by simp⟩

/-! ### The type of 5G -/

theorem type5gOf_assigned : ∀ type ∈ [(0x10 : UInt8), 0x11, 0x12, 0x13, 0x14], ∀ endc,
    type5gOf (capOf type) (classOf type) endc = if type = 0x14 ∧ endc then class5gNsa else 0 :=
  List.all_iff_forall_prop.mp (by decide)

theorem type5gOf_extended : ∀ type ∈ [(0x10 : UInt8), 0x11, 0x12, 0x13, 0x14], ∀ endc,
    type5gOf (capOf type ||| class5gSa) .gsm endc = class5gSa :=
  List.all_iff_forall_prop.mp (by decide)

theorem type5gOf_assigned_ne : ∀ type ∈ [(0x10 : UInt8), 0x11, 0x12, 0x13, 0x14], ∀ endc,
    class5gSa ≠ type5gOf (capOf type) (classOf type) endc :=
  List.all_iff_forall_prop.mp (by decide)

theorem type_of_assigns {t : Tlv} (assigned : assigns t = true) :
    t.type ∈ [(0x10 : UInt8), 0x11, 0x12, 0x13, 0x14] ∧ extends5g t = false := by
  simp only [assigns, Bool.and_eq_true, List.contains_iff_mem] at assigned
  refine ⟨assigned.1, ?_⟩
  have other : t.type ≠ 0x4A := by
    intro same
    rw [same] at assigned
    exact absurd assigned.1 (by decide)
  simp [extends5g, other]

theorem lteInService_iff {t : Tlv} : lteInService t = true ↔ assigns t = true ∧ t.type = 0x14 := by
  simp only [lteInService, assigns, Bool.and_eq_true, decide_eq_true_eq, List.contains_iff_mem]
  constructor
  · rintro ⟨type, service⟩
    exact ⟨⟨by rw [type]; decide, service⟩, type⟩
  · rintro ⟨⟨-, service⟩, type⟩
    exact ⟨type, service⟩

theorem foldl_type5g {ts : List Tlv} (distinct : (ts.map Tlv.type).Nodup) (apart : NoConflict ts) :
    type5gOf (ts.foldl step {}).dataCapList (ts.foldl step {}).deviceClass (ts.foldl step {}).endc =
      (expected ts).type5g := by
  rw [foldl_endc distinct, expected]
  cases extended : ts.any extends5g
  · rcases foldl_assigned extended with ⟨caps, device, nothing⟩ | ⟨t, inside, assigned, caps, device⟩
    · have none : ts.any lteInService = false := by
        rw [List.any_eq_false] at nothing ⊢
        intro t inside lte
        exact nothing t inside (lteInService_iff.mp lte).1
      rw [caps, device, none]
      cases dualConnectivity ts <;> rfl
    · rw [caps, device, type5gOf_assigned t.type (type_of_assigns assigned).1]
      by_cases lte : t.type = 0x14
      · have some : ts.any lteInService = true :=
          List.any_eq_true.mpr ⟨t, inside, lteInService_iff.mpr ⟨assigned, lte⟩⟩
        simp [lte, some]
      · have other : ¬ (ts.any lteInService && dualConnectivity ts) = true := by
          intro both
          rw [Bool.and_eq_true] at both
          exact lte (apart.nsa both.1 both.2 t inside assigned)
        simp only [lte, false_and, if_false, other, Bool.false_eq_true]
  · obtain ⟨caps, device⟩ := foldl_extended (apart.sa extended)
    rw [caps, device, extended]
    cases dualConnectivity ts <;> rfl

/-- Without a conflict the result is told by what records there are. -/
theorem result_expected {ts : List Tlv} (distinct : (ts.map Tlv.type).Nodup) (apart : NoConflict ts) :
    (ts.foldl step {}).result = expected ts := by
  have cdma : (ts.foldl step {}).isCdma = (ts.any isCdma && !ts.any isLte) := by
    simpa using @foldl_isCdma ts {} (by simp)
  rw [State.result, foldl_psAttached, cdma, foldl_type5g distinct apart, foldl_hdrPersonality apart.hdr]
  rfl

/-! ### Two orders -/

section

variable {ts us : List Tlv}

theorem any_perm (perm : us.Perm ts) (f : Tlv → Bool) : us.any f = ts.any f := by
  rw [Bool.eq_iff_iff, List.any_eq_true, List.any_eq_true]
  constructor
  · rintro ⟨t, inside, holds⟩
    exact ⟨t, perm.mem_iff.mp inside, holds⟩
  · rintro ⟨t, inside, holds⟩
    exact ⟨t, perm.mem_iff.mpr inside, holds⟩

theorem dualConnectivity_perm (perm : us.Perm ts) : dualConnectivity us = dualConnectivity ts := by
  rw [dualConnectivity, dualConnectivity, any_perm perm, any_perm perm]

theorem NoConflict.perm (apart : NoConflict ts) (perm : us.Perm ts) : NoConflict us := by
  refine ⟨?_, ?_, ?_⟩
  · rw [any_perm perm, any_perm perm]
    exact apart.sa
  · rw [any_perm perm, dualConnectivity_perm perm]
    intro lte dual t inside
    exact apart.nsa lte dual t (perm.mem_iff.mp inside)
  · rw [any_perm perm, any_perm perm]
    exact apart.hdr

theorem expected_perm (perm : us.Perm ts) : expected us = expected ts := by
  simp only [expected, any_perm perm, dualConnectivity_perm perm]

/-- Two of the records come last, in either order. -/
theorem two_orders {x y : Tlv} (first : x ∈ ts) (second : y ∈ ts) (other : x ≠ y) :
    ∃ rest, (rest ++ [x, y]).Perm ts ∧ (rest ++ [y, x]).Perm ts := by
  have front : ts.Perm (x :: ts.erase x) := List.perm_cons_erase first
  have inside : y ∈ ts.erase x := (List.mem_erase_of_ne (Ne.symm other)).mpr second
  have next : (ts.erase x).Perm (y :: (ts.erase x).erase y) := List.perm_cons_erase inside
  have both : ts.Perm ([x, y] ++ (ts.erase x).erase y) := front.trans (next.cons x)
  refine ⟨(ts.erase x).erase y, ?_, ?_⟩
  · exact (List.perm_append_comm.trans both.symm)
  · exact (List.perm_append_comm.trans (List.Perm.swap x y _)).trans both.symm

end

/-- The responses with these records that are not rejected give the same result in whichever order
they stand in it, and whatever the variables have been before. -/
def OrderFree (ts : List Tlv) : Prop :=
  ∀ before before' us us' m m', us.Perm ts → us'.Perm ts → Carries m us → Carries m' us' →
    qmiRspCheck m = true → qmiRspCheck m' = true →
      requestRegistrationState2 before m = requestRegistrationState2 before' m'

/-- The same of all responses with these records. A rejected one leaves the variables alone. -/
def AnyOrder (ts : List Tlv) : Prop :=
  ∀ before us us' m m', us.Perm ts → us'.Perm ts → Carries m us → Carries m' us' →
    requestRegistrationState2 before m = requestRegistrationState2 before m'

/-- The records of a response: the result, and others of different types that are long enough for what
is read of them, not more than a response can hold. -/
structure Response (ts : List Tlv) : Prop where
  result : ∃ r ∈ ts, r.type = 0x02 ∧ r.value.length = 4
  distinct : (ts.map Tlv.type).Nodup
  complete : ∀ t ∈ ts, Complete t
  fits : (Tlv.encodeAll ts).length < 2 ^ 16

/-- Those of a response that reports a success. -/
structure Records (ts : List Tlv) : Prop where
  result : success ∈ ts
  distinct : (ts.map Tlv.type).Nodup
  complete : ∀ t ∈ ts, Complete t
  fits : (Tlv.encodeAll ts).length < 2 ^ 16

section

variable {ts us us' : List Tlv}

theorem Records.perm (records : Records ts) (perm : us.Perm ts) : Records us where
  result := perm.mem_iff.mpr records.result
  distinct := (perm.map Tlv.type).nodup_iff.mpr records.distinct
  complete := fun t inside => records.complete t (perm.mem_iff.mp inside)
  fits := by
    have same := (perm.flatMap_right Tlv.encode).length_eq
    rw [Tlv.encodeAll, same]
    exact records.fits

/-- The result and the others behind it. -/
theorem Records.front (records : Records ts) (perm : us.Perm (ts.erase success)) :
    (success :: us).Perm ts :=
  (perm.cons success).trans (List.perm_cons_erase records.result).symm

/-- There is a response for each order of the others, and it is not rejected. -/
theorem OrderFree.results (free : OrderFree ts) (records : Records ts)
    (perm : us.Perm (ts.erase success)) (perm' : us'.Perm (ts.erase success)) :
    (us.foldl step {}).result = (us'.foldl step {}).result := by
  have first := carries_messageOf (records.perm (records.front perm)).fits
  have second := carries_messageOf (records.perm (records.front perm')).fits
  have before : Result := ⟨false, false, 0, 0⟩
  have same := free before before _ _ _ _ (records.front perm) (records.front perm') first second
    first.check_of_success second.check_of_success
  -- The result itself says nothing of the registration.
  rwa [requestRegistrationState2_eq _ first first.check_of_success
      (records.perm (records.front perm)).complete,
    requestRegistrationState2_eq _ second second.check_of_success
      (records.perm (records.front perm')).complete] at same

/-- A record of another type stands behind the result. -/
theorem mem_erase_success {t : Tlv} (member : t ∈ ts) (other : t.type ≠ 0x02) :
    t ∈ ts.erase success := by
  refine (List.mem_erase_of_ne ?_).mpr member
  rintro rfl
  exact other rfl

theorem type_ne_of_assigns {t : Tlv} (assigned : assigns t = true) : t.type ≠ 0x02 := by
  intro same
  have member := (type_of_assigns assigned).1
  rw [same] at member
  exact absurd member (by decide)

theorem type_ne_of_attaches {t : Tlv} (attached : attaches t = true) : t.type ≠ 0x02 := by
  intro same
  rw [attaches, same] at attached
  exact absurd attached (by simp)

/-- A record that assigns and the one that extends it. -/
theorem OrderFree.sa (free : OrderFree ts) (records : Records ts) {n a : Tlv} (extending : n ∈ ts)
    (extended : extends5g n = true) (assigning : a ∈ ts) : assigns a = false := by
  by_contra found
  have assigned : assigns a = true := by simpa using found
  obtain ⟨type, apart⟩ := type_of_assigns assigned
  have unassigned : assigns n = false := by
    by_contra both
    rw [(type_of_assigns (by simpa using both)).2] at extended
    exact absurd extended (by decide)
  have other : a ≠ n := by
    rintro rfl
    rw [apart] at extended
    exact absurd extended (by decide)
  have behind : n.type ≠ 0x02 := by
    intro same
    rw [extends5g, same] at extended
    exact absurd extended (by simp)
  obtain ⟨rest, one, two⟩ := two_orders
    (mem_erase_success assigning (type_ne_of_assigns assigned)) (mem_erase_success extending behind)
    other
  have same := congrArg Result.type5g (free.results records one two)
  simp only [State.result, List.foldl_append, List.foldl_cons, List.foldl_nil, step_eq, assigned,
    unassigned, extended, apart, if_true, if_false, Bool.false_eq_true] at same
  rw [type5gOf_extended _ type] at same
  exact type5gOf_assigned_ne _ type _ same

/-- The result says nothing of dual connectivity. -/
theorem Records.endc (records : Records ts) (perm : us.Perm (ts.erase success)) :
    (us.foldl step {}).endc = dualConnectivity ts := by
  have front := records.front perm
  have whole := foldl_endc (records.perm front).distinct
  rw [dualConnectivity_perm front] at whole
  exact whole

/-- LTE and another record that assigns, where dual connectivity is offered. -/
theorem OrderFree.nsa (free : OrderFree ts) (records : Records ts)
    (dual : dualConnectivity ts = true) {l b : Tlv} (lte : l ∈ ts) (service : lteInService l = true)
    (assigning : b ∈ ts) (assigned : assigns b = true) : b.type = 0x14 := by
  by_contra different
  obtain ⟨type, -⟩ := type_of_assigns assigned
  obtain ⟨assigned', lteType⟩ := lteInService_iff.mp service
  have other : b ≠ l := by
    rintro rfl
    exact different lteType
  obtain ⟨rest, one, two⟩ := two_orders
    (mem_erase_success assigning (type_ne_of_assigns assigned))
    (mem_erase_success lte (type_ne_of_assigns assigned')) other
  have same := congrArg Result.type5g (free.results records one two)
  simp only [State.result, records.endc one, records.endc two, dual] at same
  simp only [List.foldl_append, List.foldl_cons, List.foldl_nil, step_eq, assigned, assigned',
    if_true] at same
  rw [type5gOf_assigned _ type, lteType, type5gOf_assigned 0x14 (by decide)] at same
  simp [different, class5gNsa] at same

/-- The personality of a record that does not attach, and one that does. -/
theorem OrderFree.hdr (free : OrderFree ts) (records : Records ts) {h o : Tlv} (member : h ∈ ts)
    (personality : isEHrpd h = true) (detached : attaches h = false) (inside : o ∈ ts) :
    attaches o = false := by
  by_contra found
  have attached : attaches o = true := by simpa using found
  have other : o ≠ h := by
    rintro rfl
    rw [detached] at attached
    exact absurd attached (by decide)
  have hdr : h.type = 0x16 := by
    simp only [isEHrpd, Bool.and_eq_true, decide_eq_true_eq] at personality
    exact personality.1
  have member' : h ∈ ts.erase success :=
    mem_erase_success member (by rw [hdr]; decide)
  have inside' := mem_erase_success inside (type_ne_of_attaches attached)
  -- The record comes first, or last.
  have front : (h :: (ts.erase success).erase h).Perm (ts.erase success) :=
    (List.perm_cons_erase member').symm
  have back : ((ts.erase success).erase h ++ [h]).Perm (ts.erase success) :=
    (List.perm_append_comm).trans front
  have before : ((ts.erase success).erase h).any attaches = true :=
    List.any_eq_true.mpr ⟨o, (List.mem_erase_of_ne other).mpr inside', attached⟩
  have same := congrArg Result.hdrPersonality (free.results records front back)
  have last : (List.foldl step {} ((ts.erase success).erase h ++ [h])).hdrPersonality = 2 := by
    rw [List.foldl_append, List.foldl_cons, List.foldl_nil, step_eq]
    simp [foldl_psAttached, before, personality]
  have others : ∀ t ∈ (ts.erase success).erase h, isEHrpd t = false := by
    intro t rest
    have distinct := (records.perm (records.front front)).distinct
    rw [List.map_cons, List.nodup_cons, List.map_cons, List.nodup_cons] at distinct
    have type : t.type ≠ 0x16 := by
      intro equal
      exact distinct.2.1 (hdr.trans equal.symm ▸ List.mem_map_of_mem rest)
    simp [isEHrpd, type]
  have first : (List.foldl step {} (h :: (ts.erase success).erase h)).hdrPersonality = 0 := by
    rw [List.foldl_cons, foldl_hdrPersonality_kept others, step_eq, detached]
    rfl
  simp only [State.result, first, last] at same
  exact absurd same (by decide)

theorem orderFree_of_noConflict (records : Records ts) (apart : NoConflict ts) : OrderFree ts := by
  intro before before' us us' m m' perm perm' carries carries' checked checked'
  rw [requestRegistrationState2_eq _ carries checked (records.perm perm).complete,
    requestRegistrationState2_eq _ carries' checked' (records.perm perm').complete,
    result_expected (records.perm perm).distinct (apart.perm perm),
    result_expected (records.perm perm').distinct (apart.perm perm'),
    expected_perm perm, expected_perm perm']

theorem OrderFree.noConflict (free : OrderFree ts) (records : Records ts) : NoConflict ts := by
  refine ⟨fun extended => ?_, fun lte dual t inside assigned => ?_, fun found => ?_⟩
  · obtain ⟨n, extending, extended⟩ := List.any_eq_true.mp extended
    rw [List.any_eq_false]
    intro a assigning
    simp [free.sa records extending extended assigning]
  · obtain ⟨l, member, service⟩ := List.any_eq_true.mp lte
    exact free.nsa records dual member service inside assigned
  · obtain ⟨h, member, both⟩ := List.any_eq_true.mp found
    simp only [Bool.and_eq_true, Bool.not_eq_true'] at both
    rw [List.any_eq_false]
    intro o inside
    simp [free.hdr records member both.1 both.2 inside]

/-- A response that is rejected keeps what the variables have been, and so differs from one that is
not, for some of these values. -/
theorem AnyOrder.check_eq (any : AnyOrder ts) {m m' : Memory} (perm : us.Perm ts)
    (perm' : us'.Perm ts) (carries : Carries m us) (carries' : Carries m' us') :
    qmiRspCheck m = qmiRspCheck m' := by
  have differs {a b : Memory} {as bs : List Tlv} (ordered : as.Perm ts) (ordered' : bs.Perm ts)
      (holds : Carries a as) (holds' : Carries b bs) (passes : qmiRspCheck a = true) :
      qmiRspCheck b = true := by
    by_contra rejected
    -- One that passes sets the variable, whatever it has been.
    let found := (walkTlvs a (bodyLength a).toNat 4 {}).result
    have same := any { found with isCdma := !found.isCdma } _ _ _ _ ordered ordered' holds holds'
    rw [requestRegistrationState2, requestRegistrationState2, if_pos passes, if_neg rejected] at same
    have cdma : found.isCdma = !found.isCdma := congrArg Result.isCdma same
    cases value : found.isCdma <;> rw [value] at cdma <;> exact absurd cdma (by decide)
  exact Bool.eq_iff_iff.mpr ⟨differs perm perm' carries carries', differs perm' perm carries' carries⟩

/-- All orders of a success pass, if they give the same state. -/
theorem AnyOrder.checked (any : AnyOrder ts) (records : Records ts) {m : Memory} (perm : us.Perm ts)
    (carries : Carries m us) : qmiRspCheck m = true := by
  have front := records.front (List.Perm.refl _)
  have first := carries_messageOf (records.perm front).fits
  rw [any.check_eq perm front carries first, first.check_of_success]

theorem AnyOrder.free (any : AnyOrder ts) : OrderFree ts := by
  intro before before' us us' m m' perm perm' carries carries' checked checked'
  have same := any before us us' m m' perm perm' carries carries'
  simp only [requestRegistrationState2, checked, checked', if_true] at same ⊢
  exact same

/-- The orders of a failure give the same state exactly if none of them passes. -/
theorem Response.anyOrder_of_failure (response : Response ts) (failure : success ∉ ts) :
    AnyOrder ts ↔ ∀ us m, us.Perm ts → Carries m us → qmiRspCheck m = false := by
  constructor
  · intro any us m perm carries
    obtain ⟨r, member, type, length⟩ := response.result
    have front : (r :: ts.erase r).Perm ts := (List.perm_cons_erase member).symm
    have fits : (Tlv.encodeAll (r :: ts.erase r)).length < 2 ^ 16 := by
      rw [Tlv.encodeAll, (front.flatMap_right Tlv.encode).length_eq]
      exact response.fits
    have first := carries_messageOf fits
    rw [any.check_eq perm front carries first]
    exact first.check_of_failure type length fun same => failure (same ▸ member)
  · intro rejected before us us' m m' perm perm' carries carries'
    simp only [requestRegistrationState2, rejected us m perm carries, rejected us' m' perm' carries',
      if_neg Bool.false_ne_true]

theorem Records.orderFree_iff_noConflict (records : Records ts) : OrderFree ts ↔ NoConflict ts :=
  ⟨fun free => free.noConflict records, orderFree_of_noConflict records⟩

theorem Records.anyOrder_iff (records : Records ts) :
    AnyOrder ts ↔ (∀ us m, us.Perm ts → Carries m us → qmiRspCheck m = true) ∧ NoConflict ts := by
  constructor
  · intro any
    exact ⟨fun us m perm carries => any.checked records perm carries,
      any.free.noConflict records⟩
  · rintro ⟨pass, apart⟩ before us us' m m' perm perm' carries carries'
    exact orderFree_of_noConflict records apart before before us us' m m' perm perm' carries carries'
      (pass us m perm carries) (pass us' m' perm' carries')

/-- For a success, the result does not depend on the order of the records in the responses that are
not rejected exactly if the records do not conflict; and for all orders, exactly if no order is
rejected besides. For a failure, it does not depend on the order exactly if all are rejected. -/
theorem orderFree_iff (response : Response ts) :
    (success ∈ ts → (OrderFree ts ↔ NoConflict ts) ∧
      (AnyOrder ts ↔ (∀ us m, us.Perm ts → Carries m us → qmiRspCheck m = true) ∧
        NoConflict ts)) ∧
      (success ∉ ts →
        (AnyOrder ts ↔ ∀ us m, us.Perm ts → Carries m us → qmiRspCheck m = false)) := by
  refine ⟨fun succeeds => ?_, response.anyOrder_of_failure⟩
  have records : Records ts := ⟨succeeds, response.distinct, response.complete, response.fits⟩
  exact ⟨records.orderFree_iff_noConflict, records.anyOrder_iff⟩

end

/-- A modem that is attached over LTE. -/
def lteRecords : List Tlv := [success, ⟨0x14, [2, 2, 1], by decide⟩, ⟨0x19, [1, 2], by decide⟩]

theorem lte_order_free : OrderFree lteRecords :=
  ((orderFree_iff ⟨⟨success, by decide, by decide, by decide⟩, by decide, by decide, by decide⟩).1
    (by decide)).1.mpr ⟨by decide, by decide, by decide⟩

/-- LTE and 5G are both in service. -/
def lteAnd5gRecords : List Tlv :=
  [success, ⟨0x14, [2, 2, 1], by decide⟩, ⟨0x4A, [2, 2, 1], by decide⟩]

/-- The modem is on 5G only if this is said after LTE. -/
theorem lte_and_5g_not_order_free :
    Records lteAnd5gRecords ∧ ¬ OrderFree lteAnd5gRecords ∧ ¬ AnyOrder lteAnd5gRecords := by
  have records : Records lteAnd5gRecords := ⟨by decide, by decide, by decide, by decide⟩
  have stuck : ¬ OrderFree lteAnd5gRecords := by
    intro free
    have apart := @OrderFree.sa _ free records ⟨0x4A, [2, 2, 1], by decide⟩
      ⟨0x14, [2, 2, 1], by decide⟩ (by decide) (by decide) (by decide)
    exact absurd apart (by decide)
  exact ⟨records, stuck, fun any => stuck any.free⟩

end LorawanFeeds.QmiClient.Registration
