import LorawanFeeds.Lib.Run
import LorawanFeeds.QmiClient.Compose
import LorawanFeeds.QmiClient.ProfileList

/-!
# Looking up a profile of the modem

`requestGetProfile` of `QMIThread.c`, answer by answer. It asks for the list of profiles, then for the
settings of one after the other until one has the context that is wanted. If none has, it creates a
profile and starts again. A response is freed before the next request is sent.
-/
namespace LorawanFeeds.QmiClient.ProfileLookup

open Lib Memory ProfileList

/-! ### Answers -/

/-- What `QmiThreadSendQMI` returns, and the response. -/
structure Answer where
  err : Int
  response : Option Memory

/-- `qmi_rsp_check_and_return`: the code to return at once, or the response. -/
def Answer.check (a : Answer) : Except Int Memory :=
  match a.response with
  | none => .error a.err
  | some m =>
    if a.err < 0 then .error a.err
    else if m.le16 7 ≠ 0 ∨ m.le16 9 ≠ 0 then .error (m.le16 9).toNat
    else .ok m

theorem passed_of_check {a : Answer} {m : Memory} (checked : a.check = .ok m) :
    qmiRspCheck m = true := by
  rw [Answer.check.eq_def] at checked
  split at checked
  · cases checked
  · split at checked
    · cases checked
    · split at checked
      · cases checked
      next passed =>
        cases checked
        simpa [qmiRspCheck, not_or] using passed

/-- The value of a record, and its first byte. There is nothing if the record is absent. -/
def textOf (m : Memory) (type : UInt8) : List UInt8 :=
  (getTLV m type.toNat).elim [] fun p => m.read (p + 3) (Tlv.lengthAt m p)

def byteOf (m : Memory) (type : UInt8) : UInt8 := (getTLV m type.toNat).elim 0 fun p => m (p + 3)

/-- `uchar2char` into an array of 64 bytes: what is copied before the zero. -/
def uchar2char (value : List UInt8) : List UInt8 := value.take 63

/-- A byte in an `int`. -/
def ofUChar (b : UInt8) : Int32 := Int32.ofNat b.toNat

/-! ### The lookup -/

/-- The members of `PROFILE_T` that the profile of the modem is about. -/
structure Profile where
  call : Compose.CallProfile
  pdp : Int32
  enableIpv4 : Bool
  enableIpv6 : Bool
  oldApn : List UInt8 := []
  oldUser : List UInt8 := []
  oldPassword : List UInt8 := []
  oldAuth : Int32 := 0
  oldIptype : Int32 := 0
  deriving DecidableEq, Repr

/-- What the function must not do. -/
inductive Fault where
  | absentResponse
  | freedResponse
  | absentTlv
  | ipStr
  | profileIndexs
  deriving DecidableEq, Repr

/-- The answer that the function waits for, or how it has ended. -/
inductive Stage where
  | list
  | settings (indexs : List UInt8) (i : Nat)
  | create
  | done (ret : Int)
  | fault (fault : Fault)
  deriving DecidableEq, Repr

/-- The state of the function. The last settings that were received are kept with the index they were
asked for. -/
structure Lookup where
  profile : Profile
  stage : Stage
  received : Option (Int32 × Memory) := none

/-- `iptype`, by the families that are enabled. -/
def iptypeOf (profile : Profile) : Int32 :=
  if profile.enableIpv4 ∧ profile.enableIpv6 then 3 else if profile.enableIpv6 then 2 else 0

/-- The beginning of `requestGetProfile`, up to its first request. -/
def start (profile : Profile) : Lookup where
  profile := { profile with
    call := { profile.call with iptype := iptypeOf profile }
    oldApn := []
    oldUser := []
    oldPassword := []
    oldAuth := 0
    oldIptype := 0 }
  stage := if profile.pdp = 0 then .done 0 else .list

namespace Lookup

/-- The request for the settings of a profile in the list. -/
def ask (s : Lookup) (indexs : List UInt8) (i : Nat) : Lookup :=
  { s with
    profile := { s.profile with
      call := { s.profile.call with profileIndex := ofUChar (indexs.getD i 0) } }
    stage := .settings indexs i }

/-- What follows the loop, with the settings that it has stopped at. -/
def finish (s : Lookup) (m : Memory) : Lookup :=
  { s with
    profile := { s.profile with
      oldApn := uchar2char (textOf m 0x14)
      oldUser := uchar2char (textOf m 0x1B)
      oldPassword := uchar2char (textOf m 0x1C)
      oldAuth := ofUChar (byteOf m 0x1D)
      oldIptype := ofUChar (byteOf m 0x11) }
    -- the name of the type is logged
    stage := if byteOf m 0x11 ≤ 3 then .done 0 else .fault .ipStr }

/-- The list of profiles has been received. -/
def onList (s : Lookup) (a : Answer) : Lookup :=
  match a.response with
  -- its length is read before it is checked
  | none => { s with stage := .fault .absentResponse }
  | some _ =>
    match a.check with
    | .error ret => { s with stage := .done ret }
    | .ok m =>
      match getTLV m 0x01 with
      | none => { s with stage := .fault .absentTlv }
      | some p =>
        let indexs := profileIndexs (m.tail (p + 3))
        if 42 < indexs.length then { s with stage := .fault .profileIndexs }
        -- the loop is not entered, and the list has been freed
        else if indexs = [] then { s with stage := .fault .freedResponse }
        else s.ask indexs 0

/-- Settings have been received. -/
def onSettings (s : Lookup) (indexs : List UInt8) (i : Nat) (a : Answer) : Lookup :=
  match a.check with
  | .error ret => { s with stage := .done ret }
  | .ok m =>
    let s := { s with received := some (s.profile.call.profileIndex, m) }
    match getTLV m 0x25 with
    | none => { s with stage := .fault .absentTlv }
    | some p =>
      if ofUChar (m (p + 3)) = s.profile.pdp then s.finish m
      else if i + 1 = indexs.length then { s with stage := .create }
      else s.ask indexs (i + 1)

/-- A profile has been created. -/
def onCreate (s : Lookup) (a : Answer) : Lookup :=
  match a.check with
  | .error ret => { s with stage := .done ret }
  | .ok _ => { s with stage := .list }

/-- `requestGetProfile`, as it goes on with an answer. -/
def step (s : Lookup) (a : Answer) : Lookup :=
  match s.stage with
  | .list => s.onList a
  | .settings indexs i => s.onSettings indexs i a
  | .create => s.onCreate a
  | .done _ => s
  | .fault _ => s

end Lookup

/-! ### Sound lookups -/

/-- The profile has the values of these settings. -/
structure Copied (profile : Profile) (m : Memory) : Prop where
  context : ∃ p, getTLV m 0x25 = some p ∧ ofUChar (m (p + 3)) = profile.pdp
  apn : profile.oldApn = textOf m 0x14
  user : profile.oldUser = textOf m 0x1B
  password : profile.oldPassword = textOf m 0x1C
  auth : profile.oldAuth = ofUChar (byteOf m 0x1D)
  iptype : profile.oldIptype = ofUChar (byteOf m 0x11)

/-- Nothing has gone wrong, and a success is that of the settings of the chosen profile. -/
structure Sound (s : Lookup) : Prop where
  intact : ∀ fault, s.stage ≠ .fault fault
  success : s.stage = .done 0 → s.profile.pdp ≠ 0 →
    ∃ m, s.received = some (s.profile.call.profileIndex, m) ∧ Copied s.profile m

/-- A failure is told by a code that is not zero. -/
def Telling (a : Answer) : Prop := a.check ≠ .error 0

/-- A list of profiles that the function can take. -/
structure ListAnswer (a : Answer) : Prop where
  telling : Telling a
  answered : a.response ≠ none
  list : ∀ m, a.check = .ok m → ∃ p, getTLV m 0x01 = some p ∧ m (p + 3) ≠ 0 ∧ m (p + 3) ≤ 42

/-- Settings that the function can take: there is a context, and if it is the one that is wanted, the
type is known and the texts fit. -/
structure SettingsAnswer (pdp : Int32) (a : Answer) : Prop where
  telling : Telling a
  context : ∀ m, a.check = .ok m → ∃ p, getTLV m 0x25 = some p ∧
    (ofUChar (m (p + 3)) = pdp → byteOf m 0x11 ≤ 3 ∧
      ∀ type ∈ [(0x14 : UInt8), 0x1B, 0x1C], (textOf m type).length ≤ 63)

/-- The answer is one that the function can take where it stands. -/
def Takes (s : Lookup) (a : Answer) : Prop :=
  match s.stage with
  | .list => ListAnswer a
  | .settings _ _ => SettingsAnswer s.profile.pdp a
  | .create => Telling a
  | .done _ => True
  | .fault _ => True

theorem uchar2char_eq {value : List UInt8} (fits : value.length ≤ 63) : uchar2char value = value :=
  List.take_of_length_le fits

section

variable {s : Lookup} {a : Answer}

/-- The function waits for another answer. -/
theorem sound_waiting (intact : ∀ fault, s.stage ≠ .fault fault) (waiting : ∀ ret, s.stage ≠ .done ret) :
    Sound s :=
  ⟨intact, fun done => absurd done (waiting 0)⟩

/-- It returns a failure. -/
theorem sound_failed {ret : Int} (failure : ret ≠ 0) : Sound { s with stage := .done ret } := by
  refine ⟨by simp, fun done => ?_⟩
  cases done
  exact absurd rfl failure

theorem failure_of_telling (telling : Telling a) {ret : Int} (failed : a.check = .error ret) :
    ret ≠ 0 := by
  rintro rfl
  exact telling failed

theorem ask_sound (indexs : List UInt8) (i : Nat) : Sound (s.ask indexs i) :=
  sound_waiting (by simp [Lookup.ask]) (by simp [Lookup.ask])

/-- A list that is not rejected is followed by the request for the settings of its first profile. -/
theorem onList_asks (takes : ListAnswer a) {m : Memory} (checked : a.check = .ok m) :
    s.onList a = s.ask (profileEntries m) 0 := by
  obtain ⟨r, answered⟩ := Option.ne_none_iff_exists'.mp takes.answered
  obtain ⟨p, found, some, few⟩ := takes.list m checked
  have number : (profileIndexs (m.tail (p + 3))).length = (m (p + 3)).toNat :=
    walkProfiles_length _ _ _
  have positive : (m (p + 3)).toNat ≠ 0 := fun zero => some (UInt8.toNat_inj.mp zero)
  have bound : (m (p + 3)).toNat ≤ 42 := UInt8.le_iff_toNat_le.mp few
  have nonempty : profileIndexs (m.tail (p + 3)) ≠ [] := by
    intro empty
    rw [empty] at number
    exact positive number.symm
  simp only [Lookup.onList, answered, checked, found, nonempty, if_false]
  rw [if_neg (by omega), profileEntries_of_check (passed_of_check checked) found]

theorem onList_sound (takes : ListAnswer a) : Sound (s.onList a) := by
  cases checked : a.check with
  | error ret =>
    obtain ⟨r, answered⟩ := Option.ne_none_iff_exists'.mp takes.answered
    simp only [Lookup.onList, answered, checked]
    exact sound_failed (failure_of_telling takes.telling checked)
  | ok m =>
    rw [onList_asks takes checked]
    exact ask_sound _ 0

theorem onSettings_sound {indexs : List UInt8} {i : Nat} (takes : SettingsAnswer s.profile.pdp a) :
    Sound (s.onSettings indexs i a) := by
  rw [Lookup.onSettings]
  cases checked : a.check with
  | error ret => exact sound_failed (failure_of_telling takes.telling checked)
  | ok m =>
    obtain ⟨p, found, chosen⟩ := takes.context m checked
    simp only [found]
    by_cases context : ofUChar (m (p + 3)) = s.profile.pdp
    · obtain ⟨known, fit⟩ := chosen context
      rw [if_pos context, Lookup.finish, if_pos known]
      refine ⟨by simp, fun _ _ => ⟨m, rfl, ⟨⟨p, found, context⟩, ?_, ?_, ?_, rfl, rfl⟩⟩⟩
      · exact uchar2char_eq (fit 0x14 (by simp))
      · exact uchar2char_eq (fit 0x1B (by simp))
      · exact uchar2char_eq (fit 0x1C (by simp))
    · rw [if_neg context]
      split
      · exact sound_waiting (by simp) (by simp)
      · exact ask_sound _ _

theorem onCreate_sound (telling : Telling a) : Sound (s.onCreate a) := by
  rw [Lookup.onCreate]
  cases checked : a.check with
  | error ret => exact sound_failed (failure_of_telling telling checked)
  | ok m => exact sound_waiting (by simp) (by simp)

theorem step_sound (sound : Sound s) (takes : Takes s a) : Sound (s.step a) := by
  rw [Lookup.step]
  rw [Takes] at takes
  split <;> rename_i stage <;> rw [stage] at takes
  · exact onList_sound takes
  · exact onSettings_sound takes
  · exact onCreate_sound takes
  · exact sound
  · exact sound

end

/-- After every sequence of answers that the function can take, nothing has gone wrong, and a success
is that of the settings of the chosen profile. -/
theorem lookup_sound (profile : Profile) (answers : List Answer)
    (taken : Guarded Lookup.step Takes (start profile) answers) :
    Sound (run Lookup.step (start profile) answers) := by
  apply guarded_invariant Lookup.step Takes Sound ?_ _ ?_ answers taken
  · intro s a sound takes
    exact step_sound sound takes
  · by_cases none : profile.pdp = 0
    · refine ⟨by simp [start, none], fun _ wanted => ?_⟩
      exact absurd none wanted
    · exact sound_waiting (by simp [start, none]) (by simp [start, none])

/-- The context 1 is wanted, for IPv4. -/
def wanted : Profile where
  call := ⟨some ⟨[105, 111, 116], by decide⟩, some ⟨[], Compose.nil_ended⟩,
    some ⟨[], Compose.nil_ended⟩, 0, 0, 4, 0⟩
  pdp := 1
  enableIpv4 := true
  enableIpv6 := false

/-- A list of one profile, and the settings of it. -/
def oneListed : List Tlv := [⟨0x02, [0, 0, 0, 0], success_fits⟩, ⟨0x01, [1, 0, 1, 0], by decide⟩]
def oneSettings : List Tlv :=
  [⟨0x02, [0, 0, 0, 0], success_fits⟩, ⟨0x11, [0], by decide⟩, ⟨0x14, [105, 111, 116], by decide⟩,
    ⟨0x25, [1], by decide⟩]

theorem oneListed_takes : ListAnswer ⟨0, some (messageOf oneListed)⟩ := by
  have checked : (⟨0, some (messageOf oneListed)⟩ : Answer).check = .ok (messageOf oneListed) := rfl
  obtain ⟨p, found, holds⟩ := @Carries.getTLV_some _ oneListed (carries_messageOf (by decide)) 0x01
    ⟨0x01, [1, 0, 1, 0], by decide⟩ rfl
  have number : messageOf oneListed (p + 3) = 1 := Tlv.holds_value holds 0 (by decide)
  refine ⟨by rw [Telling, checked]; simp, by simp, ?_⟩
  rintro m ok
  cases checked.symm.trans ok
  exact ⟨p, found, by rw [number]; decide, by rw [number]; decide⟩

theorem oneSettings_takes : SettingsAnswer 1 ⟨0, some (messageOf oneSettings)⟩ := by
  have checked : (⟨0, some (messageOf oneSettings)⟩ : Answer).check = .ok (messageOf oneSettings) := rfl
  have carries : Carries (messageOf oneSettings) oneSettings := carries_messageOf (by decide)
  obtain ⟨p, found, -⟩ := @Carries.getTLV_some _ oneSettings carries 0x25 ⟨0x25, [1], by decide⟩ rfl
  obtain ⟨q, iptype, value⟩ := @Carries.getTLV_some _ oneSettings carries 0x11 ⟨0x11, [0], by decide⟩ rfl
  obtain ⟨r, apn, text⟩ := @Carries.getTLV_some _ oneSettings carries 0x14
    ⟨0x14, [105, 111, 116], by decide⟩ rfl
  refine ⟨by rw [Telling, checked]; simp, ?_⟩
  rintro m ok
  cases checked.symm.trans ok
  refine ⟨p, found, fun _ => ⟨?_, ?_⟩⟩
  · have known : messageOf oneSettings (q + 3) = 0 := Tlv.holds_value value 0 (by decide)
    rw [byteOf, iptype, Option.elim_some, known]
    decide
  · simp only [List.mem_cons, List.not_mem_nil, or_false, forall_eq_or_imp, forall_eq]
    refine ⟨?_, ?_, ?_⟩
    · rw [textOf, apn, Option.elim_some, Tlv.lengthAt_encode text]
      simp [Memory.read]
    · rw [textOf, carries.getTLV_none (by decide)]
      simp
    · rw [textOf, carries.getTLV_none (by decide)]
      simp

theorem one_profile_found :
    Sound (run Lookup.step (start wanted)
      [⟨0, some (messageOf oneListed)⟩, ⟨0, some (messageOf oneSettings)⟩]) := by
  apply lookup_sound
  have asks := @onList_asks (start wanted) _ oneListed_takes _ rfl
  have waits : (start wanted).stage = .list := by decide
  have first : Takes (start wanted) ⟨0, some (messageOf oneListed)⟩ := by
    rw [Takes, waits]
    exact oneListed_takes
  refine ⟨first, ?_, trivial⟩
  rw [Lookup.step, waits, asks]
  exact oneSettings_takes

/-- The request for the list is not answered in time. -/
theorem missing_list_faults : ¬ Sound (run Lookup.step (start wanted) [⟨110, none⟩]) := by
  intro sound
  exact sound.intact .absentResponse (by decide)

end LorawanFeeds.QmiClient.ProfileLookup
