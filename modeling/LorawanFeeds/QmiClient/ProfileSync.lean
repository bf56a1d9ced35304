import Mathlib.Data.List.TakeWhile
import Mathlib.Tactic.Tauto
import LorawanFeeds.QmiClient.ProfileLookup

/-!
# The profile of the modem and the requested one

`requestSetProfile` of `QMIThread.c`, after `requestGetProfile`. It compares what the lookup has copied
out of the settings with what is requested, and sends a modify request unless both are the same. The
modem keeps the records of a modify request that it accepts, and returns them as its settings.
-/
namespace LorawanFeeds.QmiClient.ProfileSync

open Lib Memory ProfileLookup
open Compose (CallProfile Text toUChar modifySize bufferSize wdsModifyProfileSettingsReq)

/-! ### Settings -/

/-- What a profile of the modem has. -/
structure Settings where
  apn : List UInt8
  user : List UInt8
  password : List UInt8
  auth : UInt8
  iptype : UInt8
  deriving DecidableEq, Repr

/-- The settings in a response, or in a modify request. -/
def settingsOf (m : Memory) : Settings where
  apn := textOf m 0x14
  user := textOf m 0x1B
  password := textOf m 0x1C
  auth := byteOf m 0x1D
  iptype := byteOf m 0x11

/-- A text in an array, as the functions of C see it. -/
def cText (bytes : List UInt8) : List UInt8 := bytes.takeWhile (· ≠ 0)

/-- `text ? text : ""`. -/
def newText (text : Option Text) : List UInt8 := (text.map Text.bytes).getD []

/-! ### The request -/

/-- The comparisons of `requestSetProfile`. -/
def unchanged (profile : Profile) : Bool :=
  cText profile.oldApn = newText profile.call.apn ∧ cText profile.oldUser = newText profile.call.user ∧
    cText profile.oldPassword = newText profile.call.password ∧
    profile.oldIptype = profile.call.iptype ∧ profile.oldAuth = profile.call.auth

/-- `requestSetProfile`: what it returns, and whether it has sent a request. -/
def requestSetProfile (profile : Profile) (a : ProfileLookup.Answer) : Int × Bool :=
  if profile.call.profileIndex = 0 then (-1, false)
  else if unchanged profile then (0, false)
  else match a.check with
    | .error ret => (ret, true)
    | .ok _ => (1, true)

/-- The request that it sends. -/
def modifyRequest (transactionId : UInt16) (profile : Profile) : Compose.Composed :=
  Compose.composeQMUXMsg 0x01 0x28 transactionId (wdsModifyProfileSettingsReq profile.call)

/-- The profile of the modem after a request that it accepts. -/
def storedAfter (transactionId : UInt16) (profile : Profile) (a : ProfileLookup.Answer)
    (stored : Settings) : Settings :=
  if (requestSetProfile profile a).2 then
    settingsOf ((modifyRequest transactionId profile).memory.tail 9)
  else stored

/-- What is requested. -/
def requested (call : CallProfile) : Settings where
  apn := newText call.apn
  user := newText call.user
  password := newText call.password
  auth := toUChar call.auth
  iptype := toUChar call.iptype

/-! ### The lookup before it -/

/-- The profile has copies of these settings. -/
structure Copies (profile : Profile) (stored : Settings) : Prop where
  apn : profile.oldApn = uchar2char stored.apn
  user : profile.oldUser = uchar2char stored.user
  password : profile.oldPassword = uchar2char stored.password
  auth : profile.oldAuth = ofUChar stored.auth
  iptype : profile.oldIptype = ofUChar stored.iptype

/-- The lookup has succeeded with settings that are those of the modem. -/
def Gets (profile : Profile) (stored : Settings) (after : Profile) : Prop :=
  ∃ answers index m, (∀ a ∈ answers, Telling a) ∧
    (run Lookup.step (start profile) answers).stage = .done 0 ∧
    (run Lookup.step (start profile) answers).received = some (index, m) ∧
    (run Lookup.step (start profile) answers).profile = after ∧ settingsOf m = stored

/-- What the lookup leaves as it is, and what it copies. -/
structure Progress (profile : Profile) (s : Lookup) : Prop where
  call : ∃ index, s.profile.call =
    { profile.call with iptype := iptypeOf profile, profileIndex := index }
  families : iptypeOf s.profile = iptypeOf profile ∧ s.profile.pdp = profile.pdp
  copies : s.stage = .done 0 → ∀ index m, s.received = some (index, m) →
    Copies s.profile (settingsOf m)

section

variable {profile : Profile} {s : Lookup} {a : ProfileLookup.Answer}

/-- Nothing but the stage changes, and the function has not succeeded. -/
theorem Progress.stage (progress : Progress profile s) {stage : Stage} (other : stage ≠ .done 0) :
    Progress profile { s with stage := stage } :=
  ⟨progress.call, progress.families, fun done => absurd done other⟩

theorem Progress.ask (progress : Progress profile s) (indexs : List UInt8) (i : Nat) :
    Progress profile (s.ask indexs i) := by
  obtain ⟨index, call⟩ := progress.call
  refine ⟨⟨ofUChar (indexs.getD i 0), ?_⟩, progress.families, fun done => ?_⟩
  · simp only [Lookup.ask, call]
  · simp [Lookup.ask] at done

theorem Progress.onList (progress : Progress profile s) (telling : Telling a) :
    Progress profile (s.onList a) := by
  rw [Lookup.onList]
  cases a.response with
  | none => exact progress.stage (by simp)
  | some r =>
    cases checked : a.check with
    | error ret => exact progress.stage (by simpa using failure_of_telling telling checked)
    | ok m =>
      simp only
      split
      · exact progress.stage (by simp)
      · split
        · exact progress.stage (by simp)
        · split
          · exact progress.stage (by simp)
          · exact progress.ask _ 0

theorem Progress.onSettings (progress : Progress profile s) (telling : Telling a)
    (indexs : List UInt8) (i : Nat) (running : s.stage ≠ .done 0) :
    Progress profile (s.onSettings indexs i a) := by
  rw [Lookup.onSettings]
  cases checked : a.check with
  | error ret => exact progress.stage (by simpa using failure_of_telling telling checked)
  | ok m =>
    have next : Progress profile { s with received := some (s.profile.call.profileIndex, m) } :=
      ⟨progress.call, progress.families, fun done => absurd done running⟩
    simp only
    cases found : getTLV m 0x25 with
    | none => exact next.stage (by simp)
    | some p =>
      simp only
      split
      · refine ⟨progress.call, progress.families, fun _ index m' received => ?_⟩
        cases received
        exact ⟨rfl, rfl, rfl, rfl, rfl⟩
      · split
        · exact next.stage (by simp)
        · exact next.ask indexs (i + 1)

theorem Progress.step (progress : Progress profile s) (telling : Telling a) :
    Progress profile (s.step a) := by
  rw [Lookup.step]
  split <;> rename_i stage
  · exact progress.onList telling
  · exact progress.onSettings telling _ _ (by simp [stage])
  · rw [Lookup.onCreate]
    cases checked : a.check with
    | error ret => exact progress.stage (by simpa using failure_of_telling telling checked)
    | ok m => exact progress.stage (by simp)
  · exact progress
  · exact progress

theorem start_progress (profile : Profile) : Progress profile (start profile) :=
  ⟨⟨profile.call.profileIndex, rfl⟩, ⟨rfl, rfl⟩, fun _ _ _ received => by simp [start] at received⟩

/-- A lookup that has succeeded has copied the settings, and left the request as it was. -/
theorem Gets.progress {after : Profile} {stored : Settings} (gets : Gets profile stored after) :
    Copies after stored ∧ (iptypeOf after = iptypeOf profile ∧ after.pdp = profile.pdp) ∧
    ∃ index, after.call =
      { profile.call with iptype := iptypeOf profile, profileIndex := index } := by
  obtain ⟨answers, index, m, telling, done, received, rfl, rfl⟩ := gets
  have progress : Progress profile (run Lookup.step (start profile) answers) := by
    have guarded : Guarded Lookup.step (fun _ a => Telling a ∧ True) (start profile) answers :=
      (guarded_of_forall (fun _ _ => trivial) _ _).and_forall _ _ telling
    exact guarded_invariant Lookup.step _ (Progress profile)
      (fun s a progress allowed => progress.step allowed.1) _ (start_progress profile) answers guarded
  exact ⟨progress.copies done index m received, progress.families, progress.call⟩

end

/-! ### What is compared -/

/-- The settings, as they are compared. -/
def Settings.cut (settings : Settings) : Settings :=
  { settings with
    apn := cText (uchar2char settings.apn)
    user := cText (uchar2char settings.user)
    password := cText (uchar2char settings.password) }

theorem toUChar_ofUChar (b : UInt8) : toUChar (ofUChar b) = b := by
  rw [toUChar, ofUChar, Int32.toUInt32_ofNat', UInt32.toUInt8_ofNat', UInt8.ofNat_toNat]

/-- A byte is this number. -/
theorem ofUChar_eq_iff {b : UInt8} {i : Int32} :
    ofUChar b = i ↔ b = toUChar i ∧ ofUChar (toUChar i) = i := by
  constructor
  · rintro rfl
    rw [toUChar_ofUChar]
    exact ⟨rfl, rfl⟩
  · rintro ⟨rfl, byte⟩
    exact byte

theorem iptypeOf_byte (profile : Profile) : ofUChar (toUChar (iptypeOf profile)) = iptypeOf profile := by
  rw [iptypeOf]
  split
  · decide
  · split <;> decide

theorem unchanged_iff {profile : Profile} {stored : Settings} (copies : Copies profile stored)
    (iptype : ofUChar (toUChar profile.call.iptype) = profile.call.iptype) :
    unchanged profile = true ↔ stored.cut = requested profile.call ∧
      ofUChar (toUChar profile.call.auth) = profile.call.auth := by
  have auth := @ofUChar_eq_iff stored.auth profile.call.auth
  have type := @ofUChar_eq_iff stored.iptype profile.call.iptype
  simp only [iptype, and_true] at type
  simp only [unchanged, copies.apn, copies.user, copies.password, copies.auth, copies.iptype, auth, type,
    Settings.cut, requested, Settings.mk.injEq, decide_eq_true_eq]
  tauto

/-- A text is compared as a whole if it fits into the array. -/
theorem cText_uchar2char {bytes : List UInt8} (ended : 0 ∉ bytes) :
    cText (uchar2char bytes) = bytes ↔ bytes.length ≤ 63 := by
  have whole : cText (uchar2char bytes) = bytes.take 63 := by
    rw [cText, uchar2char, List.takeWhile_eq_self_iff]
    intro b member
    simp only [ne_eq, decide_not, Bool.not_eq_true', decide_eq_false_iff_not]
    rintro rfl
    exact ended (List.mem_of_mem_take member)
  rw [whole]
  constructor
  · intro same
    rw [← same]
    exact List.length_take_le 63 bytes
  · exact List.take_of_length_le

theorem newText_ended (text : Option Text) : 0 ∉ newText text := by
  cases text with
  | none => simp [newText]
  | some t => exact t.ended

theorem requested_cut (call : CallProfile) : (requested call).cut = requested call ↔
    ∀ text ∈ [newText call.apn, newText call.user, newText call.password], text.length ≤ 63 := by
  simp only [Settings.cut, requested, Settings.mk.injEq, cText_uchar2char (newText_ended _), and_true,
    List.mem_cons, List.not_mem_nil, or_false, forall_eq_or_imp, forall_eq]

/-! ### What is stored -/

theorem textOf_eq {m : Memory} {type : UInt8} {p : Nat} {value : List UInt8}
    (found : getTLV m type.toNat = some p) (length : Tlv.lengthAt m p = value.length)
    (holds : m.Holds (p + 3) value) : textOf m type = value := by
  rw [textOf, found, Option.elim_some, length, holds.read_eq]

theorem byteOf_eq {m : Memory} {type value : UInt8} {p : Nat} (found : getTLV m type.toNat = some p)
    (holds : m.Holds (p + 3) [value]) : byteOf m type = value := by
  rw [byteOf, found, Option.elim_some]
  exact holds 0 (by simp)

/-- The records of a modify request are what is requested. -/
theorem settingsOf_modifyRequest (transactionId : UInt16) {profile : Profile}
    {apn user password : Text} (given : profile.call.apn = some apn ∧ profile.call.user = some user ∧
      profile.call.password = some password) (fits : modifySize profile.call ≤ bufferSize) :
    settingsOf ((modifyRequest transactionId profile).memory.tail 9) = requested profile.call := by
  have safe := (Compose.modify_safe_iff 0x01 0x28 transactionId profile.call).mpr fits
  have back := @Compose.modify_read_back 0x01 0x28 transactionId profile.call _ safe fun _ _ => rfl
  obtain ⟨first, second, third⟩ := given
  let fields : Compose.Fields := [(0x01, some [0x00, toUChar profile.call.profileIndex]),
    (0x11, some [toUChar profile.call.iptype]), (0x14, some apn.bytes), (0x1B, some user.bytes),
    (0x1C, some password.bytes), (0x1D, some [toUChar profile.call.auth])]
  have same : Compose.modifyFields profile.call = fields := by
    simp [Compose.modifyFields, first, second, third, fields]
  rw [same] at back
  have text {type : UInt8} {t : Text} (member : (type, some t.bytes) ∈ fields) :
      textOf ((modifyRequest transactionId profile).memory.tail 9) type = t.bytes := by
    obtain ⟨p, found, length, holds⟩ := back.found type t.bytes member
    exact textOf_eq found length holds
  have byte {type value : UInt8} (member : (type, some [value]) ∈ fields) :
      byteOf ((modifyRequest transactionId profile).memory.tail 9) type = value := by
    obtain ⟨p, found, -, holds⟩ := back.found type [value] member
    exact byteOf_eq found holds
  rw [settingsOf, requested, first, second, third, @text 0x14 apn (by simp [fields]),
    @text 0x1B user (by simp [fields]), @text 0x1C password (by simp [fields]),
    @byte 0x1D (toUChar profile.call.auth) (by simp [fields]),
    @byte 0x11 (toUChar profile.call.iptype) (by simp [fields])]
  rfl

/-! ### Both requests, twice -/

/-- `requestGetProfile` and `requestSetProfile` succeed with a modem that has this profile. -/
structure Succeeds (profile : Profile) (stored : Settings) (after : Profile)
    (a : ProfileLookup.Answer) : Prop where
  gets : Gets profile stored after
  index : after.call.profileIndex ≠ 0
  accepted : ∃ m, a.check = .ok m

/-- What is wanted of the modem. The type of the address follows from the families. -/
def wish (profile : Profile) : Settings := requested { profile.call with iptype := iptypeOf profile }

/-- The profile of the modem is the requested one afterwards, a request is sent only where it was not,
and none is sent when all of this is repeated. -/
structure InSync (transactionId : UInt16) (stored : Settings) (profile after again : Profile)
    (a a' : ProfileLookup.Answer) : Prop where
  kept : storedAfter transactionId after a stored = wish profile
  skipped : (requestSetProfile after a).1 = 0 ↔ stored = wish profile
  repeated : (requestSetProfile again a').1 = 0

/-- The requested profile can be compared as a whole, and the one of the modem is not taken for it. -/
structure Comparable (profile : Profile) (stored : Settings) : Prop where
  fit : ∀ text ∈ [newText profile.call.apn, newText profile.call.user, newText profile.call.password],
    text.length ≤ 63
  auth : ofUChar (toUChar profile.call.auth) = profile.call.auth
  distinct : stored.cut = wish profile → stored = wish profile

section

variable {transactionId : UInt16} {profile after again : Profile} {stored : Settings}
  {a a' : ProfileLookup.Answer}

/-- A request is sent if the copies are not what is requested. -/
theorem Succeeds.sent (succeeds : Succeeds profile stored after a) :
    requestSetProfile after a =
      if stored.cut = wish profile ∧ ofUChar (toUChar profile.call.auth) = profile.call.auth
      then (0, false) else (1, true) := by
  obtain ⟨copies, -, index, call⟩ := succeeds.gets.progress
  obtain ⟨m, checked⟩ := succeeds.accepted
  have same := unchanged_iff copies (by rw [call]; exact iptypeOf_byte profile)
  rw [call] at same
  rw [requestSetProfile, if_neg succeeds.index, checked]
  exact if_congr same rfl rfl

/-- What is wanted does not change. -/
theorem Succeeds.wish_eq (succeeds : Succeeds profile stored after a) :
    wish after = wish profile ∧ after.call.auth = profile.call.auth ∧
      requested after.call = wish profile ∧
      (after.call.apn = profile.call.apn ∧ after.call.user = profile.call.user ∧
        after.call.password = profile.call.password) := by
  obtain ⟨-, families, index, call⟩ := succeeds.gets.progress
  rw [wish, families.1, call]
  exact ⟨rfl, rfl, rfl, rfl, rfl, rfl⟩

theorem wish_cut (profile : Profile) : (wish profile).cut = wish profile ↔
    ∀ text ∈ [newText profile.call.apn, newText profile.call.user, newText profile.call.password],
      text.length ≤ 63 :=
  requested_cut _

/-- What the modem has afterwards. -/
theorem Succeeds.storedAfter_eq (succeeds : Succeeds profile stored after a) {apn user password : Text}
    (given : profile.call.apn = some apn ∧ profile.call.user = some user ∧
      profile.call.password = some password) (fits : modifySize profile.call ≤ bufferSize) :
    storedAfter transactionId after a stored =
      if stored.cut = wish profile ∧ ofUChar (toUChar profile.call.auth) = profile.call.auth
      then stored else wish profile := by
  obtain ⟨-, -, request, texts⟩ := succeeds.wish_eq
  obtain ⟨first, second, third⟩ := texts
  have size : modifySize after.call ≤ bufferSize := by
    rw [modifySize, first, second, third]
    exact fits
  have sent := settingsOf_modifyRequest transactionId
    ⟨first.trans given.1, second.trans given.2.1, third.trans given.2.2⟩ size
  rw [storedAfter, succeeds.sent, sent, request]
  split
  · exact if_neg (by simp)
  · exact if_pos rfl

/-- The modem is in step with the request exactly if the comparison of the copies says what a
comparison of the profiles would say. -/
theorem synchronised_iff {apn user password : Text} (given : profile.call.apn = some apn ∧
      profile.call.user = some user ∧ profile.call.password = some password)
    (fits : modifySize profile.call ≤ bufferSize) (first : Succeeds profile stored after a)
    (second : Succeeds after (storedAfter transactionId after a stored) again a') :
    InSync transactionId stored profile after again a a' ↔ Comparable profile stored := by
  have set := first.sent
  have kept := @Succeeds.storedAfter_eq transactionId _ _ _ _ first _ _ _ given fits
  have repetition := second.sent
  obtain ⟨wanted, auth, -, -⟩ := first.wish_eq
  rw [wanted, auth] at repetition
  constructor
  · rintro ⟨stored', skipped, repeated⟩
    rw [stored'] at repetition
    rw [repetition] at repeated
    have whole : (wish profile).cut = wish profile ∧
        ofUChar (toUChar profile.call.auth) = profile.call.auth := by
      by_contra different
      rw [if_neg different] at repeated
      exact absurd repeated (by decide)
    refine ⟨(wish_cut profile).mp whole.1, whole.2, fun same => skipped.mp ?_⟩
    rw [set, if_pos ⟨same, whole.2⟩]
  · rintro ⟨fit, byte, distinct⟩
    have whole := (wish_cut profile).mpr fit
    have stored' : storedAfter transactionId after a stored = wish profile := by
      rw [kept]
      split
      next same => exact distinct same.1
      next => rfl
    refine ⟨stored', ?_, ?_⟩
    · rw [set]
      constructor
      · intro zero
        by_contra other
        rw [if_neg fun same => other (distinct same.1)] at zero
        exact absurd zero (by decide)
      · rintro rfl
        rw [if_pos ⟨whole, byte⟩]
    · rw [repetition, stored', if_pos ⟨whole, byte⟩]

end

/-! ### A modem -/

/-- The records with which a modem answers for a profile with this context. -/
def settingsRecords (stored : Settings) (context : UInt8)
    (fits : stored.apn.length + stored.user.length + stored.password.length < 2 ^ 15) : List Tlv :=
  [⟨0x02, [0, 0, 0, 0], success_fits⟩, ⟨0x11, [stored.iptype], by simp⟩, ⟨0x14, stored.apn, by omega⟩,
    ⟨0x1B, stored.user, by omega⟩, ⟨0x1C, stored.password, by omega⟩, ⟨0x1D, [stored.auth], by simp⟩,
    ⟨0x25, [context], by simp⟩]

section

variable {stored : Settings} {context : UInt8}
  (fits : stored.apn.length + stored.user.length + stored.password.length < 2 ^ 15)

theorem carries_settingsRecords :
    Carries (messageOf (settingsRecords stored context fits)) (settingsRecords stored context fits) := by
  apply carries_messageOf
  rw [Tlv.length_encodeAll]
  simp only [settingsRecords, List.map_cons, List.map_nil, List.sum_cons, List.sum_nil,
    List.length_cons, List.length_nil]
  omega

theorem settingsOf_settingsRecords :
    settingsOf (messageOf (settingsRecords stored context fits)) = stored := by
  have carries := @carries_settingsRecords stored context fits
  have text {t : Tlv} (first : (settingsRecords stored context fits).find? (·.type = t.type) = some t) :
      textOf (messageOf (settingsRecords stored context fits)) t.type = t.value := by
    obtain ⟨p, found, holds⟩ := carries.getTLV_some first
    exact textOf_eq found (Tlv.lengthAt_encode holds) (Tlv.holds_value holds)
  have byte {t : Tlv} {value : UInt8} (single : t.value = [value])
      (first : (settingsRecords stored context fits).find? (·.type = t.type) = some t) :
      byteOf (messageOf (settingsRecords stored context fits)) t.type = value := by
    obtain ⟨p, found, holds⟩ := carries.getTLV_some first
    have stands := Tlv.holds_value holds
    rw [single] at stands
    exact byteOf_eq found stands
  rw [settingsOf]
  have apn := @text ⟨0x14, stored.apn, by omega⟩ rfl
  have user := @text ⟨0x1B, stored.user, by omega⟩ rfl
  have password := @text ⟨0x1C, stored.password, by omega⟩ rfl
  have auth := @byte ⟨0x1D, [stored.auth], by simp⟩ stored.auth rfl rfl
  have iptype := @byte ⟨0x11, [stored.iptype], by simp⟩ stored.iptype rfl rfl
  rw [apn, user, password, auth, iptype]

end

/-- A modem with one profile, which has the context that is wanted. -/
theorem gets_single {profile : Profile} {stored : Settings} {context : UInt8}
    (fits : stored.apn.length + stored.user.length + stored.password.length < 2 ^ 15)
    (wants : profile.pdp = ofUChar context) (some : context ≠ 0) (known : stored.iptype ≤ 3) :
    ∃ after, Gets profile stored after ∧ after.call.profileIndex = 1 := by
  let listed : ProfileLookup.Answer := ⟨0, .some (messageOf oneListed)⟩
  let m := messageOf (settingsRecords stored context fits)
  have waits : (start profile).stage = .list := by
    have nonzero : profile.pdp ≠ 0 := by
      intro zero
      have byte := toUChar_ofUChar context
      rw [← wants, zero] at byte
      exact some byte.symm
    exact if_neg nonzero
  have entries : ProfileList.profileEntries (messageOf oneListed) = [1] := by
    have carries : Carries (messageOf oneListed) oneListed := carries_messageOf (by decide)
    obtain ⟨p, found, holds⟩ := @Carries.getTLV_some _ oneListed carries 0x01
      ⟨0x01, [1, 0, 1, 0], by decide⟩ rfl
    exact @ProfileList.profileEntries_listed _ p [⟨0, 1, [], by decide⟩] carries.check_of_success
      found (holds_tail.mpr (Tlv.holds_value holds)) (by decide) (by decide)
  have first : (start profile).step listed = (start profile).ask [1] 0 := by
    rw [Lookup.step, waits, ← entries]
    exact onList_asks oneListed_takes rfl
  have settings : settingsOf m = stored := settingsOf_settingsRecords fits
  have checked : (⟨0, .some m⟩ : ProfileLookup.Answer).check = .ok m := rfl
  obtain ⟨p, found, holds⟩ := @Carries.getTLV_some m _ (carries_settingsRecords fits) 0x25
    ⟨0x25, [context], by simp⟩ rfl
  have value : m (p + 3) = context := Tlv.holds_value holds 0 (by simp)
  have context' : getTLV m 0x25 = .some p := found
  have second : ((start profile).ask [1] 0).step ⟨0, .some m⟩ =
      Lookup.finish { (start profile).ask [1] 0 with received := .some (1, m) } m := by
    show ((start profile).ask [1] 0).onSettings [1] 0 ⟨0, .some m⟩ = _
    rw [Lookup.onSettings, checked]
    simp only [context', value]
    exact if_pos wants.symm
  have type : byteOf m 0x11 ≤ 3 := by
    rw [show byteOf m 0x11 = (settingsOf m).iptype from rfl, settings]
    exact known
  refine ⟨(run Lookup.step (start profile) [listed, ⟨0, .some m⟩]).profile,
    ⟨[listed, ⟨0, .some m⟩], 1, m, ?_, ?_, ?_, rfl, settings⟩, ?_⟩
  · simp only [List.mem_cons, List.not_mem_nil, or_false, forall_eq_or_imp, forall_eq]
    exact ⟨oneListed_takes.telling, by rw [Telling, checked]; simp⟩
  · rw [run_cons, run_cons, run_nil, first, second]
    exact if_pos type
  · rw [run_cons, run_cons, run_nil, first, second]
    rfl
  · rw [run_cons, run_cons, run_nil, first, second]
    rfl

/-- A profile with this APN, and without credentials. -/
def apnProfile (apn : Text) : Profile where
  call := ⟨some apn, some ⟨[], Compose.nil_ended⟩, some ⟨[], Compose.nil_ended⟩, 0, 0, 4, 0⟩
  pdp := 1
  enableIpv4 := true
  enableIpv6 := false

/-- An answer without an error. -/
def acceptance : ProfileLookup.Answer := ⟨0, some (messageOf [⟨0x02, [0, 0, 0, 0], success_fits⟩])⟩

theorem apnProfile_size {apn : Text} (short : apn.bytes.length ≤ 100) :
    modifySize (apnProfile apn).call ≤ bufferSize := by
  simp [apnProfile, modifySize, Compose.textSize, bufferSize]
  omega

/-- The two requests for this APN and their repetition, with a modem that has another APN. -/
theorem requests_repeated {apn : Text} {old : List UInt8} (short : apn.bytes.length ≤ 100)
    (few : old.length ≤ 100) : ∃ after again,
    Succeeds (apnProfile apn) ⟨old, [], [], 0, 0⟩ after acceptance ∧
    Succeeds after (storedAfter 1 after acceptance ⟨old, [], [], 0, 0⟩) again acceptance := by
  have one : (1 : Int32) ≠ 0 := by decide
  have low : (0 : UInt8) ≤ 3 := by decide
  have accepted : ∃ m, acceptance.check = .ok m := ⟨_, rfl⟩
  obtain ⟨after, gets, index⟩ := @gets_single (apnProfile apn) ⟨old, [], [], 0, 0⟩ 1
    (by simp only [List.length_nil]; omega) rfl (by decide) low
  have first : Succeeds (apnProfile apn) ⟨old, [], [], 0, 0⟩ after acceptance :=
    ⟨gets, by rw [index]; exact one, accepted⟩
  have kept := @Succeeds.storedAfter_eq 1 _ _ _ _ first _ _ _ ⟨rfl, rfl, rfl⟩ (apnProfile_size short)
  have bounds : ∀ settings : Settings,
      settings = ⟨old, [], [], 0, 0⟩ ∨ settings = wish (apnProfile apn) →
      settings.apn.length + settings.user.length + settings.password.length < 2 ^ 15 ∧
        settings.iptype ≤ 3 := by
    rintro settings (rfl | rfl)
    · exact ⟨by simp only [List.length_nil]; omega, low⟩
    · refine ⟨?_, low⟩
      show apn.bytes.length + 0 + 0 < 2 ^ 15
      omega
  obtain ⟨small, known⟩ := bounds (storedAfter 1 after acceptance ⟨old, [], [], 0, 0⟩) (by
    rw [kept]
    split
    · exact .inl rfl
    · exact .inr rfl)
  obtain ⟨-, ⟨-, pdp⟩, -⟩ := gets.progress
  obtain ⟨again, gets', index'⟩ := @gets_single after _ 1 small pdp (by decide) known
  exact ⟨after, again, first, gets', by rw [index']; exact one, accepted⟩

/-- "internet" instead of "iot". -/
theorem short_apn_in_sync : ∃ after again,
    InSync 1 ⟨[105, 111, 116], [], [], 0, 0⟩
      (apnProfile ⟨[105, 110, 116, 101, 114, 110, 101, 116], by decide⟩) after again
      acceptance acceptance := by
  obtain ⟨after, again, first, second⟩ := @requests_repeated
    ⟨[105, 110, 116, 101, 114, 110, 101, 116], by decide⟩ [105, 111, 116] (by decide) (by decide)
  refine ⟨after, again,
    (synchronised_iff ⟨rfl, rfl, rfl⟩ (apnProfile_size (by decide)) first second).mpr ?_⟩
  exact ⟨by decide, by decide, by decide⟩

/-- An APN of 64 characters. -/
def longApn : Text := ⟨List.replicate 64 97, by simp⟩

/-- The modem has the APN already, but a request is sent. -/
theorem long_apn_not_in_sync : ∃ after again,
    Succeeds (apnProfile longApn) (wish (apnProfile longApn)) after acceptance ∧
    Succeeds after (storedAfter 1 after acceptance (wish (apnProfile longApn))) again acceptance ∧
    ¬ InSync 1 (wish (apnProfile longApn)) (apnProfile longApn) after again acceptance acceptance := by
  obtain ⟨after, again, first, second⟩ :=
    @requests_repeated longApn longApn.bytes (by decide) (by decide)
  refine ⟨after, again, first, second, fun inSync => ?_⟩
  have skipped := inSync.skipped.mpr rfl
  rw [first.sent, if_neg] at skipped
  · exact absurd skipped (by decide)
  · rintro ⟨same, -⟩
    have fit := (wish_cut (apnProfile longApn)).mp same
    exact absurd (fit longApn.bytes (by simp [apnProfile, newText])) (by decide)

end LorawanFeeds.QmiClient.ProfileSync
