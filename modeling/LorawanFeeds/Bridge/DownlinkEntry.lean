import Mathlib.Data.List.Induction
import Mathlib.Data.List.TakeWhile
import LorawanFeeds.Bridge.ItemVerdict
import LorawanFeeds.Bridge.Queue

/-!
# The entry of a downlink

What an item of the network server becomes in the queue, also where the timing has been complained
about. The data rate of a LoRa item becomes a text: it is written with all its digits and will be read
with two and three.
-/
namespace LorawanFeeds.Bridge

open Lib

/-! ### The data rate -/

theorem decimal_append (front : List Char) (c : Char) :
    decimal (front ++ [c]) = 10 * decimal front + (c.toNat - 48) := by
  simp [decimal]

theorem decimal_toDigits (n : Nat) : decimal (Nat.toDigits 10 n) = n :=
  Nat.ofDigitChars_toDigits (by decide) (by decide)

theorem isDigit_bounds {c : Char} (digit : c.isDigit = true) : 48 ≤ c.toNat ∧ c.toNat ≤ 57 := by
  simp only [Char.isDigit, Bool.and_eq_true, decide_eq_true_eq] at digit
  exact ⟨UInt32.le_iff_toNat_le.mp digit.1, UInt32.le_iff_toNat_le.mp digit.2⟩

theorem isSpace_bound {c : Char} (space : isSpace c = true) : c.toNat ≤ 32 := by
  simp only [isSpace, Bool.or_eq_true, Bool.and_eq_true, decide_eq_true_eq] at space
  rcases space with rfl | ⟨_, below⟩
  · decide
  · have bound : c.toNat ≤ 13 := UInt32.le_iff_toNat_le.mp below
    omega

theorem decimal_lt {digits : List Char} (each : ∀ c ∈ digits, c.isDigit = true) :
    decimal digits < 10 ^ digits.length := by
  induction digits using List.reverseRecOn with
  | nil => simp [decimal]
  | append_singleton front c ih =>
    have inFront := ih fun d member => each d (by simp [member])
    have last := isDigit_bounds (each c (by simp))
    rw [decimal_append, List.length_append, List.length_singleton, Nat.pow_succ]
    omega

/-- A number is read up to the width of the conversion. -/
theorem scanInt_digits {digits rest : List Char} {width : Nat} (some_digits : digits ≠ [])
    (each : ∀ c ∈ digits, c.isDigit = true) (ended : ∀ c ∈ rest.head?, c.isDigit = false)
    (wide : 0 < width) :
    scanInt width (digits ++ rest) =
      some ((decimal (digits.take width) : Int), digits.drop width ++ rest) := by
  obtain ⟨first, others, same⟩ := List.exists_cons_of_ne_nil some_digits
  have digit := each first (by simp [same])
  have solid : isSpace first = false := by
    by_contra space
    have low := isSpace_bound (Bool.not_eq_false _ ▸ space)
    have high := isDigit_bounds digit
    omega
  -- Neither white space nor a sign stands before the digits.
  have scanned : scanInt width (digits ++ rest) = scanDigits false width (digits ++ rest) := by
    subst same
    simp only [scanInt, List.cons_append, List.dropWhile_cons, solid]
    split
    next eq =>
      cases eq
      exact absurd digit (by decide)
    next eq =>
      cases eq
      exact absurd digit (by decide)
    next => rfl
  have taken : ((digits ++ rest).take width).takeWhile Char.isDigit = digits.take width := by
    rw [List.take_append, List.takeWhile_append_of_pos fun c member => each c (List.mem_of_mem_take member)]
    have nothing : (rest.take (width - digits.length)).takeWhile Char.isDigit = [] := by
      cases rest with
      | nil => simp
      | cons c rest =>
        have stop := ended c rfl
        cases width - digits.length <;> simp [stop]
    rw [nothing, List.append_nil]
  have dropped : (digits ++ rest).drop (digits.take width).length = digits.drop width ++ rest := by
    rw [List.length_take]
    rcases Nat.le_total width digits.length with short | long
    · rw [Nat.min_eq_left short, List.drop_append_of_le_length short]
    · rw [Nat.min_eq_right long, List.drop_left, List.drop_eq_nil_of_le long, List.nil_append]
  have filled : (digits.take width).isEmpty = false := by
    subst same
    cases width with
    | zero => exact absurd wide (by decide)
    | succ width => rfl
  rw [scanned, scanDigits]
  simp only [taken, filled, dropped]
  rfl

theorem isDigit_toDigits (n : Nat) : ∀ c ∈ Nat.toDigits 10 n, c.isDigit = true :=
  fun _ member => Nat.isDigit_of_mem_toDigits (by decide) (by decide) member

theorem cStr_formatDatr (sf bw : UInt32) :
    cStr (formatDatr sf bw) =
      'S' :: 'F' :: (Nat.toDigits 10 sf.toNat ++ 'B' :: 'W' :: (Nat.toDigits 10 bw.toNat ++ [])) := by
  have text : (formatDatr sf bw).toList =
      'S' :: 'F' :: (Nat.toDigits 10 sf.toNat ++ 'B' :: 'W' :: (Nat.toDigits 10 bw.toNat ++ [])) := by
    simp [formatDatr]
  rw [cStr, text, List.takeWhile_eq_self_iff]
  have solid (n : Nat) : ∀ c ∈ Nat.toDigits 10 n, c ≠ '\x00' := by
    rintro c member rfl
    exact absurd (isDigit_toDigits n _ member) (by decide)
  intro c member
  simp only [List.mem_cons, List.mem_append, List.not_mem_nil, or_false] at member
  rcases member with rfl | rfl | inFactor | rfl | rfl | inWidth
  · decide
  · decide
  · exact decide_eq_true (solid _ c inFactor)
  · decide
  · decide
  · exact decide_eq_true (solid _ c inWidth)

/-- The bandwidth as it is read back: its first three digits. -/
def leadingThree (n : Nat) : Nat := decimal ((Nat.toDigits 10 n).take 3)

theorem leadingThree_lt (n : Nat) : leadingThree n < 1000 := by
  have bound := decimal_lt fun c member =>
    isDigit_toDigits n c (List.mem_of_mem_take (i := 3) member)
  have short : ((Nat.toDigits 10 n).take 3).length ≤ 3 := List.length_take_le _ _
  calc leadingThree n < 10 ^ ((Nat.toDigits 10 n).take 3).length := bound
    _ ≤ 10 ^ 3 := Nat.pow_le_pow_right (by decide) short
    _ = 1000 := rfl

theorem leadingThree_of_lt {n : Nat} (small : n < 1000) : leadingThree n = n := by
  have short : (Nat.toDigits 10 n).length ≤ 3 :=
    (Nat.length_toDigits_le_iff (by decide) (by decide)).mpr small
  rw [leadingThree, List.take_of_length_le short, decimal_toDigits]

/-- A spreading factor of up to two digits is read back, and the bandwidth by its first three; any
other spreading factor has no reading. -/
theorem parseUplinkDatr_formatDatr (sf bw : UInt32) :
    parseUplinkDatr (formatDatr sf bw) =
      if sf.toNat < 100 then
        some (UInt8.ofInt sf.toNat, UInt16.ofInt (leadingThree bw.toNat))
      else none := by
  have factor := @scanInt_digits (Nat.toDigits 10 sf.toNat)
    ('B' :: 'W' :: (Nat.toDigits 10 bw.toNat ++ [])) 2 Nat.toDigits_ne_nil (isDigit_toDigits _)
    (by rintro c ⟨⟩; decide) (by decide)
  have width := @scanInt_digits (Nat.toDigits 10 bw.toNat) [] 3 Nat.toDigits_ne_nil
    (isDigit_toDigits _) (by rintro c ⟨⟩) (by decide)
  have fits := @Nat.length_toDigits_le_iff 10 sf.toNat 2 (by decide) (by decide)
  simp only [parseUplinkDatr, cStr_formatDatr, scanLiteral, if_true, Option.bind_eq_bind,
    Option.bind_some, factor]
  split
  next small =>
    have short := fits.mpr small
    rw [List.take_of_length_le short, List.drop_eq_nil_of_le short, decimal_toDigits]
    simp only [List.nil_append, scanLiteral, if_true, Option.bind_some, width]
    rfl
  next large =>
    -- A third digit stands where the pattern has a letter.
    have long : 2 < (Nat.toDigits 10 sf.toNat).length := by
      by_contra short
      exact large (fits.mp (by omega))
    obtain ⟨third, rest, eq⟩ := List.exists_cons_of_ne_nil
      (List.ne_nil_of_length_pos (by rw [List.length_drop]; omega) : (Nat.toDigits 10 sf.toNat).drop 2 ≠ [])
    have digit := isDigit_toDigits sf.toNat third (List.mem_of_mem_drop (i := 2) (by simp [eq]))
    have apart : 'B' ≠ third := by
      rintro rfl
      exact absurd digit (by decide)
    simp [eq, scanLiteral, apart]

theorem toUInt64_factor {sf : UInt32} (small : sf.toNat < 100) :
    (UInt8.ofInt sf.toNat).toUInt64 = sf.toUInt64 := by
  apply UInt64.toNat_inj.mp
  rw [UInt8.toNat_toUInt64, UInt8.ofInt, UInt8.toNat_ofNat', UInt32.toNat_toUInt64]
  omega

theorem toNat_width (n : Nat) : (UInt16.ofInt (leadingThree n)).toUInt64.toNat = leadingThree n := by
  have bound := leadingThree_lt n
  rw [UInt16.toNat_toUInt64, UInt16.ofInt, UInt16.toNat_ofNat']
  omega

/-- The bandwidth is read back as it was up to 999. -/
theorem toUInt64_width_iff (bw : UInt32) :
    (UInt16.ofInt (leadingThree bw.toNat)).toUInt64 = bw.toUInt64 ↔ bw.toNat < 1000 := by
  rw [← UInt64.toNat_inj, toNat_width, UInt32.toNat_toUInt64]
  constructor
  · intro same
    have bound := leadingThree_lt bw.toNat
    omega
  · exact leadingThree_of_lt

/-! ### The entry of an item -/

theorem access_ok {j v : Json} {key : String} (returned : (access j key).result = .ok v) :
    j.get? key = some v := by
  obtain ⟨_, _, returned, _⟩ := Eff.bind_eq_ok returned
  cases found : j.get? key with
  | none =>
    rw [found] at returned
    cases returned
  | some w =>
    rw [found] at returned
    cases returned
    rfl

theorem convert_ok {α : Type} {x : Except JsonError α} {a : α} (returned : (convert x).result = .ok a) :
    x = .ok a := by
  cases x with
  | error e => cases returned
  | ok b =>
    cases returned
    rfl

theorem asString_ok {j : Json} {s : String} (read : j.asString = .ok s) : j = .str s := by
  cases j <;> cases read
  rfl

/-- The part of the entry that says when to send. -/
def immeOf (timing : String) : Option Json :=
  if timing = "IMMEDIATELY" then some (.bool true)
  else if timing = "DELAY" then some (.bool false)
  else none

theorem downlinkTiming_ok {env : Env} {draft draft' : TxpkDraft} {item : Json}
    (fresh : draft.get? .imme = none)
    (returned : (downlinkTiming env draft item).result = .ok draft') :
    ∃ timing, item.lookup ["txInfo", "timing"] = some (.str timing) ∧
      draft'.get? .imme = immeOf timing ∧
      ∀ place, place ≠ .imme → place ≠ .tmst → draft'.get? place = draft.get? place := by
  obtain ⟨txInfo, info, returned, _⟩ := Eff.bind_eq_ok returned
  obtain ⟨value, read, returned, _⟩ := Eff.bind_eq_ok returned
  obtain ⟨timing, text, returned, _⟩ := Eff.bind_eq_ok returned
  have isText := asString_ok (convert_ok text)
  refine ⟨timing, by simp [Json.lookup, access_ok info, access_ok read, isText], ?_⟩
  by_cases now : timing = "IMMEDIATELY"
  · rw [if_pos now] at returned
    cases returned
    refine ⟨by simp [immeOf, now], fun place notNow _ => Draft.get?_set_of_ne _ notNow _⟩
  · rw [if_neg now] at returned
    by_cases later : timing = "DELAY"
    · rw [if_pos later] at returned
      -- Whether or not there is a timestamp, it is known to be sent later.
      split at returned
      next beside =>
        obtain ⟨_, _, returned, _⟩ := Eff.bind_eq_ok returned
        obtain ⟨stamp, _, returned, _⟩ := Eff.bind_eq_ok returned
        cases returned
        refine ⟨?_, fun place notImme notStamp => ?_⟩
        · rw [Draft.get?_set_of_ne _ (by decide), Draft.get?_set_self]
          simp [immeOf, later]
        · rw [Draft.get?_set_of_ne _ notStamp, Draft.get?_set_of_ne _ notImme]
      next =>
        obtain ⟨_, _, returned, _⟩ := Eff.bind_eq_ok returned
        cases returned
        exact ⟨by simp [immeOf, later], fun place notImme _ => Draft.get?_set_of_ne _ notImme _⟩
    · rw [if_neg later] at returned
      obtain ⟨_, _, returned, _⟩ := Eff.bind_eq_ok returned
      cases returned
      exact ⟨by simp [immeOf, now, later, fresh], fun _ _ _ => rfl⟩

/-- What the entry says of the modulation. -/
inductive Modulated (item : Json) (draft : TxpkDraft) : Prop
  | lora {bw sf : UInt32} {bandwidth factor : Json}
      (modu : item.lookup ["modulation"] = some (.str "LORA"))
      (width : item.lookup ["txInfo", "modulationInfo", "bandwidth"] = some bandwidth)
      (converted : bandwidth.asUInt32 = .ok bw)
      (spreading : item.lookup ["txInfo", "modulationInfo", "spreadingFactor"] = some factor)
      (reduced : factor.asUInt32 = .ok sf)
      (datr : draft.get? .datr = some (.str (formatDatr sf bw)))
      (codr : draft.get? .codr = item.lookup ["txInfo", "modulationInfo", "codeRate"])
      (ipol : draft.get? .ipol = item.lookup ["txInfo", "modulationInfo", "polarizationInversion"])
  | fsk {rate : Json}
      (modu : item.lookup ["modulation"] = some (.str "FSK"))
      (dataRate : item.lookup ["txInfo", "modulationInfo", "FSKDataRate"] = some rate)
      (datr : draft.get? .datr = some rate)
      (fdev : draft.get? .fdev = item.lookup ["txInfo", "modulationInfo", "FSKFreqDev"])

theorem downlinkModulation_ok {env : Env} {draft draft' : TxpkDraft} {item : Json}
    (returned : (downlinkModulation env draft item).result = .ok (some draft')) :
    Modulated item draft' ∧ draft'.get? .modu = item.lookup ["modulation"] ∧
      ∀ place, place ∉ [TxpkField.modu, .rfch, .datr, .codr, .ipol, .fdev] →
        draft'.get? place = draft.get? place := by
  obtain ⟨value, read, returned, _⟩ := Eff.bind_eq_ok returned
  obtain ⟨modu, text, returned, _⟩ := Eff.bind_eq_ok returned
  have isText := asString_ok (convert_ok text)
  have named : item.lookup ["modulation"] = some (.str modu) := by
    simp [Json.lookup, access_ok read, isText]
  by_cases lora : modu = "LORA"
  · rw [if_pos lora] at returned
    obtain ⟨txInfo, info, returned, _⟩ := Eff.bind_eq_ok returned
    obtain ⟨inner, inside, returned, _⟩ := Eff.bind_eq_ok returned
    obtain ⟨bandwidth, foundBw, returned, _⟩ := Eff.bind_eq_ok returned
    obtain ⟨bw, convertedBw, returned, _⟩ := Eff.bind_eq_ok returned
    obtain ⟨factor, foundSf, returned, _⟩ := Eff.bind_eq_ok returned
    obtain ⟨sf, convertedSf, returned, _⟩ := Eff.bind_eq_ok returned
    obtain ⟨codr, foundCodr, returned, _⟩ := Eff.bind_eq_ok returned
    obtain ⟨ipol, foundIpol, returned, _⟩ := Eff.bind_eq_ok returned
    cases returned
    have at_info {key : String} {v : Json} (found : (access inner key).result = .ok v) :
        item.lookup ["txInfo", "modulationInfo", key] = some v := by
      simp [Json.lookup, access_ok info, access_ok inside, access_ok found]
    refine ⟨.lora (lora ▸ named) (at_info foundBw) (convert_ok convertedBw) (at_info foundSf)
      (convert_ok convertedSf) ?_ ?_ ?_, ?_, ?_⟩
    · rw [Draft.get?_set_of_ne _ (by decide), Draft.get?_set_of_ne _ (by decide),
        Draft.get?_set_self]
    · rw [Draft.get?_set_of_ne _ (by decide), Draft.get?_set_self, at_info foundCodr]
    · rw [Draft.get?_set_self, at_info foundIpol]
    · rw [named, Draft.get?_set_of_ne _ (by decide), Draft.get?_set_of_ne _ (by decide),
        Draft.get?_set_of_ne _ (by decide), Draft.get?_set_of_ne _ (by decide), Draft.get?_set_self]
    · intro place other
      simp only [List.mem_cons, List.not_mem_nil, or_false, not_or] at other
      obtain ⟨notModu, notRfch, notDatr, notCodr, notIpol, _⟩ := other
      rw [Draft.get?_set_of_ne _ notIpol, Draft.get?_set_of_ne _ notCodr,
        Draft.get?_set_of_ne _ notDatr, Draft.get?_set_of_ne _ notRfch,
        Draft.get?_set_of_ne _ notModu]
  · rw [if_neg lora] at returned
    by_cases fsk : modu = "FSK"
    · rw [if_pos fsk] at returned
      obtain ⟨txInfo, info, returned, _⟩ := Eff.bind_eq_ok returned
      obtain ⟨inner, inside, returned, _⟩ := Eff.bind_eq_ok returned
      obtain ⟨rate, foundRate, returned, _⟩ := Eff.bind_eq_ok returned
      obtain ⟨dev, foundDev, returned, _⟩ := Eff.bind_eq_ok returned
      cases returned
      have at_info {key : String} {v : Json} (found : (access inner key).result = .ok v) :
          item.lookup ["txInfo", "modulationInfo", key] = some v := by
        simp [Json.lookup, access_ok info, access_ok inside, access_ok found]
      refine ⟨.fsk (fsk ▸ named) (at_info foundRate) ?_ ?_, ?_, ?_⟩
      · rw [Draft.get?_set_of_ne _ (by decide), Draft.get?_set_self]
      · rw [Draft.get?_set_self, at_info foundDev]
      · rw [named, Draft.get?_set_of_ne _ (by decide), Draft.get?_set_of_ne _ (by decide),
          Draft.get?_set_of_ne _ (by decide), Draft.get?_set_self]
      · intro place other
        simp only [List.mem_cons, List.not_mem_nil, or_false, not_or] at other
        obtain ⟨notModu, notRfch, notDatr, _, _, notDev⟩ := other
        rw [Draft.get?_set_of_ne _ notDev, Draft.get?_set_of_ne _ notDatr,
          Draft.get?_set_of_ne _ notRfch, Draft.get?_set_of_ne _ notModu]
    · rw [if_neg fsk] at returned
      obtain ⟨_, _, returned, _⟩ := Eff.bind_eq_ok returned
      cases returned

/-- The action pushes nothing. -/
def Action.NoPush : Action → Prop
  | .push _ => False
  | _ => True

instance : Translates Action.NoPush := ⟨fun _ _ => trivial, fun _ => trivial, fun _ _ => trivial⟩

theorem pushes_append (front back : List Action) :
    pushes (front ++ back) = pushes front ++ pushes back := List.filterMap_append

theorem pushes_of_noPush {α : Type} {x : Handler α} (silent : Eff.Emits Action.NoPush x) :
    pushes x.events = [] := by
  rw [pushes, List.filterMap_eq_nil_iff]
  intro a member
  have quiet := silent a member
  cases a with
  | push payload => exact quiet.elim
  | _ => rfl

theorem noPush_downlinkTiming (env : Env) (draft : TxpkDraft) (item : Json) :
    Eff.Emits Action.NoPush (downlinkTiming env draft item) := by
  simp only [downlinkTiming, Eff.emits_bind, emits_access, emits_convert, true_and]
  intros
  split
  · simp
  · split
    · split <;> simp
    · simp

theorem noPush_downlinkModulation (env : Env) (draft : TxpkDraft) (item : Json) :
    Eff.Emits Action.NoPush (downlinkModulation env draft item) := by
  simp only [downlinkModulation, Eff.emits_bind, emits_access, emits_convert, true_and]
  intros
  split
  · simp
  · split <;> simp

theorem copyIfPresent_ok {F : Type} [DecidableEq F] {S : Schema F} {draft draft' : Draft S}
    {place : F} {source : Json} {key : String}
    (returned : (copyIfPresent draft place source key).result = .ok draft') :
    ∀ other, other ≠ place → draft'.get? other = draft.get? other := by
  intro other different
  rw [copyIfPresent] at returned
  split at returned
  · obtain ⟨_, _, returned, _⟩ := Eff.bind_eq_ok returned
    cases returned
    exact Draft.get?_set_of_ne _ different _
  · cases returned
    rfl

/-- What the entry of an item says. -/
structure Entry (item : Json) (draft : TxpkDraft) : Prop where
  data : draft.get? .data = item.lookup ["phyPayload"]
  size : draft.get? .size = item.lookup ["phyPayloadSize"]
  powe : draft.get? .powe = item.lookup ["txInfo", "power"]
  modu : draft.get? .modu = item.lookup ["modulation"]
  imme : ∃ timing, item.lookup ["txInfo", "timing"] = some (.str timing) ∧
    draft.get? .imme = immeOf timing
  modulated : Modulated item draft
  present : ∀ place ∈ [TxpkField.data, .size, .powe, .freq], (draft.get? place).isSome = true

theorem downlinkFinish_ok {env : Env} {txInfo : Json} {found : Option TxpkDraft}
    (returned : (downlinkFinish env txInfo found).result = .ok true) :
    ∃ draft draft' : TxpkDraft, found = some draft ∧
      pushes (downlinkFinish env txInfo found).events = [env.dump draft'.json] ∧
      ∀ place, place ∉ [TxpkField.prea, .ncrc, .nhdr] → draft'.get? place = draft.get? place := by
  cases found with
  | none => cases returned
  | some draft =>
    obtain ⟨one, first, returned, events₁⟩ := Eff.bind_eq_ok returned
    obtain ⟨two, second, returned, events₂⟩ := Eff.bind_eq_ok returned
    obtain ⟨three, third, _, events₃⟩ := Eff.bind_eq_ok returned
    refine ⟨draft, three, rfl, ?_, ?_⟩
    · rw [downlinkFinish, events₁, pushes_append, events₂, pushes_append, events₃, pushes_append,
        pushes_of_noPush (emits_copyIfPresent _ _ _ _), pushes_of_noPush (emits_copyIfPresent _ _ _ _),
        pushes_of_noPush (emits_copyIfPresent _ _ _ _)]
      rfl
    · intro place other
      simp only [List.mem_cons, List.not_mem_nil, or_false, not_or] at other
      rw [copyIfPresent_ok third place other.2.2, copyIfPresent_ok second place other.2.1,
        copyIfPresent_ok first place other.1]

/-- An item that is queued is queued once, as the entry of its values. -/
theorem downlinkItem_queued {env : Env} {item : Json}
    (returned : (downlinkItem env item).result = .ok true) :
    ∃ draft : TxpkDraft, pushes (downlinkItem env item).events = [env.dump draft.json] ∧
      Entry item draft := by
  rw [downlinkItem_eq] at returned ⊢
  obtain ⟨data, foundData, returned, events₁⟩ := Eff.bind_eq_ok returned
  obtain ⟨size, foundSize, returned, events₂⟩ := Eff.bind_eq_ok returned
  obtain ⟨timed, timing, returned, events₃⟩ := Eff.bind_eq_ok returned
  obtain ⟨txInfo, info, returned, events₄⟩ := Eff.bind_eq_ok returned
  obtain ⟨power, foundPower, returned, events₅⟩ := Eff.bind_eq_ok returned
  obtain ⟨value, foundFreq, returned, events₆⟩ := Eff.bind_eq_ok returned
  obtain ⟨freq, converted, returned, events₇⟩ := Eff.bind_eq_ok returned
  obtain ⟨found, modulation, returned, events₈⟩ := Eff.bind_eq_ok returned
  obtain ⟨modulated, last, rfl, pushed, kept⟩ := downlinkFinish_ok returned
  obtain ⟨text, isTiming, imme, beforeTiming⟩ := downlinkTiming_ok (by rfl) timing
  obtain ⟨modulates, modu, beforeModulation⟩ := downlinkModulation_ok modulation
  refine ⟨last, ?_, ?_⟩
  · rw [events₁, pushes_append, events₂, pushes_append, events₃, pushes_append, downlinkRest, events₄,
      pushes_append, events₅, pushes_append, events₆, pushes_append, events₇, pushes_append, events₈,
      pushes_append, pushed, pushes_of_noPush (emits_access _ _), pushes_of_noPush (emits_access _ _),
      pushes_of_noPush (noPush_downlinkTiming _ _ _), pushes_of_noPush (emits_access _ _),
      pushes_of_noPush (emits_access _ _), pushes_of_noPush (emits_access _ _),
      pushes_of_noPush (emits_convert _), pushes_of_noPush (noPush_downlinkModulation _ _ _)]
    rfl
  · have dataThere : last.get? .data = some data := by
      rw [kept _ (by decide), beforeModulation _ (by decide), Draft.get?_set_of_ne _ (by decide),
        Draft.get?_set_of_ne _ (by decide), beforeTiming _ (by decide) (by decide),
        Draft.get?_set_of_ne _ (by decide), Draft.get?_set_self]
    have sizeThere : last.get? .size = some size := by
      rw [kept _ (by decide), beforeModulation _ (by decide), Draft.get?_set_of_ne _ (by decide),
        Draft.get?_set_of_ne _ (by decide), beforeTiming _ (by decide) (by decide),
        Draft.get?_set_self]
    have powerThere : last.get? .powe = some power := by
      rw [kept _ (by decide), beforeModulation _ (by decide), Draft.get?_set_of_ne _ (by decide),
        Draft.get?_set_self]
    have freqThere : (last.get? .freq).isSome = true := by
      rw [kept _ (by decide), beforeModulation _ (by decide), Draft.get?_set_self]
      rfl
    exact {
      data := by simp [dataThere, Json.lookup, access_ok foundData]
      size := by simp [sizeThere, Json.lookup, access_ok foundSize]
      powe := by simp [powerThere, Json.lookup, access_ok info, access_ok foundPower]
      modu := by rw [kept _ (by decide), modu]
      imme := by
        refine ⟨text, isTiming, ?_⟩
        rw [kept _ (by decide), beforeModulation _ (by decide), Draft.get?_set_of_ne _ (by decide),
          Draft.get?_set_of_ne _ (by decide), imme]
      modulated := by
        cases modulates with
        | lora modu width converted spreading reduced datr codr ipol =>
          exact .lora modu width converted spreading reduced (by rw [kept _ (by decide), datr])
            (by rw [kept _ (by decide), codr]) (by rw [kept _ (by decide), ipol])
        | fsk modu rate datr fdev =>
          exact .fsk modu rate (by rw [kept _ (by decide), datr]) (by rw [kept _ (by decide), fdev])
      present := by simp [dataThere, sizeThere, powerThere, freqThere] }

end LorawanFeeds.Bridge
