import LorawanFeeds.Cgi.StationRequest

/-!
# Station settings, set and read back

A set of the station's settings goes through the members of its sections one by one: each is read
from the request, converted to the type of a class member, and assigned to the document of
`station.conf`, which is written once at the end. A get goes the other way. Both are the same walk
along a list of members, in which only the two ends differ.
-/
namespace LorawanFeeds.Cgi

open Lib Bridge

/-! ### Members -/

/-- The type of a class member: one of the fields, or an RSSI offset. -/
inductive MemberType where
  | field (type : FieldType)
  | offset
  deriving DecidableEq

def MemberType.convert : MemberType → Json → Except JsonError Json
  | .field type => type.convert
  | .offset => fun j => j.asDouble.map .float

/-- A setting: where it is in a request, in `station.conf` and in an answer. -/
structure StationMember where
  sent : List String
  stored : List String
  shown : List String
  type : MemberType

def StationMember.of (sent stored shown : List String) (field : String × MemberType) :
    StationMember :=
  ⟨sent ++ [field.1], stored ++ [field.1], shown ++ [field.1], field.2⟩

/-- The members of a section. -/
def sectionMembers (sent stored shown : List String) (fields : List (String × MemberType)) :
    List StationMember :=
  fields.map (StationMember.of sent stored shown)

def radioCommonMembers : List StationMember :=
  sectionMembers ["body", "radio_common"] ["radio_conf"] ["radio_common"]
    (radioCommonFields.map fun field => (field.1, .field field.2))

/-- The members of a radio in their order. -/
def radioFields : List (String × MemberType) :=
  [("type", .field .text), ("freq", .field .uint32), ("antenna_gain", .field .uint8),
    ("rssi_offset", .offset), ("tx_enable", .field .bool)]

def radioMembers (radio : String) : List StationMember :=
  sectionMembers ["body", radio] ["radio_conf", radio] [radio] radioFields

def stationMembers : List StationMember :=
  sectionMembers ["body", "station_conf"] ["station_conf"] ["station_conf"]
    (stationFields.map fun field => (field.1, .field field.2))

/-- The sets of the station's settings. -/
inductive StationSet where
  | radioCommon
  | radio0
  | radio1
  | station
  | all
  deriving DecidableEq

namespace StationSet

def setOption : StationSet → String
  | radioCommon => "cgicpp-bs-radio-common-set"
  | radio0 => "cgicpp-bs-radio0-set"
  | radio1 => "cgicpp-bs-radio1-set"
  | station => "cgicpp-bs-station-set"
  | all => "cgicpp-bs-all-set"

def getOption : StationSet → String
  | radioCommon => "cgicpp-bs-radio-common-get"
  | radio0 => "cgicpp-bs-radio0-get"
  | radio1 => "cgicpp-bs-radio1-get"
  | station => "cgicpp-bs-station-get"
  | all => "cgicpp-bs-all-get"

def members : StationSet → List StationMember
  | radioCommon => radioCommonMembers
  | radio0 => radioMembers "radio_0"
  | radio1 => radioMembers "radio_1"
  | station => stationMembers
  | all => radioCommonMembers ++ radioMembers "radio_0" ++ radioMembers "radio_1" ++ stationMembers

end StationSet

/-! ### The walk -/

/-- One member, read at one place and assigned at another. -/
def copyMember (origin place : StationMember → List String) (source target : Json)
    (m : StationMember) : Except JsonError Json := do
  let value ← source.indexPath (origin m)
  let value ← m.type.convert value
  target.assign (place m) value

/-- The members one after the other. -/
def copyMembers (origin place : StationMember → List String) (source : Json) :
    Json → List StationMember → Except JsonError Json
  | target, [] => .ok target
  | target, m :: ms => do
    let target ← copyMember origin place source target m
    copyMembers origin place source target ms

section Walk

variable {origin place : StationMember → List String} {source : Json}

theorem copyMembers_append (target : Json) (front back : List StationMember) :
    copyMembers origin place source target (front ++ back) =
      copyMembers origin place source target front >>=
        fun target => copyMembers origin place source target back := by
  induction front generalizing target with
  | nil => rfl
  | cons m front ih =>
    simp only [List.cons_append, copyMembers]
    cases copyMember origin place source target m with
    | error e => rfl
    | ok next => exact ih next

/-- A missing member does not convert. -/
theorem MemberType.convert_null (type : MemberType) (v : Json) : type.convert .null ≠ .ok v := by
  rcases type with (_ | _ | _ | _) | _ <;> exact fun converted => by cases converted

/-- The value of each member, as it has been read and as it is assigned. -/
inductive Taken (origin : StationMember → List String) (source : Json) :
    List StationMember → List Json → Prop
  | nil : Taken origin source [] []
  | cons {m : StationMember} {ms : List StationMember} {sent v : Json} {vs : List Json}
      (read : source.lookup (origin m) = some sent) (converted : m.type.convert sent = .ok v)
      (rest : Taken origin source ms vs) : Taken origin source (m :: ms) (v :: vs)

/-- What a walk writes. -/
def writes (place : StationMember → List String) (ms : List StationMember) (vs : List Json) :
    List (List String × Json) :=
  List.zipWith (fun m v => (place m, v)) ms vs

theorem copyMembers_ok {target target' : Json} {ms : List StationMember}
    (done : copyMembers origin place source target ms = .ok target') :
    ∃ vs, Taken origin source ms vs ∧ target' = target.putAll (writes place ms vs) := by
  induction ms generalizing target with
  | nil =>
    cases done
    exact ⟨[], .nil, rfl⟩
  | cons m ms ih =>
    obtain ⟨next, first, rest⟩ := except_bind_eq_ok.mp done
    obtain ⟨read, indexed, first⟩ := except_bind_eq_ok.mp first
    obtain ⟨v, converted, assigned⟩ := except_bind_eq_ok.mp first
    obtain ⟨vs, taken, same⟩ := ih rest
    rw [Json.eq_put_of_assign _ _ _ _ assigned] at same
    have there := Json.eq_of_indexPath_eq_ok indexed
    cases found : source.lookup (origin m) with
    | none =>
      rw [there, found] at converted
      exact absurd converted (MemberType.convert_null _ _)
    | some sent =>
      rw [there, found, Option.getD_some] at converted
      exact ⟨v :: vs, .cons found converted taken, same⟩

/-- A walk along members that are there and places that can be assigned to. -/
theorem copyMembers_of_taken {target : Json} {ms : List StationMember} {vs : List Json}
    (taken : Taken origin source ms vs) (apart : (ms.map place).Pairwise Json.Apart)
    (opened : ∀ m ∈ ms, target.Open (place m)) :
    copyMembers origin place source target ms = .ok (target.putAll (writes place ms vs)) := by
  induction taken generalizing target with
  | nil => rfl
  | @cons m ms sent v vs read converted rest ih =>
    rw [List.map_cons, List.pairwise_cons] at apart
    have first : copyMember origin place source target m = .ok (target.put (place m) v) := by
      rw [copyMember, Json.indexPath_of_lookup read]
      change (m.type.convert sent >>= fun value => target.assign (place m) value) = _
      rw [converted]
      exact Json.assign_eq_put _ _ _ (opened m (by simp))
    rw [copyMembers, first]
    refine ih apart.2 fun n member => ?_
    exact Json.open_put_of_apart _ _ (apart.1 _ (List.mem_map_of_mem member))
      (opened n (by simp [member]))

theorem Taken.of_mem {ms : List StationMember} {vs : List Json} (taken : Taken origin source ms vs)
    (place : StationMember → List String) {m : StationMember} (member : m ∈ ms) :
    ∃ sent v, source.lookup (origin m) = some sent ∧ m.type.convert sent = .ok v ∧
      (place m, v) ∈ writes place ms vs := by
  induction taken with
  | nil => cases member
  | cons read converted rest ih =>
    rcases List.mem_cons.mp member with rfl | later
    · exact ⟨_, _, read, converted, by simp [writes]⟩
    · obtain ⟨sent, v, read', converted', inside⟩ := ih later
      exact ⟨sent, v, read', converted', List.mem_cons_of_mem _ inside⟩

theorem Taken.places {ms : List StationMember} {vs : List Json} (taken : Taken origin source ms vs)
    (place : StationMember → List String) : (writes place ms vs).map Prod.fst = ms.map place := by
  induction taken with
  | nil => rfl
  | cons _ _ _ ih => simpa [writes] using ih

end Walk

/-! ### The sections as walks -/

section Sections

variable {origin place : StationMember → List String} {start stop : List String}
  {member : String × MemberType → StationMember}

theorem transfer_eq_copyMembers (read : ∀ field, origin (member field) = start ++ [field.1])
    (written : ∀ field, place (member field) = stop ++ [field.1])
    (typed : ∀ field, (member field).type = field.2) (source target : Json)
    (fields : List (String × FieldType)) :
    transfer source start stop target fields =
      copyMembers origin place source target
        (fields.map fun field => member (field.1, .field field.2)) := by
  induction fields generalizing target with
  | nil => rfl
  | cons field fields ih =>
    have one : copyMember origin place source target (member (field.1, .field field.2)) =
        transferField source start stop target field := by
      rw [copyMember, read, written, typed]
      rfl
    rw [transfer, List.map_cons, copyMembers, one]
    exact bind_congr fun next => ih next

theorem transferRadio_eq_copyMembers (read : ∀ field, origin (member field) = start ++ [field.1])
    (written : ∀ field, place (member field) = stop ++ [field.1])
    (typed : ∀ field, (member field).type = field.2) (source target : Json) :
    transferRadio source start stop target =
      copyMembers origin place source target (radioFields.map member) := by
  have front (target : Json) := transfer_eq_copyMembers read written typed source target
    [("type", .text), ("freq", .uint32), ("antenna_gain", .uint8)]
  have back (target : Json) := transfer_eq_copyMembers read written typed source target
    [("tx_enable", .bool)]
  have offset (target : Json) :
      copyMember origin place source target (member ("rssi_offset", .offset)) =
        transferRssiOffset source start stop target := by
    rw [copyMember, read, written, typed, transferRssiOffset]
    refine bind_congr fun value => ?_
    change (value.asDouble.map Json.float >>= fun value => target.assign _ value) = _
    cases value.asDouble <;> rfl
  have split : radioFields.map member =
      [("type", .text), ("freq", .uint32), ("antenna_gain", .uint8)].map
        (fun field : String × FieldType => member (field.1, .field field.2)) ++
      member ("rssi_offset", .offset) :: [("tx_enable", .bool)].map
        (fun field : String × FieldType => member (field.1, .field field.2)) := rfl
  rw [transferRadio, front, split, copyMembers_append]
  refine bind_congr fun next => ?_
  rw [copyMembers, offset]
  exact bind_congr fun next => back next

end Sections

theorem transfer_section {origin place : StationMember → List String}
    {start stop sent stored shown : List String}
    (read : ∀ field, origin (.of sent stored shown field) = start ++ [field.1])
    (written : ∀ field, place (.of sent stored shown field) = stop ++ [field.1])
    (source target : Json) (fields : List (String × FieldType)) :
    transfer source start stop target fields =
      copyMembers origin place source target
        (sectionMembers sent stored shown (fields.map fun field => (field.1, .field field.2))) := by
  rw [transfer_eq_copyMembers read written (fun _ => rfl), sectionMembers, List.map_map]
  rfl

theorem transferRadio_section {origin place : StationMember → List String} {radio : String}
    {start stop : List String}
    (read : ∀ field, origin (.of ["body", radio] ["radio_conf", radio] [radio] field) =
      start ++ [field.1])
    (written : ∀ field, place (.of ["body", radio] ["radio_conf", radio] [radio] field) =
      stop ++ [field.1]) (source target : Json) :
    transferRadio source start stop target =
      copyMembers origin place source target (radioMembers radio) :=
  transferRadio_eq_copyMembers read written (fun _ => rfl) source target

theorem parseRemoteRadioCommonConfig_eq (remoteJson localJson : Json) :
    parseRemoteRadioCommonConfig remoteJson localJson =
      copyMembers StationMember.sent StationMember.stored remoteJson localJson radioCommonMembers :=
  transfer_section (fun _ => rfl) (fun _ => rfl) _ _ _

theorem parseRemoteRadio0Config_eq (remoteJson localJson : Json) :
    parseRemoteRadio0Config remoteJson localJson =
      copyMembers StationMember.sent StationMember.stored remoteJson localJson
        (radioMembers "radio_0") :=
  transferRadio_section (fun _ => rfl) (fun _ => rfl) _ _

theorem parseRemoteRadio1Config_eq (remoteJson localJson : Json) :
    parseRemoteRadio1Config remoteJson localJson =
      copyMembers StationMember.sent StationMember.stored remoteJson localJson
        (radioMembers "radio_1") :=
  transferRadio_section (fun _ => rfl) (fun _ => rfl) _ _

theorem parseRemoteStationConfig_eq (remoteJson localJson : Json) :
    parseRemoteStationConfig remoteJson localJson =
      copyMembers StationMember.sent StationMember.stored remoteJson localJson stationMembers :=
  transfer_section (fun _ => rfl) (fun _ => rfl) _ _ _

theorem parseRadioCommonConfig_eq (localJson uploadJson : Json) :
    parseRadioCommonConfig localJson uploadJson =
      copyMembers StationMember.stored StationMember.shown localJson uploadJson
        radioCommonMembers :=
  transfer_section (fun _ => rfl) (fun _ => rfl) _ _ _

theorem parseRadio0Config_eq (localJson uploadJson : Json) :
    parseRadio0Config localJson uploadJson =
      copyMembers StationMember.stored StationMember.shown localJson uploadJson
        (radioMembers "radio_0") :=
  transferRadio_section (fun _ => rfl) (fun _ => rfl) _ _

theorem parseRadio1Config_eq (localJson uploadJson : Json) :
    parseRadio1Config localJson uploadJson =
      copyMembers StationMember.stored StationMember.shown localJson uploadJson
        (radioMembers "radio_1") :=
  transferRadio_section (fun _ => rfl) (fun _ => rfl) _ _

theorem parseStationConfig_eq (localJson uploadJson : Json) :
    parseStationConfig localJson uploadJson =
      copyMembers StationMember.stored StationMember.shown localJson uploadJson stationMembers :=
  transfer_section (fun _ => rfl) (fun _ => rfl) _ _ _

/-! ### The requests as walks -/

theorem converted_bind {α β : Type} (x : Except JsonError α) (f : α → Except JsonError β) :
    (converted x >>= fun a => converted (f a)) = converted (x >>= f) := by
  cases x <;> rfl

/-- The same, before what follows. -/
theorem converted_bind_bind {α β γ : Type} (x : Except JsonError α) (f : α → Except JsonError β)
    (k : β → CgiHandler γ) :
    (converted x >>= fun a => converted (f a) >>= k) = (converted (x >>= f) >>= k) := by
  rw [← converted_bind, Proc.bind_assoc]

/-- A set reads the request, walks along the members of its sections, and writes the file. -/
def settingsWritten (lib : JsonText) (inputJson : Bytes) (localJson : Json) (option : StationSet) :
    CgiHandler Unit := do
  let remoteJson ← parseJson lib inputJson
  let localJson ← converted
    (copyMembers StationMember.sent StationMember.stored remoteJson localJson option.members)
  writeJson lib stationConfDefault localJson

theorem stationSetLocalForEach_eq (lib : JsonText) (inputJson : Bytes) (localJson : Json) :
    stationSetLocalForEach lib inputJson localJson =
      settingsWritten lib inputJson localJson .all := by
  rw [stationSetLocalForEach, settingsWritten]
  refine bind_congr fun remoteJson => ?_
  simp only [parseRemoteRadioCommonConfig_eq, parseRemoteRadio0Config_eq,
    parseRemoteRadio1Config_eq, parseRemoteStationConfig_eq, StationSet.members,
    List.append_assoc, converted_bind_bind, copyMembers_append]

theorem stationSetLocalForOne_eq (lib : JsonText) (sys : System) (inputJson : Bytes)
    (localJson : Json) {option : StationSet} (single : option ≠ .all) :
    stationSetLocalForOne lib sys inputJson localJson option.setOption =
      settingsWritten lib inputJson localJson option := by
  rw [stationSetLocalForOne, settingsWritten]
  refine bind_congr fun remoteJson => ?_
  congr 1
  cases option with
  | all => exact absurd rfl single
  | _ =>
    simp [parseRemoteCb, StationSet.setOption, StationSet.members, parseRemoteRadioCommonConfig_eq,
      parseRemoteRadio0Config_eq, parseRemoteRadio1Config_eq, parseRemoteStationConfig_eq]

/-- A get. -/
def settingsShown (lib : JsonText) (localJson : Json) (option : StationSet) : CgiHandler Bytes := do
  let uploadJson ← converted
    (copyMembers StationMember.stored StationMember.shown localJson .null option.members)
  return lib.dump uploadJson

theorem stationParseLocalForEach_eq (lib : JsonText) (localJson : Json) :
    stationParseLocalForEach lib localJson = settingsShown lib localJson .all := by
  rw [stationParseLocalForEach, settingsShown]
  simp only [parseRadioCommonConfig_eq, parseRadio0Config_eq,
    parseRadio1Config_eq, parseStationConfig_eq, StationSet.members,
    List.append_assoc, converted_bind_bind, copyMembers_append]

theorem stationParseLocalForOne_eq (lib : JsonText) (localJson : Json) {option : StationSet}
    (single : option ≠ .all) :
    stationParseLocalForOne lib localJson option.getOption =
      settingsShown lib localJson option := by
  rw [stationParseLocalForOne, settingsShown]
  congr 2
  cases option with
  | all => exact absurd rfl single
  | _ =>
    simp [parseLocalCb, StationSet.getOption, StationSet.members, parseRadioCommonConfig_eq,
      parseRadio0Config_eq, parseRadio1Config_eq, parseStationConfig_eq]

theorem containsAll_setOption (option : StationSet) :
    containsText option.setOption "all" ↔ option = .all := by
  cases option <;> simp [containsText, StationSet.setOption, List.infix_cons_iff]

theorem containsAll_getOption (option : StationSet) :
    containsText option.getOption "all" ↔ option = .all := by
  cases option <;> simp [containsText, StationSet.getOption, List.infix_cons_iff]

/-- The text of an update that throws. -/
def updateFailed : String :=
  "Failed to update " ++ "LoRaStation" ++ " config, please check your json format or option value."

theorem mainStationSet_eq (lib : JsonText) (sys : System) (option : StationSet)
    (inputJson : Bytes) :
    mainStationSet lib sys option.setOption inputJson =
      thrownBy (loRaStation lib) >>= fun localJson =>
        catching (settingsWritten lib inputJson localJson option >>= fun _ => pure (0, []))
          updateFailed := by
  rw [mainStationSet]
  refine bind_congr fun localJson => ?_
  rw [parserSet]
  congr 2
  by_cases whole : option = .all
  · rw [if_pos ((containsAll_setOption option).mpr whole), whole, stationSetLocalForEach_eq]
  · rw [if_neg (mt (containsAll_setOption option).mp whole), stationSetLocalForOne_eq _ _ _ _ whole]

def getFailed : String :=
  "Failed to get" ++ "LoRaStation" ++ "config information, please check your local json file."

theorem mainStationGet_eq (lib : JsonText) (option : StationSet) :
    mainStationGet lib option.getOption =
      thrownBy (loRaStation lib) >>= fun localJson =>
        catching (settingsShown lib localJson option >>= fun rsp => pure (0, rsp)) getFailed := by
  rw [mainStationGet]
  refine bind_congr fun localJson => ?_
  rw [parserGet]
  congr 2
  by_cases whole : option = .all
  · rw [if_pos ((containsAll_getOption option).mpr whole), whole, stationParseLocalForEach_eq]
  · rw [if_neg (mt (containsAll_getOption option).mp whole), stationParseLocalForOne_eq _ _ whole]

/-! ### A set as a whole -/

/-- The settings as a set leaves them. -/
def newSettings (localJson : Json) (option : StationSet) (vs : List Json) : Json :=
  localJson.putAll (writes StationMember.stored option.members vs)

theorem ends_loRaStation {lib : JsonText} {g : Gateway} {ok : Json → Gateway → Prop}
    {stop : Fault → Gateway → Prop}
    (returns : ∀ localJson, documentAt lib g stationConfDefault = some localJson → ok localJson g)
    (throws : documentAt lib g stationConfDefault = none → stop .thrown g) :
    Proc.Ends (thrownBy (loRaStation lib)) g ok stop :=
  ends_readJson returns throws

theorem mainStationSet_ends (lib : JsonText) (sys : System) (option : StationSet)
    (inputJson : Bytes) (g : Gateway) :
    Proc.Ends (mainStationSet lib sys option.setOption inputJson) g
      (fun answer g' =>
        (answer = (0, []) ∧ ∃ localJson remoteJson vs,
          documentAt lib g stationConfDefault = some localJson ∧
          lib.parse inputJson = some remoteJson ∧
          Taken StationMember.sent remoteJson option.members vs ∧
          g' = g.setFile stationConfDefault
            (some (lib.dump (newSettings localJson option vs) ++ [10]))) ∨
        (answer = failed updateFailed ∧ g' = g))
      fun _ g' => g' = g := by
  rw [mainStationSet_eq]
  refine Proc.ends_bind (ends_loRaStation (fun localJson document => ?_) fun _ => rfl)
  refine Proc.ends_tryCatch ?_
  refine Proc.ends_bind (Proc.ends_bind (ends_parseJson (fun remoteJson valid => ?_) fun _ => ?_))
  · refine Proc.ends_bind (ends_converted (fun settings done => ?_) fun _ _ => ?_)
    · obtain ⟨vs, taken, rfl⟩ := copyMembers_ok done
      refine Proc.ends_modify (Proc.ends_pure (.inl ⟨rfl, ?_⟩))
      exact ⟨localJson, remoteJson, vs, document, valid, taken, rfl⟩
    · exact Proc.ends_pure (.inr ⟨rfl, rfl⟩)
  · exact Proc.ends_pure (.inr ⟨rfl, rfl⟩)

theorem stored_apart (option : StationSet) :
    (option.members.map StationMember.stored).Pairwise Json.Apart := by
  cases option <;> decide

theorem shown_apart (option : StationSet) :
    (option.members.map StationMember.shown).Pairwise Json.Apart := by
  cases option <;> decide

/-- What has been taken is where it has been written. -/
theorem Taken.written {origin : StationMember → List String} {source : Json}
    {ms : List StationMember} {vs : List Json} (taken : Taken origin source ms vs)
    {place : StationMember → List String} (apart : (ms.map place).Pairwise Json.Apart)
    (target : Json) :
    ∀ write ∈ writes place ms vs,
      (target.putAll (writes place ms vs)).lookup write.1 = some write.2 := by
  apply Json.lookup_putAll
  rw [taken.places place]
  exact apart

/-! ### A set and then a get -/

/-- The same number, of whatever kind, as an integer that a member holds. -/
def SameNumber : Json → UInt64 → Prop
  | .uint n, m => n = m
  | .int i, m => i.toInt = m.toNat
  | .float x, m => (m.toFloat == x) = true
  | _, _ => False

/-- A value is stored as it was sent. An offset is stored as the `double` of the number. -/
def MemberType.Keeps : MemberType → Json → Json → Prop
  | .field .uint8, sent, v | .field .uint32, sent, v => ∃ n, v = .uint n ∧ SameNumber sent n
  | .field .text, sent, v | .field .bool, sent, v => v = sent
  | .offset, sent, v => ∃ x, sent.asDouble = .ok x ∧ v = .float x

/-- The integers of a type that has `bound` of them. A `double` is one of them if it comes back from
the conversion, which has no defined result for a number out of range. -/
def HeldBelow (bound : Nat) (convert : Float → UInt64) : Json → Prop
  | .uint n => n.toNat < bound
  | .int i => 0 ≤ i.toInt ∧ i.toInt < bound
  | .float x => ((convert x).toFloat == x) = true
  | _ => False

/-- The values of a request that a member holds as they are. An offset is a `double`, and any number
is one. -/
def MemberType.Fits : MemberType → Json → Prop
  | .field .uint8 => HeldBelow 256 fun x => x.toUInt8.toUInt64
  | .field .uint32 => HeldBelow 4294967296 fun x => x.toUInt32.toUInt64
  | _ => fun _ => True

theorem mod_eq_self_iff {n m : UInt64} (positive : 0 < m) : n % m = n ↔ n < m := by
  rw [← UInt64.toNat_inj, UInt64.toNat_mod, UInt64.lt_iff_toNat_lt]
  rw [UInt64.lt_iff_toNat_lt] at positive
  constructor
  · intro same
    rw [← same]
    exact Nat.mod_lt _ positive
  · exact Nat.mod_eq_of_lt

theorem toNat_toUInt64_emod (i : Int64) {w : Nat} (narrow : w ≤ 64) :
    ((i.toUInt64.toNat % 2 ^ w : Nat) : Int) = i.toInt % (2 ^ w : Nat) := by
  have whole : (i.toUInt64.toNat : Int) = i.toInt % (2 ^ 64 : Nat) := by
    change (i.toBitVec.toNat : Int) = i.toBitVec.toInt % (2 ^ 64 : Nat)
    rw [BitVec.toInt_eq_toNat_bmod, Int.bmod_emod]
    exact (Int.emod_eq_of_lt (by omega) (by exact_mod_cast i.toBitVec.isLt)).symm
  rw [Int.natCast_emod, whole]
  exact Int.emod_emod_of_dvd _ (by exact_mod_cast Nat.pow_dvd_pow 2 narrow)

/-- An integer that loses its high bits is the same number exactly if it has none. -/
theorem sameNumber_int_iff (i : Int64) {n : UInt64} {w : Nat} (narrow : w ≤ 64)
    (low : n.toNat = i.toUInt64.toNat % 2 ^ w) :
    SameNumber (.int i) n ↔ 0 ≤ i.toInt ∧ i.toInt < (2 ^ w : Nat) := by
  have positive : (0 : Int) < (2 ^ w : Nat) := by exact_mod_cast Nat.two_pow_pos w
  rw [SameNumber, low, toNat_toUInt64_emod i narrow]
  constructor
  · intro same
    rw [same]
    exact ⟨Int.emod_nonneg _ positive.ne', Int.emod_lt_of_pos _ positive⟩
  · rintro ⟨natural, small⟩
    exact (Int.emod_eq_of_lt natural small).symm

theorem sameNumber_uint_iff (m : UInt64) {n : UInt64} {w : Nat} (low : n.toNat = m.toNat % 2 ^ w) :
    SameNumber (.uint m) n ↔ m.toNat < 2 ^ w := by
  rw [SameNumber, ← UInt64.toNat_inj, low]
  constructor
  · intro same
    rw [same]
    exact Nat.mod_lt _ (Nat.two_pow_pos w)
  · exact fun small => (Nat.mod_eq_of_lt small).symm

theorem MemberType.keeps_iff {type : MemberType} {sent v : Json}
    (converted : type.convert sent = .ok v) : type.Keeps sent v ↔ type.Fits sent := by
  rcases type with (_ | _ | _ | _) | _
  case field.text | field.bool =>
    refine iff_of_true ?_ trivial
    cases sent <;> cases converted
    all_goals rfl
  case offset =>
    refine iff_of_true ?_ trivial
    cases sent <;> cases converted
    all_goals exact ⟨_, rfl, rfl⟩
  case field.uint8 =>
    rw [MemberType.Keeps, MemberType.Fits]
    cases sent <;> cases converted <;> simp only [Json.uint.injEq, exists_eq_left']
    case int i => exact sameNumber_int_iff i (w := 8) (by decide) (by simp)
    case uint m => exact sameNumber_uint_iff m (w := 8) (by simp)
    case float x => rfl
    case bool b => rfl
  case field.uint32 =>
    rw [MemberType.Keeps, MemberType.Fits]
    cases sent <;> cases converted <;> simp only [Json.uint.injEq, exists_eq_left']
    case int i => exact sameNumber_int_iff i (w := 32) (by decide) (by simp)
    case uint m => exact sameNumber_uint_iff m (w := 32) (by simp)
    case float x => rfl
    case bool b => rfl

/-- A value that has been converted stays as it is. -/
theorem MemberType.convert_converted {type : MemberType} {sent v : Json}
    (converted : type.convert sent = .ok v) : type.convert v = .ok v := by
  rcases type with (_ | _ | _ | _) | _ <;> cases sent <;> cases converted <;>
    simp [MemberType.convert, FieldType.convert, Json.asString, Json.asBool, Json.asUInt8,
      Json.asUInt32, Json.asDouble, Json.asArithmetic, Except.map, mod_eq_self_iff,
      UInt64.mod_lt]

theorem MemberType.convert_proper {finite : Float → Prop} {type : MemberType} {sent v : Json}
    (converted : type.convert sent = .ok v)
    (printed : type = .offset → ∀ x, sent.asDouble = .ok x → finite x) : v.Proper finite := by
  cases type with
  | field type => exact FieldType.convert_proper converted
  | offset =>
    cases sent <;> cases converted <;> exact .float (printed rfl _ rfl)

/-- What has been taken once can be taken where it has been written. -/
theorem Taken.again {origin place : StationMember → List String} {source written : Json}
    {ms : List StationMember} {vs : List Json} (taken : Taken origin source ms vs)
    (there : ∀ write ∈ writes place ms vs, written.lookup write.1 = some write.2) :
    Taken place written ms vs := by
  induction taken with
  | nil => exact .nil
  | cons read converted rest ih =>
    refine .cons (there _ (List.mem_cons_self ..)) (MemberType.convert_converted converted) ?_
    exact ih fun write member => there write (List.mem_cons_of_mem _ member)

theorem Taken.proper {origin place : StationMember → List String} {source : Json}
    {ms : List StationMember} {vs : List Json} {finite : Float → Prop}
    (taken : Taken origin source ms vs)
    (printed : ∀ m ∈ ms, m.type = .offset → ∀ sent x, source.lookup (origin m) = some sent →
      sent.asDouble = .ok x → finite x) :
    ∀ write ∈ writes place ms vs, write.2.Proper finite := by
  induction taken with
  | nil => simp [writes]
  | cons read converted rest ih =>
    intro write member
    rcases List.mem_cons.mp member with rfl | later
    · refine MemberType.convert_proper converted fun offset x number => ?_
      exact printed _ (List.mem_cons_self ..) offset _ x read number
    · exact ih (fun m inside => printed m (List.mem_cons_of_mem _ inside)) write later

theorem loRaStation_of_document {lib : JsonText} {g : Gateway} {localJson : Json}
    (document : documentAt lib g stationConfDefault = some localJson) :
    thrownBy (loRaStation lib) g = (.ok localJson, g) := by
  change thrownBy (parsed (documentAt lib g stationConfDefault)) g = _
  rw [document]
  rfl

/-- A get of settings that have been taken. -/
theorem mainStationGet_of_taken {lib : JsonText} {option : StationSet} {g : Gateway}
    {localJson : Json} {vs : List Json}
    (document : documentAt lib g stationConfDefault = some localJson)
    (taken : Taken StationMember.stored localJson option.members vs) :
    mainStationGet lib option.getOption g =
      (.ok (0, lib.dump (Json.null.putAll (writes StationMember.shown option.members vs))), g) := by
  have walked := copyMembers_of_taken taken (shown_apart option)
    (fun m _ => Json.open_null m.shown)
  rw [mainStationGet_eq]
  refine Proc.bind_eq_ok.mpr ⟨localJson, g, loRaStation_of_document document, ?_⟩
  rw [settingsShown, walked]
  rfl

/-- The members of a request are in the settings and in the answer to a get as they were sent,
apart from the offsets. -/
def SettingsKept (option : StationSet) (remoteJson settings uploadJson : Json) : Prop :=
  ∀ m ∈ option.members, m.type ≠ .offset → ∃ sent v, remoteJson.lookup m.sent = some sent ∧
    m.type.Keeps sent v ∧ settings.lookup m.stored = some v ∧ uploadJson.lookup m.shown = some v

/-- The request has, for each member of a narrow type, an integer of that type. -/
def RequestFits (option : StationSet) (remoteJson : Json) : Prop :=
  ∀ m ∈ option.members, ∀ sent, remoteJson.lookup m.sent = some sent → m.type.Fits sent

/-- The offsets of the request, as `double`, are numbers that the library prints. -/
def OffsetsPrinted (lib : JsonText) (option : StationSet) (inputJson : Bytes) : Prop :=
  ∀ remoteJson, lib.parse inputJson = some remoteJson →
    ∀ m ∈ option.members, m.type = .offset → ∀ sent x, remoteJson.lookup m.sent = some sent →
      sent.asDouble = .ok x → lib.finite x

/-- A member keeps what it has been sent, if it keeps what it holds. -/
theorem Taken.keeps_iff {remoteJson : Json} {option : StationSet} {vs : List Json}
    (taken : Taken StationMember.sent remoteJson option.members vs) (localJson : Json)
    {m : StationMember} (member : m ∈ option.members) :
    ∃ sent v, remoteJson.lookup m.sent = some sent ∧
      (newSettings localJson option vs).lookup m.stored = some v ∧
      (Json.null.putAll (writes StationMember.shown option.members vs)).lookup m.shown =
        some v ∧
      (m.type.Keeps sent v ↔ m.type.Fits sent) := by
  obtain ⟨sent, v, read, converted, stored⟩ := taken.of_mem StationMember.stored member
  obtain ⟨sent', v', read', converted', shown⟩ := taken.of_mem StationMember.shown member
  cases read.symm.trans read'
  cases converted.symm.trans converted'
  exact ⟨sent, v, read, taken.written (stored_apart option) localJson _ stored,
    taken.written (shown_apart option) .null _ shown, MemberType.keeps_iff converted⟩

theorem Taken.kept_iff {remoteJson : Json} {option : StationSet} {vs : List Json}
    (taken : Taken StationMember.sent remoteJson option.members vs) (localJson : Json) :
    SettingsKept option remoteJson (newSettings localJson option vs)
      (Json.null.putAll (writes StationMember.shown option.members vs)) ↔
      RequestFits option remoteJson := by
  constructor
  · intro kept m member sent read
    by_cases offset : m.type = .offset
    · rw [offset]
      trivial
    · obtain ⟨sent', v, read', stored, _, keeps⟩ := taken.keeps_iff localJson member
      obtain ⟨sent'', v', read'', kept, stored', _⟩ := kept m member offset
      cases read.symm.trans read'
      cases read.symm.trans read''
      cases stored.symm.trans stored'
      exact keeps.mp kept
  · intro fits m member exact
    obtain ⟨sent, v, read, stored, shown, keeps⟩ := taken.keeps_iff localJson member
    exact ⟨sent, v, read, keeps.mpr (fits m member sent read), stored, shown⟩

/-- The settings that have been written are read. -/
theorem Taken.reread {lib : JsonText} {option : StationSet} {g : Gateway}
    {localJson remoteJson : Json} {vs : List Json}
    (taken : Taken StationMember.sent remoteJson option.members vs)
    (document : documentAt lib g stationConfDefault = some localJson)
    (printed : ∀ m ∈ option.members, m.type = .offset → ∀ sent x,
      remoteJson.lookup m.sent = some sent → sent.asDouble = .ok x → lib.finite x) :
    documentAt lib (g.setFile stationConfDefault
      (some (lib.dump (newSettings localJson option vs) ++ [10]))) stationConfDefault =
        some (newSettings localJson option vs) := by
  rw [documentAt, Gateway.setFile_files_self]
  refine lib.read_dump_endl _ (Json.Proper.putAll ?_ (taken.proper printed))
  obtain ⟨content, _, read⟩ := Option.bind_eq_some_iff.mp document
  exact lib.read_proper content localJson read

/-- A set that has been accepted, and the get of the same sections after it. What is outside of the
sections stays; what is inside is as it was sent exactly if each member holds what is sent for it.
-/
theorem station_settings_kept_iff {lib : JsonText} {sys : System} {option : StationSet}
    {inputJson rsp : Bytes} {g g' : Gateway} (printed : OffsetsPrinted lib option inputJson)
    (accepted : mainStationSet lib sys option.setOption inputJson g = (.ok (0, rsp), g')) :
    ∃ localJson remoteJson settings uploadJson,
      documentAt lib g stationConfDefault = some localJson ∧
      lib.parse inputJson = some remoteJson ∧
      documentAt lib g' stationConfDefault = some settings ∧
      mainStationGet lib option.getOption g' = (.ok (0, lib.dump uploadJson), g') ∧
      (∀ path, (∀ m ∈ option.members, Json.Apart m.stored path) →
        settings.lookup path = localJson.lookup path) ∧
      (SettingsKept option remoteJson settings uploadJson ↔ RequestFits option remoteJson) := by
  rcases (mainStationSet_ends lib sys option inputJson g).of_eq_ok accepted with
    ⟨_, localJson, remoteJson, vs, document, valid, taken, rfl⟩ | ⟨failed, _⟩
  · have reread := taken.reread document (printed remoteJson valid)
    refine ⟨localJson, remoteJson, _, _, document, valid, reread,
      mainStationGet_of_taken reread (taken.again (taken.written (stored_apart option) localJson)),
      ?_, taken.kept_iff localJson⟩
    intro path apart
    refine Json.lookup_putAll_of_apart localJson fun write member => ?_
    have place := List.mem_map_of_mem (f := Prod.fst) member
    rw [taken.places, List.mem_map] at place
    obtain ⟨m, inside, same⟩ := place
    rw [← same]
    exact apart m inside
  · cases failed

/-- A request with all its members, for settings that they can be assigned to, is accepted. -/
theorem mainStationSet_of_taken {lib : JsonText} (sys : System) {option : StationSet}
    {inputJson : Bytes} {g : Gateway} {localJson remoteJson : Json} {vs : List Json}
    (document : documentAt lib g stationConfDefault = some localJson)
    (valid : lib.parse inputJson = some remoteJson)
    (taken : Taken StationMember.sent remoteJson option.members vs)
    (opened : ∀ m ∈ option.members, localJson.Open m.stored) :
    mainStationSet lib sys option.setOption inputJson g = (.ok (0, []), g.setFile stationConfDefault
      (some (lib.dump (newSettings localJson option vs) ++ [10]))) := by
  have walked := copyMembers_of_taken taken (stored_apart option) opened
  rw [mainStationSet_eq]
  refine Proc.bind_eq_ok.mpr ⟨localJson, g, loRaStation_of_document document, ?_⟩
  have written : settingsWritten lib inputJson localJson option g = (.ok (), g.setFile
      stationConfDefault (some (lib.dump (newSettings localJson option vs) ++ [10]))) := by
    refine Proc.bind_eq_ok.mpr ⟨remoteJson, g, ?_, Proc.bind_eq_ok.mpr ⟨_, g, ?_, rfl⟩⟩
    · rw [parseJson, valid]
      rfl
    · rw [walked]
      rfl
  simp only [catching, Proc.tryCatch, Proc.bind_apply, written, Proc.pure_apply]

/-! A request with a clock source, for settings that have one. -/

/-- The members of the common section with a clock source. -/
def clockValues (clksrc : UInt64) : List Json :=
  [.str "spi:/dev/spidev1.0", .bool false, .bool true, .uint clksrc, .bool false]

def clockRequest (clksrc : UInt64) : Json :=
  Json.null.putAll (writes StationMember.sent radioCommonMembers (clockValues clksrc))

def clockSettings : Json :=
  Json.null.putAll (writes StationMember.stored radioCommonMembers (clockValues 0))

theorem clock_proper (place : StationMember → List String) (clksrc : UInt64)
    (finite : Float → Prop) :
    (Json.null.putAll (writes place radioCommonMembers (clockValues clksrc))).Proper finite := by
  refine Json.Proper.null.putAll ?_
  simp [writes, radioCommonMembers, sectionMembers, radioCommonFields, clockValues, Json.Proper.str,
    Json.Proper.bool, Json.Proper.uint]

def clockGateway : Gateway where
  files := fun _ => some (JsonCodec.text.dump clockSettings)
  folders := fun _ => false

/-- A system that has no device, and makes no folder. -/
def idleSystem : System :=
  ⟨none, fun _ => false, fun _ => false, fun _ => false, fun _ => true, []⟩

theorem clockRequest_taken (clksrc : UInt64) :
    Taken StationMember.sent (clockRequest clksrc) StationSet.radioCommon.members
      (clockValues clksrc.toUInt8.toUInt64) :=
  .cons rfl rfl (.cons rfl rfl (.cons rfl rfl (.cons rfl rfl (.cons rfl rfl .nil))))

theorem clockSettings_read :
    documentAt JsonCodec.text clockGateway stationConfDefault = some clockSettings := by
  rw [documentAt, clockGateway, Option.bind_some]
  exact JsonCodec.text.read_dump _ (clock_proper _ _ _)

theorem clockRequest_parsed (clksrc : UInt64) :
    JsonCodec.text.parse (JsonCodec.text.dump (clockRequest clksrc)) = some (clockRequest clksrc) :=
  JsonCodec.text.parse_dump _ (clock_proper _ _ _)

theorem clockSettings_complete {m : StationMember} (member : m ∈ StationSet.radioCommon.members) :
    ∃ v, clockSettings.lookup m.stored = some v := by
  simp only [StationSet.members, radioCommonMembers, sectionMembers, radioCommonFields,
    List.map_cons, List.map_nil, List.mem_cons, List.not_mem_nil, or_false] at member
  rcases member with rfl | rfl | rfl | rfl | rfl <;> exact ⟨_, rfl⟩

theorem clockRequest_accepted (clksrc : UInt64) :
    mainStationSet JsonCodec.text idleSystem
      StationSet.radioCommon.setOption (JsonCodec.text.dump (clockRequest clksrc)) clockGateway =
        (.ok (0, []), clockGateway.setFile stationConfDefault
          (some (JsonCodec.text.dump (newSettings clockSettings .radioCommon
            (clockValues clksrc.toUInt8.toUInt64)) ++ [10]))) := by
  refine mainStationSet_of_taken _ clockSettings_read (clockRequest_parsed clksrc)
    (clockRequest_taken clksrc) fun m member => ?_
  obtain ⟨v, there⟩ := clockSettings_complete member
  exact Json.open_of_lookup there

theorem clksrc_member :
    StationMember.of ["body", "radio_common"] ["radio_conf"] ["radio_common"]
      ("clksrc", .field .uint8) ∈ StationSet.radioCommon.members := by
  simp [StationSet.members, radioCommonMembers, sectionMembers, radioCommonFields]

theorem clockRequest_fits {clksrc : UInt64} (small : clksrc.toNat < 256) :
    RequestFits .radioCommon (clockRequest clksrc) := by
  intro m member sent read
  simp only [StationSet.members, radioCommonMembers, sectionMembers, radioCommonFields,
    List.map_cons, List.map_nil, List.mem_cons, List.not_mem_nil, or_false] at member
  rcases member with rfl | rfl | rfl | rfl | rfl <;> cases read
  exacts [trivial, trivial, trivial, small, trivial]

theorem clock_offsets (inputJson : Bytes) :
    OffsetsPrinted JsonCodec.text .radioCommon inputJson := by
  intro remoteJson _ m member offset
  simp only [StationSet.members, radioCommonMembers, sectionMembers, radioCommonFields,
    List.map_cons, List.map_nil, List.mem_cons, List.not_mem_nil, or_false] at member
  rcases member with rfl | rfl | rfl | rfl | rfl <;> cases offset

/-- The same, and the get after it. -/
theorem clock_source_truncated :
    ¬ ∀ (lib : JsonText) (sys : System) (option : StationSet) (inputJson rsp : Bytes)
      (g g' : Gateway) (localJson remoteJson : Json), OffsetsPrinted lib option inputJson →
      documentAt lib g stationConfDefault = some localJson →
      (∀ m ∈ option.members, ∃ v, localJson.lookup m.stored = some v) →
      lib.parse inputJson = some remoteJson →
      mainStationSet lib sys option.setOption inputJson g = (.ok (0, rsp), g') →
      ∃ settings uploadJson, documentAt lib g' stationConfDefault = some settings ∧
        mainStationGet lib option.getOption g' = (.ok (0, lib.dump uploadJson), g') ∧
        SettingsKept option remoteJson settings uploadJson := by
  intro keeps
  obtain ⟨settings, uploadJson, stored, _, kept⟩ :=
    keeps _ _ _ _ _ _ _ _ _ (clock_offsets _) clockSettings_read
      (fun _ member => clockSettings_complete member) (clockRequest_parsed 256)
      (clockRequest_accepted 256)
  have reread := (clockRequest_taken 256).reread clockSettings_read
    (clock_offsets _ _ (clockRequest_parsed 256))
  cases stored.symm.trans reread
  obtain ⟨sent, v, sentThere, ⟨n, rfl, same⟩, storedThere, _⟩ :=
    kept _ clksrc_member (by simp [StationMember.of])
  cases sentThere
  cases storedThere
  have equal : (256 : UInt64) = 0 := same
  exact absurd equal (by decide)

theorem station_settings_kept_clock :
    OffsetsPrinted JsonCodec.text .radioCommon (JsonCodec.text.dump (clockRequest 1)) ∧
      ∃ g' settings uploadJson,
        mainStationSet JsonCodec.text idleSystem
          StationSet.radioCommon.setOption (JsonCodec.text.dump (clockRequest 1)) clockGateway =
            (.ok (0, []), g') ∧
        documentAt JsonCodec.text g' stationConfDefault = some settings ∧
        mainStationGet JsonCodec.text StationSet.radioCommon.getOption g' =
          (.ok (0, JsonCodec.text.dump uploadJson), g') ∧
        SettingsKept .radioCommon (clockRequest 1) settings uploadJson := by
  refine ⟨clock_offsets _, ?_⟩
  obtain ⟨localJson, remoteJson, settings, uploadJson, _, valid, stored, shown, _, kept⟩ :=
    station_settings_kept_iff (clock_offsets _) (clockRequest_accepted 1)
  rw [clockRequest_parsed 1] at valid
  cases valid
  refine ⟨_, settings, uploadJson, clockRequest_accepted 1, stored, shown, kept.mpr ?_⟩
  exact clockRequest_fits (by decide)

end LorawanFeeds.Cgi
