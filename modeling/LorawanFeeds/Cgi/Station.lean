import LorawanFeeds.Lib.JsonText
import LorawanFeeds.Lib.Proc
import LorawanFeeds.Bridge.Protocol

/-!
# The station's settings

The parts of `LoRaStation` in `cgicpp-station.cpp` that a change of the work mode uses. A section is
transferred member by member: each is read from one document, converted to the type of the class
member, and assigned to the other document.
-/
namespace LorawanFeeds.Cgi

open Lib Bridge

def stationConfDefault : String := "/etc/basicstation/station.conf"

/-- The C++ type of a member. -/
inductive FieldType where
  | text
  | bool
  | uint8
  | uint32
  deriving DecidableEq, Repr

/-- A value as the member holds it, as a document again. -/
def FieldType.convert (type : FieldType) (j : Json) : Except JsonError Json :=
  match type with
  | .text => j.asString.map .str
  | .bool => j.asBool.map .bool
  | .uint8 => j.asUInt8.map fun n => .uint n.toUInt64
  | .uint32 => j.asUInt32.map fun n => .uint n.toUInt64

/-- `source[origin][key].get_to(member)` and `target[place][key] = member`. -/
def transferField (source : Json) (origin place : List String) (target : Json)
    (field : String × FieldType) : Except JsonError Json := do
  let value ← source.indexPath (origin ++ [field.1])
  let value ← field.2.convert value
  target.assign (place ++ [field.1]) value

/-- The members of a section, one after the other. -/
def transfer (source : Json) (origin place : List String) (target : Json) :
    List (String × FieldType) → Except JsonError Json
  | [] => .ok target
  | field :: fields => do
    let target ← transferField source origin place target field
    transfer source origin place target fields

def radioCommonFields : List (String × FieldType) :=
  [("device", .text), ("pps", .bool), ("lorawan_public", .bool), ("clksrc", .uint8),
    ("full_duplex", .bool)]

def stationFields : List (String × FieldType) :=
  [("routerid", .text), ("radio_init", .text), ("log_file", .text), ("log_level", .text),
    ("log_size", .uint32), ("log_rotate", .uint8)]

/-- `parse_remote_radio_common_config`. -/
def parseRemoteRadioCommonConfig (remoteJson localJson : Json) : Except JsonError Json :=
  transfer remoteJson ["body", "radio_common"] ["radio_conf"] localJson radioCommonFields

/-- `parse_station_config`. -/
def parseStationConfig (localJson uploadJson : Json) : Except JsonError Json :=
  transfer localJson ["station_conf"] ["station_conf"] uploadJson stationFields

/-! ### What a transfer does -/

theorem FieldType.convert_proper {finite : Float → Prop} {type : FieldType} {j v : Json}
    (converted : type.convert j = .ok v) : v.Proper finite := by
  cases type <;> simp only [FieldType.convert] at converted
  · cases read : j.asString with
    | error e => simp [read, Except.map] at converted
    | ok s =>
      simp only [read, Except.map, Except.ok.injEq] at converted
      exact converted ▸ .str s
  · cases read : j.asBool with
    | error e => simp [read, Except.map] at converted
    | ok b =>
      simp only [read, Except.map, Except.ok.injEq] at converted
      exact converted ▸ .bool b
  · cases read : j.asUInt8 with
    | error e => simp [read, Except.map] at converted
    | ok n =>
      simp only [read, Except.map, Except.ok.injEq] at converted
      exact converted ▸ .uint _
  · cases read : j.asUInt32 with
    | error e => simp [read, Except.map] at converted
    | ok n =>
      simp only [read, Except.map, Except.ok.injEq] at converted
      exact converted ▸ .uint _

/-- A text is there, or the conversion throws. -/
theorem FieldType.convert_text_ok {found : Option Json} {v : Json}
    (converted : FieldType.text.convert (found.getD .null) = .ok v) :
    ∃ s, v = .str s ∧ found = some (.str s) := by
  cases found with
  | none => cases converted
  | some j =>
    cases j <;> cases converted
    exact ⟨_, rfl, rfl⟩

/-- One member: it is read, converted and put in its place. -/
theorem transferField_ok {source target target' : Json} {origin place : List String}
    {field : String × FieldType} (done : transferField source origin place target field = .ok target') :
    ∃ v, field.2.convert ((source.lookup (origin ++ [field.1])).getD .null) = .ok v ∧
      target' = target.put (place ++ [field.1]) v := by
  obtain ⟨read, indexed, rest⟩ := except_bind_eq_ok.mp done
  obtain ⟨v, converted, assigned⟩ := except_bind_eq_ok.mp rest
  rw [Json.eq_of_indexPath_eq_ok indexed] at converted
  exact ⟨v, converted, Json.eq_put_of_assign _ _ _ _ assigned⟩

section

variable {source : Json} {origin place : List String}

theorem transfer_proper {finite : Float → Prop} {fields : List (String × FieldType)}
    {target target' : Json} (proper : target.Proper finite)
    (done : transfer source origin place target fields = .ok target') : target'.Proper finite := by
  induction fields generalizing target with
  | nil =>
    cases done
    exact proper
  | cons field fields ih =>
    obtain ⟨next, first, rest⟩ := except_bind_eq_ok.mp done
    obtain ⟨v, converted, rfl⟩ := transferField_ok first
    exact ih (proper.put (FieldType.convert_proper converted) _) rest

/-- A transfer leaves what is apart from its section. -/
theorem transfer_lookup_of_apart {fields : List (String × FieldType)} {target target' : Json}
    (done : transfer source origin place target fields = .ok target') {other : List String}
    (apart : ∀ field ∈ fields, Json.Apart (place ++ [field.1]) other) :
    target'.lookup other = target.lookup other := by
  induction fields generalizing target with
  | nil =>
    cases done
    rfl
  | cons field fields ih =>
    obtain ⟨next, first, rest⟩ := except_bind_eq_ok.mp done
    obtain ⟨v, _, rfl⟩ := transferField_ok first
    rw [ih rest fun f member => apart f (List.mem_cons_of_mem _ member)]
    exact Json.lookup_put_of_apart _ _ (apart field (List.mem_cons_self ..))

/-- A member that has been transferred has the value of the other document. -/
theorem transfer_lookup_self {fields : List (String × FieldType)} {target target' : Json}
    (done : transfer source origin place target fields = .ok target')
    (keys : (fields.map Prod.fst).Nodup) {field : String × FieldType} (member : field ∈ fields) :
    ∃ v, field.2.convert ((source.lookup (origin ++ [field.1])).getD .null) = .ok v ∧
      target'.lookup (place ++ [field.1]) = some v := by
  induction fields generalizing target with
  | nil => cases member
  | cons first fields ih =>
    obtain ⟨next, now, rest⟩ := except_bind_eq_ok.mp done
    obtain ⟨fresh, others⟩ := List.nodup_cons.mp keys
    rcases List.mem_cons.mp member with rfl | later
    · obtain ⟨v, converted, rfl⟩ := transferField_ok now
      refine ⟨v, converted, ?_⟩
      rw [transfer_lookup_of_apart rest, Json.lookup_put_self]
      intro other here
      refine Json.apart_concat place fun same => fresh ?_
      rw [← same]
      exact List.mem_map_of_mem here
    · exact ih rest others later

end

end LorawanFeeds.Cgi
