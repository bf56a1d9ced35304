import LorawanFeeds.Lib.TomlTree
import LorawanFeeds.Cgi.TomlFormat
import LorawanFeeds.Cgi.TomlValues

/-!
# The written configuration as a document

For members whose values are plain, the lines of the file are those of a document with a table for
each header, in which empty lists are comments.
-/
namespace LorawanFeeds.Cgi

open Lib

/-- The path of a table, whose key is printed with its dots. -/
def headerPath (key : String) : List String := (key.toList.splitOn '.').map String.ofList

/-- The line of a key: an empty list is commented out. -/
def entryLine (e : String × TomlValue) : TomlLine :=
  match e.2 with
  | .texts [] => .comment (TomlLine.entry e.1 (.texts [])).write
  | .pairs [] => .comment (TomlLine.entry e.1 (.pairs [])).write
  | value => .entry e.1 value

def tableLines (table : String × List (String × TomlValue)) : List TomlLine :=
  .header (headerPath table.1) :: table.2.map entryLine ++ [.blank]

/-- The document of the members. -/
def Members.lines (m : Members) : List TomlLine := m.tables.flatMap tableLines

/-! ### Formatting -/

/-- A key whose line is written as it has been printed, or commented out. -/
structure Printable (e : String × TomlValue) : Prop where
  bare : TomlLine.Bare e.1
  value : PlainValue e.2 ∨ e.2 = .texts [] ∨ e.2 = .pairs []
  type : e.1 ≠ "type" ∨ e.2.write ≠ ['"', '"']

theorem formatLine_empty {key : String} (bare : TomlLine.Bare key) {value : TomlValue}
    (empty : value.write = ['[', ']']) : formatLine (TomlLine.entry key value).write =
      some (TomlLine.comment (TomlLine.entry key value).write).write := by
  have absent : '.' ∉ (TomlLine.entry key value).write :=
    dot_notMem_entry bare (by rw [empty]; decide)
  have brackets : ['[', ']'] <:+: (TomlLine.entry key value).write := by
    refine ⟨key.toList ++ [' ', '=', ' '], [], ?_⟩
    simp [TomlLine.write, empty]
  have notType : '#' :: ' ' :: (TomlLine.entry key value).write ≠ "type = \"\"".toList := by
    intro same
    exact absurd (List.cons.inj same).1 (by decide)
  simp only [formatLine, absent, and_false, if_false, if_pos brackets, if_neg notType]
  rfl

theorem formatLine_printed {e : String × TomlValue} (printable : Printable e) :
    formatLine (TomlLine.entry e.1 e.2).write = some (entryLine e).write := by
  obtain ⟨key, value⟩ := e
  obtain ⟨bare, plain | rfl | rfl, type⟩ := printable
  · rw [formatLine_entry bare plain type, entryLine]
    split
    next empty =>
      cases empty
      exact absurd rfl plain.1
    next empty =>
      cases empty
      exact absurd rfl plain.1
    next => rfl
  · exact formatLine_empty bare rfl
  · exact formatLine_empty bare rfl

/-- The tables of a document, line by line. -/
theorem format_tables (tables : List (String × List (String × TomlValue)))
    (headers : ∀ table ∈ tables, formatLine (printHeader table.1) =
      some (TomlLine.header (headerPath table.1)).write)
    (printable : ∀ table ∈ tables, ∀ e ∈ table.2, Printable e) :
    (tables.flatMap printTable).filterMap formatLine =
      (tables.flatMap tableLines).map TomlLine.write := by
  induction tables with
  | nil => rfl
  | cons table tables ih =>
    have entries : (table.2.map fun e => (TomlLine.entry e.1 e.2).write).filterMap formatLine =
        (table.2.map entryLine).map TomlLine.write := by
      have each := printable table (by simp)
      revert each
      induction table.2 with
      | nil => intro _; rfl
      | cons e more inner =>
        intro each
        rw [List.map_cons, List.filterMap_cons, formatLine_printed (each e (by simp))]
        simp only [List.map_cons]
        rw [inner fun e member => each e (by simp [member])]
    have blank : formatLine [] = some [] := by decide
    have later := ih (fun t member => headers t (by simp [member]))
      fun t member => printable t (by simp [member])
    simp only [List.flatMap_cons, List.filterMap_append, List.map_append, later, printTable,
      tableLines, List.filterMap_cons, headers table (by simp), entries, blank, List.filterMap_nil,
      List.map_cons, List.map_nil, List.cons_append]
    rfl

theorem printHeader_keys (m : Members) : ∀ table ∈ m.tables, formatLine (printHeader table.1) =
    some (TomlLine.header (headerPath table.1)).write := by
  have keys : ∀ key ∈ ["general", "filters", "backend.semtech_udp", "backend",
      "backend.basic_station", "integration.mqtt", "integration.mqtt.auth", "integration",
      "integration.mqtt.auth.gcp_cloud_iot_core", "integration.mqtt.auth.azure_iot_hub",
      "integration.mqtt.auth.generic"], formatLine (printHeader key) =
      some (TomlLine.header (headerPath key)).write := by
    decide +kernel
  intro table member
  apply keys
  have here : table.1 ∈ m.tables.map Prod.fst := List.mem_map_of_mem member
  exact here

/-! ### Members whose lines stay -/

/-- The texts of the members, apart from addresses. -/
def Members.texts (m : Members) : List String :=
  [m.backendType, m.bs.region, m.bs.caCert, m.bs.tlsKey, m.bs.tlsCert, m.commandTopicTemplate,
    m.eventTopicTemplate, m.mqttAuthType, m.marshaler, m.gcp.jwtKeyFile, m.gcp.registryId,
    m.gcp.cloudRegion, m.gcp.projectId, m.gcp.deviceId, m.gcp.server, m.azure.tlsKey,
    m.azure.tlsCert, m.azure.hostname, m.azure.deviceId, m.azure.deviceConnectionString,
    m.generic.passPhrase, m.generic.tlsKey, m.generic.tlsCert, m.generic.caCert,
    m.generic.clientId, m.generic.password, m.generic.username]

/-- No line of the members is edited, apart from those of empty lists. -/
structure Members.Plain (m : Members) : Prop where
  texts : ∀ s ∈ m.texts, PlainText s
  addresses : ∀ ip ∈ [m.udp.ip, m.bs.ip, m.generic.ip], ¬ ['[', ']'] <:+: ip.toList
  netIds : ∀ s ∈ m.filters.netIds, PlainItem s
  joinEuis : ∀ e ∈ m.filters.joinEuis, PlainItem e.1 ∧ PlainItem e.2
  /-- A line with an empty type is dropped. -/
  types : m.backendType ≠ "" ∧ m.mqttAuthType ≠ ""

theorem plainText_of_open {s : String} (absent : '[' ∉ s.toList) : PlainText s := by
  refine ⟨fun brackets => absent (brackets.subset (by simp)), fun last => absent ?_⟩
  exact List.mem_of_getLast? last.1

theorem plainText_duration (sec : UInt32) : PlainText (parseJsonSecToString sec) := by
  apply plainText_of_open
  rw [parseJsonSecToString_toList, List.mem_append, List.mem_append, mem_writtenPart (by decide),
    mem_writtenPart (by decide), mem_writtenPart (by decide)]
  simp

/-- An address ends in its port. -/
theorem plainText_address {ip : String} (free : ¬ ['[', ']'] <:+: ip.toList) (port : UInt32) :
    PlainText (joined ip port) := by
  have digits {c : Char} (other : Decimal.isDigit c = false) :
      c ∉ Decimal.writeNat port.toNat := notMem_writeNat other _
  constructor
  · rw [← unpaired_iff] at free ⊢
    rw [joined_toList, unpaired_append, unpaired_cons]
    exact ⟨free, ⟨unpaired_of_notMem (digits (by decide)), by simp⟩, by simp⟩
  · rintro ⟨last, _⟩
    rw [joined_toList, List.getLast?_append_of_ne_nil _ (by simp),
      List.getLast?_cons_of_ne_nil (writeNat_ne_nil _)] at last
    exact digits (by decide) (List.mem_of_getLast? last)

section

variable {key : String} (bare : TomlLine.Bare key)

include bare

theorem printable_plain {value : TomlValue} (plain : PlainValue value) (other : key ≠ "type") :
    Printable (key, value) := ⟨bare, .inl plain, .inl other⟩

theorem printable_texts {list : List String} (each : ∀ s ∈ list, PlainItem s)
    (other : key ≠ "type") : Printable (key, .texts list) := by
  cases list with
  | nil => exact ⟨bare, .inr (.inl rfl), .inl other⟩
  | cons s list => exact printable_plain bare ⟨by simp, each⟩ other

theorem printable_pairs {list : List (String × String)}
    (each : ∀ e ∈ list, PlainItem e.1 ∧ PlainItem e.2) (other : key ≠ "type") :
    Printable (key, .pairs list) := by
  cases list with
  | nil => exact ⟨bare, .inr (.inr rfl), .inl other⟩
  | cons e list => exact printable_plain bare ⟨by simp, each⟩ other

theorem printable_some {s : String} (plain : PlainText s) (some : s ≠ "") :
    Printable (key, .text s) := by
  refine ⟨bare, .inl plain, .inr ?_⟩
  intro empty
  have inside : s.toList.flatMap Quoted.escape = [] := by
    simpa [TomlValue.write, writeString_eq] using empty
  cases eq : s.toList with
  | nil => exact some (String.toList_inj.mp eq)
  | cons c rest =>
    rw [eq, List.flatMap_cons, List.append_eq_nil_iff] at inside
    exact Quoted.escape_ne_nil c inside.1

end

theorem Members.Plain.printable {m : Members} (plain : m.Plain) :
    ∀ table ∈ m.tables, ∀ e ∈ table.2, Printable e := by
  obtain ⟨texts, addresses, netIds, joinEuis, types⟩ := plain
  have text {s : String} (member : s ∈ m.texts) : PlainValue (.text s) := texts s member
  have flag (b : Bool) : PlainValue (.flag b) := trivial
  have integer (i : Int64) : PlainValue (.number i) := trivial
  have number32 (n : UInt32) : PlainValue (number n) := trivial
  have time (sec : UInt32) : PlainValue (duration sec) := plainText_duration sec
  have address {ip : String} (port : UInt32) (member : ip ∈ [m.udp.ip, m.bs.ip, m.generic.ip]) :
      PlainValue (bindText ip port) := plainText_address (addresses ip member) port
  have type {s : String} (member : s ∈ m.texts) (some : s ≠ "") : Printable ("type", .text s) :=
    printable_some (by decide) (texts s member) some
  simp only [Members.tables, List.forall_mem_cons, List.not_mem_nil, false_implies, implies_true,
    and_true]
  refine ⟨?_, ⟨printable_texts (by decide) netIds (by decide),
    printable_pairs (by decide) joinEuis (by decide)⟩, ⟨?_, ?_, ?_⟩,
    type (by simp [Members.texts]) types.1, ⟨?_, ?_, ?_, ?_, ?_, ?_, ?_, ?_, ?_, ?_⟩, ⟨?_, ?_, ?_⟩,
    type (by simp [Members.texts]) types.2, ?_, ⟨?_, ?_, ?_, ?_, ?_, ?_, ?_⟩,
    ⟨?_, ?_, ?_, ?_, ?_, ?_⟩, ?_, ?_, ?_, ?_, ?_, ?_, ?_, ?_, ?_, ?_⟩
  all_goals
    refine printable_plain (by decide) ?_ (by decide)
    with_reducible first
      | exact flag _
      | exact integer _
      | exact number32 _
      | exact time _
      | exact address _ (by simp)
      | exact text (by simp [Members.texts])

/-- The lines of plain members are those of their document. -/
theorem Members.Plain.output {m : Members} (plain : m.Plain) :
    outputFormattedTomlFile m = m.lines.map TomlLine.write :=
  format_tables m.tables (printHeader_keys m) plain.printable

end LorawanFeeds.Cgi
