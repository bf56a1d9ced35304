import Mathlib.Data.Bool.AllAny
import Mathlib.Data.List.Nodup
import LorawanFeeds.Lib.TomlTree
import LorawanFeeds.Cgi.TomlLines

/-!
# What the written configuration is read as

The file of plain members is a well-formed document: every value is found at its path, and an empty
list is not found at all.
-/
namespace LorawanFeeds.Cgi

open Lib TomlLine

/-- The entries of tables, each with its path. -/
def tableEntries (tables : List (String × List (String × TomlValue))) :
    List (List String × TomlValue) :=
  tables.flatMap fun table => table.2.map fun e => (headerPath table.1 ++ [e.1], e.2)

/-- A value that is commented out. -/
def commented : TomlValue → Bool
  | .texts [] => true
  | .pairs [] => true
  | _ => false

theorem entryLine_commented (key : String) {value : TomlValue} (empty : commented value = true) :
    value.write = ['[', ']'] ∧
      entryLine (key, value) = .comment (TomlLine.entry key value).write := by
  cases value with
  | texts list =>
    cases list with
    | nil => exact ⟨rfl, rfl⟩
    | cons => cases empty
  | pairs list =>
    cases list with
    | nil => exact ⟨rfl, rfl⟩
    | cons => cases empty
  | _ => cases empty

theorem entryLine_kept (key : String) {value : TomlValue} (some : commented value = false) :
    entryLine (key, value) = .entry key value := by
  cases value with
  | texts list =>
    cases list with
    | nil => cases some
    | cons => rfl
  | pairs list =>
    cases list with
    | nil => cases some
    | cons => rfl
  | _ => rfl

section

variable (tables : List (String × List (String × TomlValue)))

/-- The lines of the entries of a table. -/
theorem entries_tableLines (path : List String) (es : List (String × TomlValue))
    (rest : List TomlLine) :
    tablePaths (es.map entryLine ++ rest) = tablePaths rest ∧
    TomlLine.entries path (es.map entryLine ++ rest) =
      ((es.map fun e => (path ++ [e.1], e.2)).filter fun e => ¬ commented e.2) ++
        TomlLine.entries path rest := by
  induction es with
  | nil => exact ⟨rfl, rfl⟩
  | cons e es ih =>
    obtain ⟨key, value⟩ := e
    rw [List.map_cons, List.cons_append, List.map_cons, List.filter_cons]
    cases empty : commented value with
    | true =>
      rw [(entryLine_commented key empty).2]
      exact ih
    | false =>
      rw [entryLine_kept key empty]
      refine ⟨ih.1, ?_⟩
      rw [TomlLine.entries, ih.2]
      rfl

theorem tablePaths_lines : tablePaths (tables.flatMap tableLines) = tables.map (headerPath ·.1) := by
  induction tables with
  | nil => rfl
  | cons table tables ih =>
    rw [List.flatMap_cons, tableLines, List.cons_append, List.cons_append, List.append_assoc,
      tablePaths, (entries_tableLines [] _ _).1, List.map_cons, ← ih]
    rfl

theorem entries_lines (path : List String) :
    TomlLine.entries path (tables.flatMap tableLines) =
      (tableEntries tables).filter fun e => ¬ commented e.2 := by
  induction tables generalizing path with
  | nil => rfl
  | cons table tables ih =>
    rw [List.flatMap_cons, tableLines, List.cons_append, List.cons_append, List.append_assoc,
      TomlLine.entries, (entries_tableLines _ _ _).2, tableEntries, List.flatMap_cons,
      List.filter_append, ← tableEntries, ← ih (headerPath table.1)]
    rfl

theorem comments_lines {text : List Char} (member : comment text ∈ tables.flatMap tableLines) :
    ∃ table ∈ tables, ∃ e ∈ table.2, e.2.write = ['[', ']'] ∧
      text = (TomlLine.entry e.1 e.2).write := by
  obtain ⟨table, here, line⟩ := List.mem_flatMap.mp member
  refine ⟨table, here, ?_⟩
  simp only [tableLines, List.cons_append, List.mem_cons, List.mem_append, reduceCtorEq, false_or,
    List.not_mem_nil, or_false, List.mem_map] at line
  obtain ⟨⟨key, value⟩, inside, line⟩ := line
  refine ⟨_, inside, ?_⟩
  cases empty : commented value with
  | true =>
    obtain ⟨brackets, eq⟩ := entryLine_commented key empty
    rw [eq] at line
    exact ⟨brackets, (TomlLine.comment.inj line).symm⟩
  | false =>
    rw [entryLine_kept key empty] at line
    cases line

end

/-! ### The keys of the configuration -/

/-- Tables whose paths are bare, defined once, and not below an entry. -/
structure FormedKeys (tables entries : List (List String)) : Prop where
  keys : ∀ path ∈ tables ++ entries, path ≠ [] ∧ ∀ key ∈ path, Bare key
  once : (tables ++ entries).Nodup
  leaves : ∀ leaf ∈ entries, ∀ path ∈ tables, ¬ leaf <+: path

/-- The paths of the tables, and the keys in them. -/
def configurationKeys : List (List String × List String) := [
  (["general"], ["log_level"]),
  (["filters"], ["net_ids", "join_euis"]),
  (["backend", "semtech_udp"], ["fake_rx_time", "skip_crc_check", "udp_bind"]),
  (["backend"], ["type"]),
  (["backend", "basic_station"], ["frequency_max", "frequency_min", "region", "write_timeout",
    "read_timeout", "ping_interval", "ca_cert", "tls_key", "tls_cert", "bind"]),
  (["integration", "mqtt"],
    ["max_reconnect_interval", "command_topic_template", "event_topic_template"]),
  (["integration", "mqtt", "auth"], ["type"]),
  (["integration"], ["marshaler"]),
  (["integration", "mqtt", "auth", "gcp_cloud_iot_core"], ["jwt_key_file", "jwt_expiration",
    "registry_id", "cloud_region", "project_id", "device_id", "server"]),
  (["integration", "mqtt", "auth", "azure_iot_hub"], ["tls_key", "tls_cert", "hostname",
    "device_id", "sas_token_expiration", "device_connection_string"]),
  (["integration", "mqtt", "auth", "generic"], ["tls_pass_phrase", "tls_key", "tls_cert", "ca_cert",
    "client_id", "clean_session", "qos", "password", "username", "server"])]

def configurationPaths : List (List String) :=
  configurationKeys.flatMap fun table => table.2.map fun key => table.1 ++ [key]

theorem tables_keys (m : Members) :
    m.tables.map (fun table => (headerPath table.1, table.2.map Prod.fst)) = configurationKeys := by
  let names (m : Members) := m.tables.map fun table => (table.1, table.2.map Prod.fst)
  have same : names m = names (.initial ⟨false, false, false⟩) := rfl
  have paths : (names (.initial ⟨false, false, false⟩)).map (fun t => (headerPath t.1, t.2)) =
      configurationKeys := by
    decide +kernel
  rw [← paths, ← same, List.map_map]
  rfl

theorem configuration_formed : FormedKeys (configurationKeys.map Prod.fst) configurationPaths := by
  constructor
  · decide +kernel
  · decide +kernel
  · decide +kernel

theorem bare_printed {key : String} (bare : Bare key) : ∀ c ∈ key.toList, 32 ≤ c.toNat := by
  intro c member
  rcases bare.2 c member with alphanumeric | rfl | rfl
  · delta Char.isAlphanum Char.isAlpha Char.isUpper Char.isLower Char.isDigit at alphanumeric
    simp only [Bool.or_eq_true, Bool.and_eq_true, decide_eq_true_eq, ge_iff_le, UInt32.le_iff_toNat_le] at alphanumeric
    have same : c.val.toNat = c.toNat := rfl
    simp only [same] at alphanumeric
    have bounds : 32 ≤ 'A'.val.toNat ∧ 32 ≤ 'a'.val.toNat ∧ 32 ≤ '0'.val.toNat := by decide
    omega
  · decide
  · decide

theorem FormedKeys.wellFormed {tables : List (String × List (String × TomlValue))}
    (formed : FormedKeys (tables.map (headerPath ·.1)) ((tableEntries tables).map Prod.fst)) :
    WellFormed (tables.flatMap tableLines) := by
  have sub : (entryPaths [] (tables.flatMap tableLines)).Sublist
      ((tableEntries tables).map Prod.fst) := by
    rw [entryPaths_eq, entries_lines]
    exact List.filter_sublist.map _
  have all := (List.Sublist.refl (tables.map (headerPath ·.1))).append sub
  constructor
  · rw [tablePaths_lines]
    exact fun path member => formed.keys path (all.subset member)
  · rw [tablePaths_lines]
    exact formed.once.sublist all
  · rw [tablePaths_lines]
    exact fun leaf member => formed.leaves leaf (sub.subset member)
  · intro text member c inside
    obtain ⟨table, here, e, entry, brackets, rfl⟩ := comments_lines tables member
    have key : Bare e.1 := by
      refine (formed.keys (headerPath table.1 ++ [e.1]) ?_).2 e.1 (by simp)
      apply List.mem_append_right
      have full : (headerPath table.1 ++ [e.1], e.2) ∈ tableEntries tables :=
        List.mem_flatMap.mpr ⟨table, here, List.mem_map.mpr ⟨e, entry, rfl⟩⟩
      exact List.mem_map_of_mem full
    rw [TomlLine.write, brackets, List.mem_append] at inside
    rcases inside with inKey | after
    · exact bare_printed key c inKey
    · have known : ∀ c ∈ [' ', '=', ' ', '[', ']'], 32 ≤ c.toNat :=
        List.all_iff_forall_prop.mp (by decide)
      exact known c after

/-- No entry leads through another one. -/
theorem FormedKeys.not_prefix {tables : List (String × List (String × TomlValue))}
    (formed : FormedKeys (tables.map (headerPath ·.1)) ((tableEntries tables).map Prod.fst))
    {e f : List String × TomlValue} (first : e ∈ tableEntries tables)
    (second : f ∈ tableEntries tables) (different : e.1 ≠ f.1) : ¬ e.1 <+: f.1 := by
  obtain ⟨t, table, entry⟩ := List.mem_flatMap.mp second
  obtain ⟨g, _, rfl⟩ := List.mem_map.mp entry
  intro leads
  rcases List.prefix_concat_iff.mp leads with same | before
  · exact different same
  · exact formed.leaves _ (List.mem_map_of_mem first) _ (List.mem_map.mpr ⟨t, table, rfl⟩) before

/-- The keys do not depend on the members. -/
theorem Members.formed (m : Members) :
    FormedKeys (m.tables.map (headerPath ·.1)) ((tableEntries m.tables).map Prod.fst) := by
  have tables : m.tables.map (headerPath ·.1) = configurationKeys.map Prod.fst := by
    rw [← tables_keys m, List.map_map]
    rfl
  have entries : (tableEntries m.tables).map Prod.fst = configurationPaths := by
    rw [configurationPaths, ← tables_keys m, tableEntries, List.map_flatMap, List.flatMap_map]
    simp only [List.map_map]
    rfl
  rw [tables, entries]
  exact configuration_formed

/-! ### Reading the file -/

/-- A tree with the values of the members. -/
structure Written (data : Toml) (m : Members) : Prop where
  table : ∀ t ∈ m.tables, ∃ inner, data.lookup (headerPath t.1) = some inner
  value : ∀ t ∈ m.tables, ∀ e ∈ t.2, commented e.2 = false →
    data.lookup (headerPath t.1 ++ [e.1]) = some e.2.tree
  absent : ∀ t ∈ m.tables, ∀ e ∈ t.2, commented e.2 = true →
    data.lookup (headerPath t.1 ++ [e.1]) = none

theorem mem_tableEntries {tables : List (String × List (String × TomlValue))}
    {t : String × List (String × TomlValue)} (table : t ∈ tables) {e : String × TomlValue}
    (entry : e ∈ t.2) : (headerPath t.1 ++ [e.1], e.2) ∈ tableEntries tables :=
  List.mem_flatMap.mpr ⟨t, table, List.mem_map.mpr ⟨e, entry, rfl⟩⟩

/-- The document of the members is the tree of their values. -/
theorem Members.lines_written (m : Members) : Written (build [] (.table []) m.lines) m := by
  have formed := m.formed.wellFormed
  constructor
  · intro t member
    apply formed.lookup_table
    rw [tablePaths_lines]
    exact List.mem_map.mpr ⟨t, member, rfl⟩
  · intro t table e entry some
    refine @WellFormed.lookup_entry _ formed (_, e.2) ?_
    rw [entries_lines, List.mem_filter]
    exact ⟨mem_tableEntries table entry, by simp [some]⟩
  · intro t table e entry empty
    have full := mem_tableEntries table entry
    have path := List.mem_map_of_mem (f := Prod.fst) full
    refine lookup_absent (by simp) ?_ ?_
    · rw [Members.lines, tablePaths_lines]
      exact m.formed.leaves _ path
    · intro other member
      rw [Members.lines, entryPaths_eq, entries_lines] at member
      obtain ⟨f, kept, rfl⟩ := List.mem_map.mp member
      obtain ⟨inside, some⟩ := List.mem_filter.mp kept
      -- Another entry has another path, as the same path would have the same value.
      have different : f.1 ≠ headerPath t.1 ++ [e.1] := by
        intro same
        have once := (List.nodup_append.mp m.formed.once).2.1
        have equal := List.inj_on_of_nodup_map once inside full same
        rw [equal] at some
        simp [empty] at some
      exact ⟨m.formed.not_prefix inside full different, m.formed.not_prefix full inside different.symm⟩

/-- The file of plain members is read as the tree of their values. -/
theorem Members.Plain.written (toml : TomlText) {m : Members} (plain : m.Plain) :
    ∃ data, toml.parse (outputFormattedTomlFile m) = some data ∧ Written data m := by
  refine ⟨_, ?_, m.lines_written⟩
  rw [plain.output]
  exact toml.parse_lines _ m.formed.wellFormed

end LorawanFeeds.Cgi
