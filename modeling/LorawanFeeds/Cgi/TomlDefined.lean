import LorawanFeeds.Lib.TomlTree
import LorawanFeeds.Cgi.TomlSet

/-!
# When a request for the configuration of the bridge ends

An address or a duration that the readers of the file come to may be a text that C does not define
the conversion of: `strtok` finds no token, or the number does not fit. Readers stop at the first
key that is missing or has another type, so that it depends on the file alone whether they come to
such a text.
-/
namespace LorawanFeeds.Cgi

open Lib Bridge Proc

/-! ### The values that are read -/

/-- What a reader makes of a value. -/
inductive ValueKind where
  | any | text | bool | number | bind | server | duration
  deriving DecidableEq, Repr

/-- Whether the value is accepted, and whether C defines what happens. -/
def ValueKind.check : ValueKind → Toml → Except Fault Unit
  | .any, _ => .ok ()
  | .text, v => thrown (v.asString.map fun _ => ())
  | .bool, v => thrown (v.asBool.map fun _ => ())
  | .number, v => thrown (v.asUInt32.map fun _ => ())
  | .bind, v => do (splitBind (← thrown v.asString)).map fun _ => ()
  | .server, v => do (splitServer (← thrown v.asString)).map fun _ => ()
  | .duration, v => do (parseTomlStringToSec (← thrown v.asString)).map fun _ => ()

/-- The values at these paths, one after the other, up to the first that is not accepted. -/
def reads (data : Toml) : List (List String × ValueKind) → Except Fault Unit
  | [] => .ok ()
  | reading :: readings => do
    reading.2.check (← thrown (data.lookup reading.1))
    reads data readings

/-- The keys of a table. -/
def below (place : List String) (kinds : List (String × ValueKind)) :
    List (List String × ValueKind) :=
  kinds.map fun kind => (place ++ [kind.1], kind.2)

def backendReadings : List (List String × ValueKind) :=
  below ["backend"] [("type", .text)] ++
    (below ["backend", "semtech_udp"]
      [("udp_bind", .bind), ("skip_crc_check", .bool), ("fake_rx_time", .bool)] ++
    below ["backend", "basic_station"]
      [("bind", .bind), ("tls_cert", .text), ("tls_key", .text), ("ca_cert", .text),
        ("ping_interval", .duration), ("read_timeout", .duration), ("write_timeout", .duration),
        ("region", .text), ("frequency_min", .number), ("frequency_max", .number)])

/-- An exception behind the table itself only turns the filters off. -/
def filtersReadings : List (List String × ValueKind) := [(["filters"], .any)]

def generalReadings : List (List String × ValueKind) := below ["general"] [("log_level", .number)]

def integrationReadings : List (List String × ValueKind) :=
  below ["integration"] [("marshaler", .text)] ++
    (below ["integration", "mqtt"]
      [("event_topic_template", .text), ("command_topic_template", .text),
        ("max_reconnect_interval", .duration)] ++
    (below ["integration", "mqtt", "auth"] [("type", .text)] ++
    (below ["integration", "mqtt", "auth", "generic"]
      [("server", .server), ("username", .text), ("password", .text), ("qos", .number),
        ("clean_session", .bool), ("client_id", .text), ("ca_cert", .text), ("tls_cert", .text),
        ("tls_key", .text), ("tls_pass_phrase", .text)] ++
    (below ["integration", "mqtt", "auth", "azure_iot_hub"]
      [("device_connection_string", .text), ("sas_token_expiration", .duration),
        ("device_id", .text), ("hostname", .text), ("tls_cert", .text), ("tls_key", .text)] ++
    below ["integration", "mqtt", "auth", "gcp_cloud_iot_core"]
      [("server", .text), ("device_id", .text), ("project_id", .text), ("cloud_region", .text),
        ("registry_id", .text), ("jwt_expiration", .duration), ("jwt_key_file", .text)]))))

/-- The readings of the whole file, in the order of the map. -/
def allReadings : List (List String × ValueKind) :=
  backendReadings ++ (filtersReadings ++ (generalReadings ++ integrationReadings))

/-- The readings of a request. -/
def getReadings (option : String) : List (List String × ValueKind) :=
  if containsText option "all" then allReadings
  else if option = "cgicpp-toml-general-get" then generalReadings
  else if option = "cgicpp-toml-filters-get" then filtersReadings
  else if option = "cgicpp-toml-backend-get" then backendReadings
  else if option = "cgicpp-toml-integration-get" then integrationReadings
  else []

/-- The readers do not come to a text that C does not define the conversion of. -/
def Defined (data : Toml) (readings : List (List String × ValueKind)) : Prop :=
  reads data readings ≠ .error .undefined

/-! ### The readers -/

section

variable {data : Toml}

theorem reads_append (first second : List (List String × ValueKind)) :
    reads data (first ++ second) = reads data first >>= fun _ => reads data second := by
  induction first with
  | nil => rfl
  | cons reading first ih =>
    rw [List.cons_append, reads, reads, ih]
    cases thrown (data.lookup reading.1) with
    | error e => rfl
    | ok v =>
      cases checked : reading.2.check v with
      | error e => simp [bind, Except.bind, checked]
      | ok u => simp [bind, Except.bind, checked]

/-- A table that is not there. -/
theorem reads_below_of_none {place : List String} (missing : data.lookup place = none)
    (kind : String × ValueKind) (kinds : List (String × ValueKind))
    (more : List (List String × ValueKind)) :
    reads data (below place (kind :: kinds) ++ more) = .error .thrown := by
  rw [below, List.map_cons, List.cons_append, reads, Toml.lookup_append, missing]
  rfl

/-- A field of a table is read as a value of this kind. -/
def Matches (field : TomlField) (kind : String × ValueKind) : Prop :=
  field.key = kind.1 ∧ ∀ v, (field.read v).map (fun _ => ()) = kind.2.check v

theorem thrown_map {α β : Type} (value : Option α) (f : α → β) :
    (thrown (value.map f)).map (fun _ => ()) = thrown (value.map fun _ => ()) := by
  cases value <;> rfl

theorem matches_text (key : String) (f : String → Members → Members) :
    Matches (.text key f) (key, .text) :=
  ⟨rfl, fun v => thrown_map v.asString f⟩

theorem matches_bool (key : String) (f : Bool → Members → Members) :
    Matches (.bool key f) (key, .bool) :=
  ⟨rfl, fun v => thrown_map v.asBool f⟩

theorem matches_number (key : String) (f : UInt32 → Members → Members) :
    Matches (.uint32 key f) (key, .number) :=
  ⟨rfl, fun v => thrown_map v.asUInt32 f⟩

theorem matches_duration (key : String) (f : UInt32 → Members → Members) :
    Matches (.duration key f) (key, .duration) := by
  refine ⟨rfl, fun v => ?_⟩
  simp only [TomlField.duration, ValueKind.check]
  cases v.asString with
  | none => rfl
  | some t => cases read : parseTomlStringToSec t <;> simp [thrown, bind, Except.bind, read,
      Except.map, pure, Except.pure]

theorem address_read (split : String → Except Fault (Option (String × UInt32)))
    (f : String → UInt32 → Members → Members) (key : String) (v : Toml) :
    ((TomlField.address key split f).read v).map (fun _ => ()) =
      thrown v.asString >>= fun s => (split s).map fun _ => () := by
  simp only [TomlField.address]
  cases v.asString with
  | none => rfl
  | some s =>
    cases read : split s with
    | error e => simp [thrown, bind, Except.bind, read, Except.map]
    | ok parts =>
      cases parts <;> simp [thrown, bind, Except.bind, read, Except.map, pure, Except.pure]

theorem matches_bind (key : String) (f : String → UInt32 → Members → Members) :
    Matches (.address key splitBind f) (key, .bind) :=
  ⟨rfl, address_read splitBind f key⟩

theorem matches_server (key : String) (f : String → UInt32 → Members → Members) :
    Matches (.address key splitServer f) (key, .server) :=
  ⟨rfl, address_read splitServer f key⟩

/-- The fields of a table that is there. -/
theorem gives_fields {place : List String} {table : Toml} (found : data.lookup place = some table)
    {fields : List TomlField} {kinds : List (String × ValueKind)}
    (same : List.Forall₂ Matches fields kinds) :
    Gives (parseFields table fields) (reads data (below place kinds)) := by
  induction same with
  | nil => exact gives_pure ()
  | @cons field kind fields kinds first _ ih =>
    obtain ⟨key, read⟩ := first
    rw [below, List.map_cons, reads, ← key, ← Toml.find_eq_lookup found]
    refine gives_bind (gives_ofExcept _) ?_
    intro v _
    -- The members are assigned as the field says, which no later result depends on.
    rw [← read v]
    cases value : field.read v with
    | error e => exact fun _ => rfl
    | ok f => exact fun _ => ih _

/-- A table is looked up, and the readings of `readings` begin in it. -/
theorem gives_find {place : List String} {parent : Toml}
    (found : data.lookup place = some parent) {key : String} {kind : String × ValueKind}
    {kinds : List (String × ValueKind)} {more : List (List String × ValueKind)}
    {f : Toml → TomlProc Unit}
    (inside : ∀ table, data.lookup (place ++ [key]) = some table →
      Gives (f table) (reads data (below (place ++ [key]) (kind :: kinds) ++ more))) :
    Gives (find parent key >>= f) (reads data (below (place ++ [key]) (kind :: kinds) ++ more)) := by
  rw [find, Toml.find_eq_lookup found]
  cases there : data.lookup (place ++ [key]) with
  | none =>
    rw [reads_below_of_none there]
    exact fun _ => rfl
  | some table => exact fun p => inside table there p

/-- The fields of a table, and what follows it. -/
theorem gives_fields_bind {place : List String} {table : Toml}
    (found : data.lookup place = some table) {fields : List TomlField}
    {kinds : List (String × ValueKind)} {more : List (List String × ValueKind)}
    (same : List.Forall₂ Matches fields kinds) {f : Unit → TomlProc Unit}
    (rest : Gives (f ()) (reads data more)) :
    Gives (parseFields table fields >>= f) (reads data (below place kinds ++ more)) := by
  rw [reads_append]
  exact gives_bind (gives_fields found same) fun _ _ => rest

/-- A table with its fields. -/
theorem gives_table {place : List String} {parent : Toml}
    (found : data.lookup place = some parent) {key : String} {fields : List TomlField}
    {kind : String × ValueKind} {kinds : List (String × ValueKind)}
    (same : List.Forall₂ Matches fields (kind :: kinds)) :
    Gives (do let table ← find parent key; parseFields table fields)
      (reads data (below (place ++ [key]) (kind :: kinds))) := by
  have whole := @gives_find data place parent found key kind kinds []
    (fun table => parseFields table fields)
  rw [List.append_nil] at whole
  exact whole fun table there => gives_fields there same

theorem parseTomlBackend_gives (data : Toml) :
    Gives (parseTomlBackend data) (reads data backendReadings) := by
  refine @gives_find data [] data rfl "backend" _ _ _ _ ?_
  intro backend found
  refine gives_fields_bind found (.cons (matches_text _ _) .nil) ?_
  rw [reads_append]
  refine gives_bind (gives_table found ?_) fun _ _ => gives_table found ?_
  · exact .cons (matches_bind _ _) (.cons (matches_bool _ _) (.cons (matches_bool _ _) .nil))
  · exact .cons (matches_bind _ _) (.cons (matches_text _ _) (.cons (matches_text _ _)
      (.cons (matches_text _ _) (.cons (matches_duration _ _) (.cons (matches_duration _ _)
      (.cons (matches_duration _ _) (.cons (matches_text _ _) (.cons (matches_number _ _)
      (.cons (matches_number _ _) .nil)))))))))

theorem eq_thrown {α : Type} {value : Option α} {e : Fault} (stopped : thrown value = .error e) :
    e = .thrown := by
  cases value <;> cases stopped
  rfl

/-- Fields whose conversion can only throw. -/
theorem parseFields_throws {fields : List TomlField}
    (each : ∀ field ∈ fields, ∀ v e, field.read v = .error e → e = .thrown) (table : Toml)
    (p : BridgeToml) :
    Ends (parseFields table fields) p (fun _ _ => True) fun e _ => e = .thrown := by
  induction fields generalizing p with
  | nil => exact ends_pure trivial
  | cons field fields ih =>
    apply ends_bind
    refine ends_ofExcept ?_ fun e stopped => eq_thrown stopped
    intro v _
    apply ends_bind
    refine ends_ofExcept ?_ fun e stopped => each field (by simp) v e stopped
    intro f _
    apply ends_bind
    apply ends_modify
    exact ih (fun later member => each later (by simp [member])) _

theorem parseTomlFilters_gives (data : Toml) :
    Gives (parseTomlFilters data) (reads data filtersReadings) := by
  have start : reads data filtersReadings = thrown (data.find "filters") >>= fun _ => .ok () := by
    rw [Toml.find_eq_lookup (rfl : data.lookup [] = some data)]
    rfl
  rw [start]
  refine gives_bind (gives_ofExcept _) fun filters _ => gives_of_ends fun p => ?_
  -- Whatever the fields throw is caught.
  refine ends_tryCatch (ends_bind ((parseFields_throws ?_ filters p).imp ?_ ?_))
  · simp only [List.mem_cons, List.not_mem_nil, or_false]
    rintro field (rfl | rfl) v e stopped <;> exact eq_thrown stopped
  · exact fun _ _ _ => ends_modify trivial
  · rintro e p' rfl
    exact ends_modify trivial

theorem parseTomlGeneral_gives (data : Toml) :
    Gives (parseTomlGeneral data) (reads data generalReadings) :=
  @gives_table data [] data rfl "general" _ _ _ (.cons (matches_number _ _) .nil)

theorem parseTomlIntegration_gives (data : Toml) :
    Gives (parseTomlIntegration data) (reads data integrationReadings) := by
  refine @gives_find data [] data rfl "integration" _ _ _ _ ?_
  intro integration found
  refine gives_fields_bind found (.cons (matches_text _ _) .nil) ?_
  refine gives_find found ?_
  intro mqtt found
  refine gives_fields_bind found (.cons (matches_text _ _) (.cons (matches_text _ _)
    (.cons (matches_duration _ _) .nil))) ?_
  refine gives_find found ?_
  intro auth found
  refine gives_fields_bind found (.cons (matches_text _ _) .nil) ?_
  rw [reads_append, reads_append]
  refine gives_bind (gives_table found ?_) fun _ _ =>
    gives_bind (gives_table found ?_) fun _ _ => gives_table found ?_
  · exact .cons (matches_server _ _) (.cons (matches_text _ _) (.cons (matches_text _ _)
      (.cons (matches_number _ _) (.cons (matches_bool _ _) (.cons (matches_text _ _)
      (.cons (matches_text _ _) (.cons (matches_text _ _) (.cons (matches_text _ _)
      (.cons (matches_text _ _) .nil)))))))))
  · exact .cons (matches_text _ _) (.cons (matches_duration _ _) (.cons (matches_text _ _)
      (.cons (matches_text _ _) (.cons (matches_text _ _) (.cons (matches_text _ _) .nil)))))
  · exact .cons (matches_text _ _) (.cons (matches_text _ _) (.cons (matches_text _ _)
      (.cons (matches_text _ _) (.cons (matches_text _ _) (.cons (matches_duration _ _)
      (.cons (matches_text _ _) .nil))))))

theorem parseTomlSections_gives (data : Toml) :
    Gives (parseTomlSections data) (reads data allReadings) := by
  rw [allReadings, reads_append, reads_append, reads_append]
  exact gives_bind (parseTomlBackend_gives data) fun _ _ =>
    gives_bind (parseTomlFilters_gives data) fun _ _ =>
    gives_bind (parseTomlGeneral_gives data) fun _ _ => parseTomlIntegration_gives data

end

/-! ### The requests -/

section

variable {data : Toml}

/-- All sections, where the exceptions end in the reader. -/
theorem parseTomlForEach_ends (data : Toml) (p : BridgeToml) :
    Ends (parseTomlForEach data) p (fun _ _ => Defined data allReadings)
      fun e _ => e = .undefined ∧ ¬ Defined data allReadings := by
  refine ends_tryCatch (((parseTomlSections_gives data).ends p).imp ?_ ?_)
  · intro _ _ read
    rw [Defined, read]
    simp
  · intro e p' read
    cases e with
    | thrown =>
      refine ends_pure ?_
      rw [Defined, read]
      simp
    | undefined =>
      refine ⟨rfl, ?_⟩
      rw [Defined, read]
      simp

theorem runParseTomlCb_gives (option : String) (one : ¬ containsText option "all") :
    Gives (runParseTomlCb data option) (reads data (getReadings option)) := by
  rw [runParseTomlCb, getReadings, if_neg one]
  split
  · exact parseTomlGeneral_gives data
  · split
    · exact parseTomlFilters_gives data
    · split
      · exact parseTomlBackend_gives data
      · split
        · exact parseTomlIntegration_gives data
        · exact gives_pure ()

/-- A result of one of the readers of the configuration. -/
theorem getLocal_ends (option : String) (p : BridgeToml) :
    Ends (getLocal data option) p (fun _ _ => Defined data (getReadings option))
      fun e _ => e = .thrown ∧ Defined data (getReadings option) ∨
        e = .undefined ∧ ¬ Defined data (getReadings option) := by
  rw [getLocal]
  split
  next whole =>
    rw [getReadings, if_pos whole]
    refine ends_bind ((parseTomlForEach_ends data p).imp ?_ fun _ _ stopped => .inr stopped)
    exact fun _ _ defined => ends_bind (ends_get (ends_pure defined))
  next one =>
    refine ends_bind (((runParseTomlCb_gives option one).ends p).imp ?_ ?_)
    · intro _ _ read
      refine ends_bind (ends_get (ends_pure ?_))
      rw [Defined, read]
      simp
    · intro e _ read
      cases e with
      | thrown => exact .inl ⟨rfl, by simp [Defined, read]⟩
      | undefined => exact .inr ⟨rfl, by simp [Defined, read]⟩

/-- The file is read in a set with one section only if the request is JSON. -/
def SetDefined (json : JsonText) (data : Toml) (option : String) (inputJson : Bytes) : Prop :=
  containsText option "all" ∨ (json.parse inputJson).isSome = true → Defined data allReadings

theorem setMembers_throws {remoteJson : Json} {option : String} (p : BridgeToml) :
    Ends (setMembers remoteJson option) p (fun _ _ => True) fun e _ => e = .thrown :=
  (setMembers_ends option p).imp (fun _ _ _ => trivial) fun _ _ stopped => stopped.1

/-- A set ends in undefined behaviour exactly if it reads a text that makes it so. -/
theorem setLocal_defined (json : JsonText) (option : String) (inputJson : Bytes)
    (p : BridgeToml) :
    Ends (setLocal json data option inputJson) p
      (fun _ _ => SetDefined json data option inputJson)
      fun e _ => e = .thrown ∧ SetDefined json data option inputJson ∨
        e = .undefined ∧ ¬ SetDefined json data option inputJson := by
  have stops (read : containsText option "all" ∨
      (json.parse inputJson).isSome = true) (e : Fault)
      (stopped : e = .undefined ∧ ¬ Defined data allReadings) :
      e = .thrown ∧ SetDefined json data option inputJson ∨
        e = .undefined ∧ ¬ SetDefined json data option inputJson :=
    .inr ⟨stopped.1, fun defined => stopped.2 (defined read)⟩
  have members {remoteJson : Json} (defined : Defined data allReadings) (p' : BridgeToml) :
      Ends (setMembers remoteJson option) p' (fun _ _ => SetDefined json data option inputJson)
        fun e _ => e = .thrown ∧ SetDefined json data option inputJson ∨
          e = .undefined ∧ ¬ SetDefined json data option inputJson :=
    (setMembers_throws p').imp (fun _ _ _ _ => defined) fun _ _ same => .inl ⟨same, fun _ => defined⟩
  by_cases whole : containsText option "all"
  · rw [setLocal, if_pos whole]
    refine ends_bind ((parseTomlForEach_ends data p).imp ?_ fun e p' => stops (.inl whole) e)
    intro _ p' defined
    apply ends_bind
    refine ends_ofExcept ?_ fun e stopped => .inl ⟨eq_thrown stopped, fun _ => defined⟩
    intro remoteJson _
    have rest := @members remoteJson defined p'
    rwa [setMembers, if_pos whole] at rest
  · rw [setLocal, if_neg whole]
    apply ends_bind
    cases parse : json.parse inputJson with
    | none =>
      refine ends_raise (.inl ⟨rfl, ?_⟩)
      rintro (all | parsed)
      · exact absurd all whole
      · rw [parse] at parsed
        cases parsed
    | some remoteJson =>
      apply ends_pure
      refine ends_bind ((parseTomlForEach_ends data p).imp ?_ fun e p' => stops (.inr ?_) e)
      · intro _ p' defined
        have rest := @members remoteJson defined p'
        rwa [setMembers, if_neg whole] at rest
      · rw [parse]
        rfl

end

/-- The constructor and then the request: it returns unless C leaves something undefined. -/
theorem withBridgeToml_ends {α : Type} {toml : TomlText} {u : Uninitialised}
    {use : Toml → TomlProc α} {holds : Toml → Prop} {good : α → Prop} {disk : BridgeDisk}
    (uses : ∀ data p, Ends (use data) p (fun a _ => good a ∧ holds data) fun _ _ => ¬ holds data) :
    Ends (withBridgeToml toml u use) disk
      (fun a _ => good a ∧ ∃ data, disk.conf.bind toml.parse = some data ∧ holds data)
      fun _ _ => ¬ ∃ data, disk.conf.bind toml.parse = some data ∧ holds data := by
  apply ends_bind
  apply ends_get
  cases valid : disk.conf.bind toml.parse with
  | none => exact ends_raise (by simp)
  | some data =>
    refine ends_within ((uses data _).imp ?_ ?_)
    · rintro a _ ⟨fine, defined⟩
      exact ⟨fine, data, rfl, defined⟩
    · rintro e _ undefined ⟨other, same, defined⟩
      cases same
      exact undefined defined

end LorawanFeeds.Cgi
