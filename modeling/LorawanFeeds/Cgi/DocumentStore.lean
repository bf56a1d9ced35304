import LorawanFeeds.Lib.JsonCodec
import LorawanFeeds.Lib.Simulation
import LorawanFeeds.Cgi.Documents
import LorawanFeeds.Cgi.TomlSent

/-!
# The small documents as a store

The filter, the region and the notification are kept in three files. Over any sequence of requests
the handlers answer as a store of four settings would, in which a set that is not accepted changes
nothing, a filter that is switched off keeps its list, and a filter request for another option than
`all` is answered with success without a look at it. The rest of each document stays. A region that
is set starts a copy in the background, which the shell makes at any later time.
-/
namespace LorawanFeeds.Cgi

open Lib Bridge CText

/-! ### The store -/

structure DocumentSettings where
  filterEnable : Bool
  /-- The list, unless what stands in its place is no list of texts. -/
  whiteList : Option (List String)
  region : Option String
  pushEnable : Option Bool
  deriving DecidableEq, Repr

inductive DocumentRequest where
  | filterGet (option : String)
  | filterSet (option : String) (inputJson : Bytes)
  | regionGet
  | regionSet (inputJson : Bytes)
  | pushGet
  | pushSet (inputJson : Bytes)

/-- What a filter request asks for: the state, and the list where the filter is on. -/
def sentFilter (lib : JsonText) (inputJson : Bytes) : Option (Bool × Option (List String)) := do
  let remoteJson ← lib.parse inputJson
  let enable ← (remoteJson.indexPath ["body", "filter_enable"] >>= Json.asBool).toOption
  if enable then
    let list ← (remoteJson.indexPath ["body", "white_list"]).toOption
    let devEuiVec ← asStrings list
    return (true, some devEuiVec)
  else return (false, none)

def sentRegion (lib : JsonText) (inputJson : Bytes) : Option String := do
  let remoteJson ← lib.parse inputJson
  (remoteJson.indexPath ["body", "region"] >>= Json.asString).toOption

def sentPush (lib : JsonText) (inputJson : Bytes) : Option Bool := do
  let remoteJson ← lib.parse inputJson
  (remoteJson.indexPath ["body", "push_enable"] >>= Json.asBool).toOption

namespace DocumentSettings

def filterGetFailed : String :=
  "Failed to get" ++ "lorawan filter" ++
    "config information, please check your local json file."

def filterSetFailed : String :=
  "Failed to update " ++ "lorawan filter" ++
    " config, please check your json format or option value."

/-- What the store answers. -/
def answer (lib : JsonText) (s : DocumentSettings) : DocumentRequest → Result
  | .filterGet option =>
    if containsText option "all" then
      match s.whiteList with
      | none => failed filterGetFailed
      | some list => (0, lib.dump ((Json.null.put ["filter_enable"] (.bool s.filterEnable)).put
          ["white_list"] (.arr (list.map .str))))
    else (0, [])
  | .filterSet option inputJson =>
    if containsText option "all" ∧ sentFilter lib inputJson = none then failed filterSetFailed
    else (0, [])
  | .regionGet =>
    match s.region with
    | none => failed "Failed to get current region info."
    | some region => (0, lib.dump (Json.null.put ["region"] (.str region)))
  | .regionSet inputJson =>
    match sentRegion lib inputJson with
    | none => failed "Failed to set lorawan region."
    | some region =>
      if region ∈ regionNames then (0, [])
      else failed ("this region option is not exist: " ++ region)
  | .pushGet =>
    match s.pushEnable with
    | none => failed "Failed to get push enable state."
    | some pushEnable => (0, lib.dump (Json.null.put ["push_enable"] (.bool pushEnable)))
  | .pushSet inputJson =>
    if sentPush lib inputJson = none then failed "Failed to set push enable state." else (0, [])

/-- What the store becomes. -/
def next (lib : JsonText) (s : DocumentSettings) : DocumentRequest → DocumentSettings
  | .filterSet option inputJson =>
    if containsText option "all" then
      match sentFilter lib inputJson with
      | none => s
      | some (enable, list) => { s with filterEnable := enable, whiteList := list.or s.whiteList }
    else s
  | .regionSet inputJson =>
    match sentRegion lib inputJson with
    | none => s
    | some region => if region ∈ regionNames then { s with region := some region } else s
  | .pushSet inputJson =>
    match sentPush lib inputJson with
    | none => s
    | some pushEnable => { s with pushEnable := some pushEnable }
  | _ => s

end DocumentSettings

/-- The region whose configuration is to be copied, for a request that is accepted. -/
def startedCopies (lib : JsonText) : DocumentRequest → List String
  | .regionSet inputJson => (sentRegion lib inputJson).toList.filter (· ∈ regionNames)
  | _ => []

/-! ### The handlers -/

def documentHandler (lib : JsonText) : DocumentRequest → CgiHandler Result
  | .filterGet option => mainLorawanFilterGet lib option
  | .filterSet option inputJson => mainLorawanFilterSet lib option inputJson
  | .regionGet => mainLorawanRegionGet lib
  | .regionSet inputJson => mainLorawanRegionSet lib inputJson
  | .pushGet => mainNotificationPushGet lib
  | .pushSet inputJson => mainNotificationPushSet lib inputJson

/-- The documents of the three files. -/
structure Documents where
  filter : Json
  region : Json
  notification : Json

def Documents.settings (d : Documents) : DocumentSettings where
  filterEnable := localFilterEnable d.filter
  whiteList := localWhiteList d.filter
  region := (d.region.indexPath ["lorawan_region"] >>= Json.asString).toOption
  pushEnable := (d.notification.indexPath ["push_enable"] >>= Json.asBool).toOption

/-- The file has the document, and members can be assigned to it. -/
structure Holds (lib : JsonText) (g : Gateway) (path : String) (j : Json) : Prop where
  document : documentAt lib g path = some j
  members : j = .null ∨ j.isObject = true

/-- The members apart from these are the same. -/
def SameBut (keys : List String) (j j' : Json) : Prop :=
  ∀ key, key ∉ keys → j'.get? key = j.get? key

structure Stores (lib : JsonText) (g : Gateway) (d : Documents) : Prop where
  filter : Holds lib g lorawanFilterConfDefault d.filter
  region : Holds lib g lorawanRegionConfDefault d.region
  notification : Holds lib g gwNotifConfDefault d.notification

/-- What the requests leave alone: other members, and other files. -/
structure Frame (g g' : Gateway) (d d' : Documents) : Prop where
  filter : SameBut ["filter_enable", "white_list"] d.filter d'.filter
  region : SameBut ["lorawan_region"] d.region d'.region
  notification : SameBut ["push_enable"] d.notification d'.notification
  files : ∀ path,
    path ∉ [lorawanFilterConfDefault, lorawanRegionConfDefault, gwNotifConfDefault] →
      g'.files path = g.files path

/-! ### Reading and writing a document -/

section

variable {lib : JsonText} {g : Gateway} {path : String} {j : Json}

theorem Holds.proper (holds : Holds lib g path j) : j.Proper lib.finite := by
  obtain ⟨content, _, read⟩ := Option.bind_eq_some_iff.mp holds.document
  exact lib.read_proper content j read

/-- The same content. -/
theorem Holds.of_files (holds : Holds lib g path j) {g' : Gateway}
    (same : g'.files path = g.files path) : Holds lib g' path j := by
  refine ⟨?_, holds.members⟩
  rw [documentAt, same]
  exact holds.document

theorem isObject_put_key (j v : Json) (key : String) : (j.put [key] v).isObject = true := rfl

theorem Holds.assign (holds : Holds lib g path j) (key : String) (v : Json) :
    j.assign [key] v = .ok (j.put [key] v) :=
  Json.assign_eq_put j [key] v ⟨holds.members, trivial⟩

/-- A document that is written is there. -/
theorem holds_written {j : Json} (proper : j.Proper lib.finite) (object : j.isObject = true)
    (g : Gateway) (path : String) :
    Holds lib (g.setFile path (some (lib.dump j ++ [10]))) path j := by
  refine ⟨?_, .inr object⟩
  rw [documentAt, Gateway.setFile_files_self]
  exact lib.read_dump_endl j proper

theorem index_of_members (members : j = .null ∨ j.isObject = true) (key : String) :
    j.index key = .ok ((j.get? key).getD .null) := by
  rcases members with rfl | object
  · rfl
  · cases j <;> first | rfl | cases object

/-- Where a `try` block ends. -/
theorem ends_inTry {body : CgiHandler Result} {rsp : String} {ok : Result → Gateway → Prop}
    (ends : Proc.Ends body g ok fun e t => e = .thrown ∧ ok (failed rsp) t) :
    Proc.Ends (catching body rsp) g ok fun _ _ => False := by
  rw [catching]
  apply Proc.ends_tryCatch
  refine ends.imp (fun _ _ done => done) ?_
  rintro e t ⟨rfl, caught⟩
  exact Proc.ends_pure caught

end

/-- The handler answers as the store does, and leaves what the store becomes. -/
structure Serves (lib : JsonText) (g : Gateway) (d : Documents) (r : DocumentRequest)
    (rsp : Result) (g' : Gateway) : Prop where
  answered : rsp = d.settings.answer lib r
  stored : ∃ d', Stores lib g' d' ∧ d'.settings = d.settings.next lib r ∧ Frame g g' d d'
  commands : g'.services = g.services ++ (startedCopies lib r).map copyCommand

theorem frame_refl (g : Gateway) (d : Documents) : Frame g g d d :=
  ⟨fun _ _ => rfl, fun _ _ => rfl, fun _ _ => rfl, fun _ _ => rfl⟩

section

variable {lib : JsonText} {g : Gateway} {d : Documents} (stores : Stores lib g d)

include stores

/-- A handler that writes nothing. -/
theorem serves_unchanged {r : DocumentRequest} {rsp : Result}
    (answered : rsp = d.settings.answer lib r) (same : d.settings.next lib r = d.settings)
    (quiet : startedCopies lib r = []) : Serves lib g d r rsp g := by
  refine ⟨answered, ⟨d, stores, same.symm, frame_refl g d⟩, ?_⟩
  rw [quiet]
  exact (List.append_nil _).symm

theorem regionGet_serves : Proc.Ends (mainLorawanRegionGet lib) g
    (Serves lib g d .regionGet) fun _ _ => False := by
  rw [mainLorawanRegionGet]
  apply ends_inTry
  refine Proc.ends_bind (ends_readJson (fun localJson document => ?_) fun none => ?_)
  · obtain rfl := Option.some.inj (stores.region.document.symm.trans document)
    refine Proc.ends_bind (ends_converted (fun region read => ?_) fun e read => ⟨rfl, ?_⟩)
    · refine Proc.ends_pure (serves_unchanged stores ?_ rfl rfl)
      rw [DocumentSettings.answer, Documents.settings, read]
      rfl
    · refine serves_unchanged stores ?_ rfl rfl
      rw [DocumentSettings.answer, Documents.settings, read]
      rfl
  · exact absurd (stores.region.document.symm.trans none) (by simp)

theorem pushGet_serves : Proc.Ends (mainNotificationPushGet lib) g
    (Serves lib g d .pushGet) fun _ _ => False := by
  rw [mainNotificationPushGet]
  apply ends_inTry
  refine Proc.ends_bind (ends_readJson (fun localJson document => ?_) fun none => ?_)
  · obtain rfl := Option.some.inj (stores.notification.document.symm.trans document)
    refine Proc.ends_bind (ends_converted (fun pushEnable read => ?_) fun e read => ⟨rfl, ?_⟩)
    · refine Proc.ends_pure (serves_unchanged stores ?_ rfl rfl)
      rw [DocumentSettings.answer, Documents.settings, read]
      rfl
    · refine serves_unchanged stores ?_ rfl rfl
      rw [DocumentSettings.answer, Documents.settings, read]
      rfl
  · exact absurd (stores.notification.document.symm.trans none) (by simp)

/-- A new document of the region. -/
theorem stores_region {region : String} {g' : Gateway}
    (written : g'.files = (g.setFile lorawanRegionConfDefault
      (some (lib.dump (d.region.put ["lorawan_region"] (.str region)) ++ [10]))).files) :
    ∃ d', Stores lib g' d' ∧ d'.settings = { d.settings with region := some region } ∧
      Frame g g' d d' := by
  have kept (path : String) (other : path ≠ lorawanRegionConfDefault) :
      g'.files path = g.files path := by
    rw [written]
    exact Gateway.setFile_files_of_ne g other _
  refine ⟨{ d with region := d.region.put ["lorawan_region"] (.str region) }, ⟨?_, ?_, ?_⟩, ?_,
    fun _ _ => rfl, ?_, fun _ _ => rfl, ?_⟩
  · exact stores.filter.of_files (kept _ (by decide))
  · exact (holds_written (stores.region.proper.put (.str region) _) (isObject_put_key _ _ _) g
      lorawanRegionConfDefault).of_files (by rw [written])
  · exact stores.notification.of_files (kept _ (by decide))
  · rw [Documents.settings, Documents.settings]
    dsimp only
    rw [Json.indexPath_of_lookup (Json.lookup_put_self _ _ _)]
    rfl
  · intro key other
    exact Json.get?_put_cons_of_ne _ _ (by simpa using other) _
  · intro path other
    apply kept path
    rintro rfl
    simp at other

theorem regionSet_serves (inputJson : Bytes) : Proc.Ends (mainLorawanRegionSet lib inputJson) g
    (Serves lib g d (.regionSet inputJson)) fun _ _ => False := by
  rw [mainLorawanRegionSet]
  apply ends_inTry
  rw [regionSet]
  -- Nothing is written before all that can be refused has been read.
  have refused (none : sentRegion lib inputJson = none) :
      Serves lib g d (.regionSet inputJson) (failed "Failed to set lorawan region.") g := by
    refine serves_unchanged stores ?_ ?_ ?_
    · rw [DocumentSettings.answer, none]
    · rw [DocumentSettings.next, none]
    · rw [startedCopies, none]
      rfl
  refine Proc.ends_bind (ends_readJson (fun localJson document => ?_) fun none => ?_)
  · obtain rfl := Option.some.inj (stores.region.document.symm.trans document)
    refine Proc.ends_bind (ends_parseJson (fun remoteJson valid => ?_) fun invalid => ⟨rfl, ?_⟩)
    · refine Proc.ends_bind (ends_converted (fun region read => ?_) fun e read => ⟨rfl, ?_⟩)
      · have sent : sentRegion lib inputJson = some region := by
          rw [sentRegion, valid, Option.bind_eq_bind, Option.bind_some, read]
          rfl
        split
        next unknown =>
          refine Proc.ends_pure (serves_unchanged stores ?_ ?_ ?_)
          · simp only [DocumentSettings.answer, sent, if_neg unknown]
          · simp only [DocumentSettings.next, sent, if_neg unknown]
          · simp [startedCopies, sent, unknown]
        next known =>
          have member := not_not.mp known
          rw [stores.region.assign]
          refine Proc.ends_bind (ends_converted (fun localJson assigned => ?_)
            fun e assigned => by cases assigned)
          cases assigned
          refine Proc.ends_bind (Proc.ends_modify (Proc.ends_bind (Proc.ends_modify
            (Proc.ends_pure ⟨?_, ?_, ?_⟩))))
          · simp only [DocumentSettings.answer, sent, if_pos member]
          · simp only [DocumentSettings.next, sent, if_pos member]
            exact stores_region stores rfl
          · simp [startedCopies, sent, member]
            rfl
      · apply refused
        rw [sentRegion, valid, Option.bind_eq_bind, Option.bind_some, read]
        rfl
    · apply refused
      rw [sentRegion, invalid]
      rfl
  · exact absurd (stores.region.document.symm.trans none) (by simp)

/-- A new document of the notification. -/
theorem stores_push {pushEnable : Bool} {g' : Gateway}
    (written : g' = g.setFile gwNotifConfDefault
      (some (lib.dump (d.notification.put ["push_enable"] (.bool pushEnable)) ++ [10]))) :
    ∃ d', Stores lib g' d' ∧ d'.settings = { d.settings with pushEnable := some pushEnable } ∧
      Frame g g' d d' := by
  have kept (path : String) (other : path ≠ gwNotifConfDefault) : g'.files path = g.files path := by
    rw [written]
    exact Gateway.setFile_files_of_ne g other _
  refine ⟨{ d with notification := d.notification.put ["push_enable"] (.bool pushEnable) },
    ⟨?_, ?_, ?_⟩, ?_, fun _ _ => rfl, fun _ _ => rfl, ?_, ?_⟩
  · exact stores.filter.of_files (kept _ (by decide))
  · exact stores.region.of_files (kept _ (by decide))
  · rw [written]
    exact holds_written (stores.notification.proper.put (.bool pushEnable) _)
      (isObject_put_key _ _ _) g gwNotifConfDefault
  · rw [Documents.settings, Documents.settings]
    dsimp only
    rw [Json.indexPath_of_lookup (Json.lookup_put_self _ _ _)]
    rfl
  · intro key other
    exact Json.get?_put_cons_of_ne _ _ (by simpa using other) _
  · intro path other
    apply kept path
    rintro rfl
    simp at other

theorem pushSet_serves (inputJson : Bytes) : Proc.Ends (mainNotificationPushSet lib inputJson) g
    (Serves lib g d (.pushSet inputJson)) fun _ _ => False := by
  rw [mainNotificationPushSet]
  apply ends_inTry
  have refused (none : sentPush lib inputJson = none) :
      Serves lib g d (.pushSet inputJson) (failed "Failed to set push enable state.") g := by
    refine serves_unchanged stores ?_ ?_ rfl
    · rw [DocumentSettings.answer, if_pos none]
    · rw [DocumentSettings.next, none]
  refine Proc.ends_bind (ends_readJson (fun localJson document => ?_) fun none => ?_)
  · obtain rfl := Option.some.inj (stores.notification.document.symm.trans document)
    refine Proc.ends_bind (ends_parseJson (fun remoteJson valid => ?_) fun invalid => ⟨rfl, ?_⟩)
    · refine Proc.ends_bind (ends_converted (fun pushEnable read => ?_) fun e read => ⟨rfl, ?_⟩)
      · have sent : sentPush lib inputJson = some pushEnable := by
          rw [sentPush, valid, Option.bind_eq_bind, Option.bind_some, read]
          rfl
        rw [stores.notification.assign]
        refine Proc.ends_bind (ends_converted (fun localJson assigned => ?_)
          fun e assigned => by cases assigned)
        cases assigned
        refine Proc.ends_bind (Proc.ends_modify (Proc.ends_pure ⟨?_, ?_,
          (List.append_nil _).symm⟩))
        · simp [DocumentSettings.answer, sent]
        · simp only [DocumentSettings.next, sent]
          exact stores_push stores rfl
      · apply refused
        rw [sentPush, valid, Option.bind_eq_bind, Option.bind_some, read]
        rfl
    · apply refused
      rw [sentPush, invalid]
      rfl
  · exact absurd (stores.notification.document.symm.trans none) (by simp)

theorem filterGet_serves (option : String) : Proc.Ends (mainLorawanFilterGet lib option) g
    (Serves lib g d (.filterGet option)) fun _ _ => False := by
  rw [mainLorawanFilterGet]
  refine Proc.ends_bind (ends_readJson (fun localJson document => ?_) fun none => ?_)
  · obtain rfl := Option.some.inj (stores.filter.document.symm.trans document)
    rw [parserGet]
    apply ends_inTry
    split
    next all =>
      rw [filterParseLocalForEach]
      refine Proc.ends_bind (Proc.ends_bind (Proc.ends_ofExcept ?_ ?_))
      · intro list read
        cases stored : localWhiteList d.filter with
        | none => cases stored ▸ read
        | some list' =>
          rw [stored] at read
          cases read
          refine Proc.ends_pure (Proc.ends_pure (serves_unchanged stores ?_ rfl rfl))
          simp [DocumentSettings.answer, all, Documents.settings, stored]
      · intro e read
        cases stored : localWhiteList d.filter with
        | none =>
          rw [stored] at read
          cases read
          refine ⟨rfl, serves_unchanged stores ?_ rfl rfl⟩
          simp [DocumentSettings.answer, all, Documents.settings, stored,
            DocumentSettings.filterGetFailed]
        | some list => cases stored ▸ read
    next other =>
      refine Proc.ends_bind (Proc.ends_pure (Proc.ends_pure (serves_unchanged stores ?_ rfl rfl)))
      simp [DocumentSettings.answer, other]
  · exact absurd (stores.filter.document.symm.trans none) (by simp)

/-- A new document of the filter. -/
theorem stores_filter {filter : Json} (proper : filter.Proper lib.finite)
    (object : filter.isObject = true)
    (same : SameBut ["filter_enable", "white_list"] d.filter filter) {g' : Gateway}
    (written : g' = g.setFile lorawanFilterConfDefault (some (lib.dump filter ++ [10]))) :
    ∃ d', Stores lib g' d' ∧
      d'.settings = { d.settings with
        filterEnable := localFilterEnable filter
        whiteList := localWhiteList filter } ∧
      Frame g g' d d' := by
  have kept (path : String) (other : path ≠ lorawanFilterConfDefault) :
      g'.files path = g.files path := by
    rw [written]
    exact Gateway.setFile_files_of_ne g other _
  refine ⟨{ d with filter }, ⟨?_, ?_, ?_⟩, rfl, same, fun _ _ => rfl, fun _ _ => rfl, ?_⟩
  · rw [written]
    exact holds_written proper object g lorawanFilterConfDefault
  · exact stores.region.of_files (kept _ (by decide))
  · exact stores.notification.of_files (kept _ (by decide))
  · intro path other
    apply kept path
    rintro rfl
    simp at other

omit stores in
theorem localFilterEnable_eq {j : Json} {enable : Bool} (object : j.isObject = true)
    (has : j.get? "filter_enable" = some (.bool enable)) : localFilterEnable j = enable := by
  rw [localFilterEnable, index_of_members (.inr object), has]
  rfl

omit stores in
theorem asStrings_texts (list : List String) : asStrings (.arr (list.map .str)) = some list := by
  rw [asStrings]
  induction list with
  | nil => rfl
  | cons first rest ih =>
    rw [List.map_cons, List.mapM_cons, ih]
    rfl

omit stores in
theorem localWhiteList_eq {j : Json} {list : List String}
    (has : j.get? "white_list" = some (.arr (list.map .str))) : localWhiteList j = some list := by
  rw [localWhiteList, has]
  exact asStrings_texts list

/-- A filter that is switched off: the list is not looked at. -/
theorem stores_filterOff :
    ∃ d', Stores lib (g.setFile lorawanFilterConfDefault
        (some (lib.dump (d.filter.put ["filter_enable"] (.bool false)) ++ [10]))) d' ∧
      d'.settings = { d.settings with filterEnable := false } ∧
      Frame g (g.setFile lorawanFilterConfDefault
        (some (lib.dump (d.filter.put ["filter_enable"] (.bool false)) ++ [10]))) d d' := by
  obtain ⟨d', stores', settings, frame⟩ := stores_filter stores
    (stores.filter.proper.put (.bool false) ["filter_enable"]) (isObject_put_key _ _ _)
    (fun key other => Json.get?_put_cons_of_ne _ _ (by simp_all) _) rfl
  refine ⟨d', stores', ?_, frame⟩
  rw [settings, localFilterEnable_eq (isObject_put_key _ _ _) (Json.get?_put_cons _ _ _ _),
    localWhiteList, Json.get?_put_cons_of_ne _ _ (by decide)]
  rfl

/-- A filter that is switched on with a list. -/
theorem stores_filterOn (devEuiVec : List String) {filter : Json}
    (listed : filter = (d.filter.put ["filter_enable"] (.bool true)).put ["white_list"]
      (.arr (devEuiVec.map .str))) :
    ∃ d', Stores lib (g.setFile lorawanFilterConfDefault (some (lib.dump filter ++ [10]))) d' ∧
      d'.settings = { d.settings with filterEnable := true, whiteList := some devEuiVec } ∧
      Frame g (g.setFile lorawanFilterConfDefault (some (lib.dump filter ++ [10]))) d d' := by
  subst listed
  have texts : (Json.arr (devEuiVec.map .str)).Proper lib.finite := by
    refine .arr fun item member => ?_
    obtain ⟨text, _, rfl⟩ := List.mem_map.mp member
    exact .str text
  have enabled := stores.filter.proper.put (.bool true) ["filter_enable"]
  obtain ⟨d', stores', settings, frame⟩ := stores_filter stores (enabled.put texts ["white_list"])
    (isObject_put_key _ _ _)
    (fun key other => by
      rw [Json.get?_put_cons_of_ne _ _ (by simp_all), Json.get?_put_cons_of_ne _ _ (by simp_all)])
    rfl
  refine ⟨d', stores', ?_, frame⟩
  have on : localFilterEnable ((d.filter.put ["filter_enable"] (.bool true)).put ["white_list"]
      (.arr (devEuiVec.map .str))) = true := by
    apply localFilterEnable_eq (isObject_put_key _ _ _)
    rw [Json.get?_put_cons_of_ne _ _ (by decide), Json.get?_put_cons]
    rfl
  rw [settings, on, localWhiteList_eq (Json.get?_put_cons _ _ _ _)]

omit stores in
/-- What is sent, behind the state that is asked for. -/
theorem sentFilter_eq {inputJson : Bytes} {remoteJson : Json} {enable : Bool}
    (valid : lib.parse inputJson = some remoteJson)
    (read : remoteJson.indexPath ["body", "filter_enable"] >>= Json.asBool = .ok enable) :
    sentFilter lib inputJson =
      if enable then ((remoteJson.indexPath ["body", "white_list"]).toOption.bind asStrings).map
        fun devEuiVec => (true, some devEuiVec)
      else some (false, none) := by
  rw [sentFilter, valid, Option.bind_eq_bind, Option.bind_some, read]
  cases enable with
  | false => rfl
  | true =>
    rw [if_pos rfl]
    cases (remoteJson.indexPath ["body", "white_list"]).toOption with
    | none => rfl
    | some list =>
      change (asStrings list).bind _ = ((asStrings list).map _)
      cases asStrings list <;> rfl

/-- The body of a filter set, for all options. -/
theorem filterSetForEach_ends (inputJson : Bytes) :
    Proc.Ends (filterSetLocalForEach lib inputJson d.filter) g
      (fun _ g' => g'.services = g.services ∧ ∃ sent, sentFilter lib inputJson = some sent ∧
        ∃ d', Stores lib g' d' ∧
          d'.settings = { d.settings with
            filterEnable := sent.1
            whiteList := sent.2.or d.settings.whiteList } ∧
          Frame g g' d d')
      (fun e g' => e = .thrown ∧ g' = g ∧ sentFilter lib inputJson = none) := by
  rw [filterSetLocalForEach]
  refine Proc.ends_bind (ends_parseJson (fun remoteJson valid => ?_) fun invalid =>
    ⟨rfl, rfl, by rw [sentFilter, invalid]; rfl⟩)
  refine Proc.ends_bind (ends_converted (fun enable read => ?_) fun e read => ⟨rfl, rfl, ?_⟩)
  · rw [stores.filter.assign]
    refine Proc.ends_bind (ends_converted (fun localJson assigned => ?_)
      fun e assigned => by cases assigned)
    cases assigned
    have asked := sentFilter_eq valid read
    cases enable with
    | false =>
      refine Proc.ends_bind (Proc.ends_pure (Proc.ends_modify ⟨rfl, _, asked, ?_⟩))
      exact stores_filterOff stores
    | true =>
      rw [if_pos rfl] at asked
      rw [parseRemoteDeveuiWhiteList, if_pos rfl]
      refine Proc.ends_bind (Proc.ends_bind (ends_converted (fun list found => ?_)
        fun e missing => ⟨rfl, rfl, by rw [asked, missing]; rfl⟩))
      -- The items are converted before anything is assigned.
      rw [found] at asked
      change sentFilter lib inputJson = (asStrings list).map _ at asked
      refine Proc.ends_bind (Proc.ends_ofExcept (fun devEuiVec texts => ?_) fun e texts => ?_)
      · have texts : asStrings list = some devEuiVec := by
          cases same : asStrings list <;> rw [same] at texts <;> cases texts
          rfl
        rw [texts] at asked
        have opened : (d.filter.put ["filter_enable"] (.bool true)).Open ["white_list"] :=
          ⟨.inr (isObject_put_key _ _ _), trivial⟩
        rw [Json.assign_eq_put _ _ _ opened]
        refine ends_converted (fun localJson assigned => ?_) fun e assigned => by cases assigned
        cases assigned
        exact Proc.ends_modify ⟨rfl, _, asked, stores_filterOn stores devEuiVec rfl⟩
      · cases same : asStrings list with
        | some devEuiVec => cases same ▸ texts
        | none =>
          rw [same] at texts asked
          cases texts
          exact ⟨rfl, rfl, asked⟩
  · rw [sentFilter, valid, Option.bind_eq_bind, Option.bind_some, read]
    rfl

theorem filterSet_serves (option : String) (inputJson : Bytes) :
    Proc.Ends (mainLorawanFilterSet lib option inputJson) g
      (Serves lib g d (.filterSet option inputJson)) fun _ _ => False := by
  rw [mainLorawanFilterSet]
  refine Proc.ends_bind (ends_readJson (fun localJson document => ?_) fun none => ?_)
  · obtain rfl := Option.some.inj (stores.filter.document.symm.trans document)
    rw [parserSet]
    apply ends_inTry
    split
    next all =>
      refine Proc.ends_bind ((filterSetForEach_ends stores inputJson).imp ?_ ?_)
      · rintro _ g' ⟨services, sent, asked, stored⟩
        refine Proc.ends_pure ⟨?_, ?_, services.trans (List.append_nil _).symm⟩
        · rw [DocumentSettings.answer, if_neg]
          rw [asked]
          simp
        · rw [DocumentSettings.next, if_pos all, asked]
          exact stored
      · rintro e g' ⟨thrown, rfl, invalid⟩
        have answered : failed DocumentSettings.filterSetFailed =
            d.settings.answer lib (.filterSet option inputJson) := by
          rw [DocumentSettings.answer, if_pos ⟨all, invalid⟩]
        refine ⟨thrown, serves_unchanged stores answered ?_ rfl⟩
        rw [DocumentSettings.next, if_pos all, invalid]
    next other =>
      refine Proc.ends_bind (Proc.ends_pure (Proc.ends_pure (serves_unchanged stores ?_ ?_ rfl)))
      · simp [DocumentSettings.answer, other]
      · simp [DocumentSettings.next, other]
  · exact absurd (stores.filter.document.symm.trans none) (by simp)

theorem documentHandler_serves (r : DocumentRequest) :
    Proc.Ends (documentHandler lib r) g (Serves lib g d r) fun _ _ => False := by
  cases r <;> rw [documentHandler]
  case filterGet option => exact filterGet_serves stores option
  case filterSet option inputJson => exact filterSet_serves stores option inputJson
  case regionGet => exact regionGet_serves stores
  case regionSet inputJson => exact regionSet_serves stores inputJson
  case pushGet => exact pushGet_serves stores
  case pushSet inputJson => exact pushSet_serves stores inputJson

end

/-! ### Runs -/

/-- The gateway, and the regions whose configuration the shell has still to copy. -/
structure DocumentWorld where
  gateway : Gateway
  copies : List String := []

inductive DocumentEvent where
  | request (r : DocumentRequest)
  /-- The shell makes one of the copies; they may overtake each other. -/
  | copied (k : Nat)

/-- The copies that commands start. -/
def copiesOf (commands : List String) : List String :=
  commands.flatMap fun cmd => regionNames.filter (copyCommand · = cmd)

def DocumentWorld.step (lib : JsonText) (w : DocumentWorld) : DocumentEvent → DocumentWorld
  | .request r =>
    let g' := (documentHandler lib r w.gateway).2
    ⟨g', w.copies ++ copiesOf (g'.services.drop w.gateway.services.length)⟩
  | .copied k =>
    match w.copies[k]? with
    | some region => ⟨w.gateway.copyGlobalConf region, w.copies.eraseIdx k⟩
    | none => w

/-- What a request is answered. -/
def DocumentWorld.answer (lib : JsonText) (w : DocumentWorld) :
    DocumentEvent → Option (Except Fault Result)
  | .request r => some (documentHandler lib r w.gateway).1
  | .copied _ => none

/-- The store, with the configuration in use and the copies to come. -/
structure DocumentStore where
  settings : DocumentSettings
  globalConf : Option Bytes
  copies : List String := []

/-- What the store becomes, where a region has this configuration, if any. -/
def DocumentStore.step (lib : JsonText) (conf : String → Option Bytes) (s : DocumentStore) :
    DocumentEvent → DocumentStore
  | .request r =>
    { s with settings := s.settings.next lib r, copies := s.copies ++ startedCopies lib r }
  | .copied k =>
    match s.copies[k]? with
    | some region =>
      { s with globalConf := (conf region).or s.globalConf, copies := s.copies.eraseIdx k }
    | none => s

def DocumentStore.answer (lib : JsonText) (s : DocumentStore) :
    DocumentEvent → Option (Except Fault Result)
  | .request r => some (.ok (s.settings.answer lib r))
  | .copied _ => none

/-- The files that requests and copies write. -/
def documentFiles : List String :=
  [lorawanFilterConfDefault, lorawanRegionConfDefault, gwNotifConfDefault, globalConfSx1250]

/-- What requests and copies leave alone: other members, and other files. -/
structure Untouched (g g' : Gateway) (d d' : Documents) : Prop where
  filter : SameBut ["filter_enable", "white_list"] d.filter d'.filter
  region : SameBut ["lorawan_region"] d.region d'.region
  notification : SameBut ["push_enable"] d.notification d'.notification
  files : ∀ path, path ∉ documentFiles → g'.files path = g.files path

theorem Frame.untouched {g g' g'' : Gateway} {d d' d'' : Documents}
    (before : Untouched g g' d d')
    (frame : Frame g' g'' d' d'') : Untouched g g'' d d'' where
  filter key other := (frame.filter key other).trans (before.filter key other)
  region key other := (frame.region key other).trans (before.region key other)
  notification key other :=
    (frame.notification key other).trans (before.notification key other)
  files path other := by
    refine (frame.files path fun member => other ?_).trans (before.files path other)
    exact List.mem_append_left [globalConfSx1250] member

/-- The world has what the store has, and differs from the gateway at the start in nothing else. -/
structure Refines (lib : JsonText) (start : Gateway) (d : Documents) (w : DocumentWorld)
    (s : DocumentStore) : Prop where
  documents : ∃ d', Stores lib w.gateway d' ∧ d'.settings = s.settings ∧ Untouched start w.gateway d d'
  globalConf : w.gateway.files globalConfSx1250 = s.globalConf
  copies : w.copies = s.copies
  known : ∀ region ∈ s.copies, region ∈ regionNames

theorem startedCopies_known (lib : JsonText) (r : DocumentRequest) :
    ∀ region ∈ startedCopies lib r, region ∈ regionNames := by
  intro region member
  cases r with
  | regionSet inputJson => exact of_decide_eq_true (List.mem_filter.mp member).2
  | _ => cases member

/-- The commands of the regions start their copies. -/
theorem copiesOf_copyCommand {regions : List String} (known : ∀ region ∈ regions, region ∈ regionNames) :
    copiesOf (regions.map copyCommand) = regions := by
  induction regions with
  | nil => rfl
  | cons region regions ih =>
    have one : regionNames.filter (copyCommand · = copyCommand region) = [region] := by
      have each : ∀ region ∈ regionNames,
          regionNames.filter (copyCommand · = copyCommand region) = [region] := by
        decide
      exact each region (known region (.head _))
    rw [copiesOf, List.map_cons, List.flatMap_cons, one]
    exact congrArg (region :: ·) (ih fun other member => known other (.tail _ member))

theorem Refines.request {lib : JsonText} {start : Gateway} {d : Documents} {w : DocumentWorld}
    {s : DocumentStore} (refines : Refines lib start d w s) (r : DocumentRequest) :
    Refines lib start d (w.step lib (.request r))
        (s.step lib (fun region => start.files (globalConfOf region)) (.request r)) ∧
      w.answer lib (.request r) = s.answer lib (.request r) := by
  obtain ⟨d', stores, settings, untouched⟩ := refines.documents
  obtain ⟨rsp, g', ran, served⟩ := (documentHandler_serves stores r).returns
  obtain ⟨d'', stores', settings', frame⟩ := served.stored
  have started : copiesOf (g'.services.drop w.gateway.services.length) = startedCopies lib r := by
    rw [served.commands, List.drop_left, copiesOf_copyCommand (startedCopies_known lib r)]
  rw [settings] at settings'
  simp only [DocumentWorld.step, DocumentStore.step, DocumentWorld.answer, DocumentStore.answer,
    ran, started, served.answered, settings]
  refine ⟨⟨⟨d'', stores', settings', frame.untouched untouched⟩, ?_, ?_, ?_⟩, trivial⟩
  · exact (frame.files _ (by decide)).trans refines.globalConf
  · exact congrArg (· ++ _) refines.copies
  · intro region member
    rcases List.mem_append.mp member with old | new
    · exact refines.known region old
    · exact startedCopies_known lib r region new

/-- The configuration of a region is a file of its own. -/
theorem globalConfOf_apart {region : String} (known : region ∈ regionNames) :
    globalConfOf region ∉ documentFiles := by
  have each : ∀ region ∈ regionNames, globalConfOf region ∉ documentFiles := by decide
  exact each region known

theorem copyGlobalConf_files_of_ne (g : Gateway) (region : String) {path : String}
    (other : path ≠ globalConfSx1250) : (g.copyGlobalConf region).files path = g.files path := by
  rw [Gateway.copyGlobalConf]
  split
  · exact Gateway.setFile_files_of_ne g other _
  · rfl

theorem copyGlobalConf_files_self (g : Gateway) (region : String) :
    (g.copyGlobalConf region).files globalConfSx1250 =
      (g.files (globalConfOf region)).or (g.files globalConfSx1250) := by
  rw [Gateway.copyGlobalConf]
  split
  next content there => rw [there, Gateway.setFile_files_self, Option.some_or]
  next missing => rw [missing, Option.none_or]

theorem Stores.copyGlobalConf {lib : JsonText} {g : Gateway} {d : Documents}
    (stores : Stores lib g d) (region : String) : Stores lib (g.copyGlobalConf region) d where
  filter := stores.filter.of_files (copyGlobalConf_files_of_ne g region (by decide))
  region := stores.region.of_files (copyGlobalConf_files_of_ne g region (by decide))
  notification := stores.notification.of_files (copyGlobalConf_files_of_ne g region (by decide))

theorem Refines.copied {lib : JsonText} {start : Gateway} {d : Documents} {w : DocumentWorld}
    {s : DocumentStore} (refines : Refines lib start d w s) (k : Nat) :
    Refines lib start d (w.step lib (.copied k))
      (s.step lib (fun region => start.files (globalConfOf region)) (.copied k)) := by
  rw [DocumentWorld.step, DocumentStore.step, refines.copies]
  cases chosen : s.copies[k]? with
  | none => exact refines
  | some region =>
    have known := refines.known region (List.mem_of_getElem? chosen)
    obtain ⟨d', stores, settings, untouched⟩ := refines.documents
    refine ⟨⟨d', stores.copyGlobalConf region, settings, ?_⟩, ?_, rfl, ?_⟩
    · refine ⟨untouched.filter, untouched.region, untouched.notification, fun path other => ?_⟩
      have different : path ≠ globalConfSx1250 := by
        rintro rfl
        exact other (by decide)
      exact (copyGlobalConf_files_of_ne _ _ different).trans (untouched.files path other)
    · rw [copyGlobalConf_files_self, untouched.files _ (globalConfOf_apart known),
        refines.globalConf]
    · intro other member
      exact refines.known other (List.mem_of_mem_eraseIdx member)

theorem document_simulates (lib : JsonText) (start : Gateway) (d : Documents) :
    Simulates (DocumentWorld.step lib) (DocumentWorld.answer lib)
      (DocumentStore.step lib fun region => start.files (globalConfOf region))
      (DocumentStore.answer lib) (Refines lib start d) where
  related w s e refines := by
    cases e with
    | request r => exact (refines.request r).1
    | copied k => exact refines.copied k
  same w s e refines := by
    cases e with
    | request r => exact (refines.request r).2
    | copied k => rfl

/-- Over every sequence of requests, and of copies in the background, the handlers answer as the
store of settings does, the documents have its settings afterwards, the configuration in use is that
of the store, and nothing else in the documents or on the disk has changed. -/
theorem documents_refine (lib : JsonText) {g : Gateway} {d : Documents} (stores : Stores lib g d)
    (events : List DocumentEvent) :
    Refines lib g d (run (DocumentWorld.step lib) { gateway := g } events)
        (run (DocumentStore.step lib fun region => g.files (globalConfOf region))
          { settings := d.settings, globalConf := g.files globalConfSx1250 } events) ∧
      answers (DocumentWorld.step lib) (DocumentWorld.answer lib) { gateway := g } events =
        answers (DocumentStore.step lib fun region => g.files (globalConfOf region))
          (DocumentStore.answer lib)
          { settings := d.settings, globalConf := g.files globalConfSx1250 } events := by
  apply (document_simulates lib g d).run
  refine ⟨⟨d, stores, rfl, ?_⟩, rfl, rfl, fun region member => nomatch member⟩
  exact ⟨fun _ _ => rfl, fun _ _ => rfl, fun _ _ => rfl, fun _ _ => rfl⟩

/-- The filter and the notification as they are shipped, with a region. -/
def firstDocuments : Documents where
  filter := .obj [("filter_enable", .bool false)]
  region := .obj [("lorawan_region", .str "CN490")]
  notification := .obj [("push_enable", .bool true)]

def firstGateway : Gateway :=
  let written (j : Json) : Option Bytes := some (JsonCodec.text.dump j ++ [10])
  ((Gateway.setFile ⟨fun _ => none, fun _ => false, "", []⟩ lorawanFilterConfDefault
    (written firstDocuments.filter)).setFile lorawanRegionConfDefault
      (written firstDocuments.region)).setFile gwNotifConfDefault
        (written firstDocuments.notification)

theorem proper_member (key : String) {v : Json} (proper : v.Proper JsonCodec.text.finite) :
    (Json.obj [(key, v)]).Proper JsonCodec.text.finite :=
  .obj (List.pairwise_singleton _ _) (List.forall_mem_singleton.mpr proper)

theorem firstGateway_stores : Stores JsonCodec.text firstGateway firstDocuments where
  filter := by
    apply (holds_written (proper_member _ (.bool false)) rfl _ _).of_files
    rw [firstGateway, Gateway.setFile_files_of_ne _ (by decide),
      Gateway.setFile_files_of_ne _ (by decide)]
    rfl
  region := by
    apply (holds_written (proper_member _ (.str "CN490")) rfl _ _).of_files
    rw [firstGateway, Gateway.setFile_files_of_ne _ (by decide)]
    rfl
  notification := holds_written (proper_member _ (.bool true)) rfl _ _

/-- The region is set and its configuration copied, and the region is read back. -/
theorem documents_refine_first :
    let events : List DocumentEvent :=
      [.request (.regionSet (textBytes "\x7b\"body\":\x7b\"region\":\"EU868\"\x7d\x7d")),
        .copied 0, .request .regionGet]
    answers (DocumentWorld.step JsonCodec.text) (DocumentWorld.answer JsonCodec.text)
        { gateway := firstGateway } events =
      answers (DocumentStore.step JsonCodec.text fun region =>
          firstGateway.files (globalConfOf region)) (DocumentStore.answer JsonCodec.text)
        { settings := firstDocuments.settings,
          globalConf := firstGateway.files globalConfSx1250 } events :=
  (documents_refine JsonCodec.text firstGateway_stores _).2

end LorawanFeeds.Cgi
