import Mathlib.Data.Bool.AllAny
import LorawanFeeds.Cgi.ModeFile
import LorawanFeeds.Cgi.ResponseText
import LorawanFeeds.Cgi.StationSettings

/-!
# The credentials of the station, set and read back

Four options of `main_station_set` write a text of the request to a file, a token with its header.
`fill_json_for_auth_file` reads an address up to its first white space, and a token from behind the
first header on.
-/
namespace LorawanFeeds.Cgi

open Lib Bridge CText Proc

/-! ### The four texts -/

inductive Credential where
  | tcUri
  | tcKey
  | cupsUri
  | cupsKey
  deriving DecidableEq, Repr

/-- A token without the header at its front. -/
def bareToken (key : String) : String :=
  if "Authorization: ".toList <+: key.toList then String.ofList (key.toList.drop 15) else key

namespace Credential

def option : Credential → String
  | tcUri => "cgicpp-bs-tc-uri-set"
  | tcKey => "cgicpp-bs-tc-key-set"
  | cupsUri => "cgicpp-bs-cups-uri-set"
  | cupsKey => "cgicpp-bs-cups-key-set"

/-- The member of `body`. -/
def key : Credential → String
  | tcUri => "tc_uri"
  | tcKey => "tc_key"
  | cupsUri => "cups_uri"
  | cupsKey => "cups_key"

def dir : Credential → String
  | tcUri => "/etc/ssl/gw/tc_uri"
  | tcKey => "/etc/ssl/gw/tc_token"
  | cupsUri => "/etc/ssl/gw/cups_boot_uri"
  | cupsKey => "/etc/ssl/gw/cups_boot_token"

def path : Credential → String
  | tcUri => Cgi.tcUri
  | tcKey => tcClientToken
  | cupsUri => Cgi.cupsUri
  | cupsKey => cupsClientToken

/-- The place in the answer to the request for the work mode. -/
def place : Credential → List String
  | tcUri => ["station", "LNS", "urifile"]
  | tcKey => ["station", "LNS", "token"]
  | cupsUri => ["station", "CUPS", "urifile"]
  | cupsKey => ["station", "CUPS", "token"]

/-- The text as it is stored. -/
def edit : Credential → String → String
  | tcUri | cupsUri => id
  | tcKey | cupsKey => authorization

/-- What the answer shows of a file. -/
def read : Credential → Bytes → Bytes
  | tcUri | cupsUri => firstWord
  | tcKey | cupsKey => tokenOf

/-- The text as it is to be shown. -/
def bare : Credential → String → String
  | tcUri | cupsUri => id
  | tcKey | cupsKey => bareToken

/-- The text survives the way through its file: an address has no white space in it, and what is
shown of a token no header. -/
def Readable : Credential → String → Prop
  | tcUri, v | cupsUri, v => ∀ b ∈ textBytes v, isspaceByte b = false
  | tcKey, v | cupsKey, v => ¬containsText (bareToken v) "Authorization: "

end Credential

/-- The request has this text. -/
def Carries (lib : JsonText) (c : Credential) (inputJson : Bytes) (v : String) : Prop :=
  ∃ remoteJson, lib.parse inputJson = some remoteJson ∧
    remoteJson.lookup ["body", c.key] = some (.str v)

/-- The folder is there, or it can be made. -/
def Available (sys : System) (g : Gateway) (dir : String) : Prop :=
  g.folders dir = true ∨ (g.files dir).isSome = false ∧ sys.mkdir dir = true

/-! ### A set -/

/-- The gateway after `makeDir`. -/
def Gateway.madeDir (sys : System) (dir : String) (g : Gateway) : Gateway :=
  if ¬ g.folders dir ∧ ¬ (g.files dir).isSome ∧ sys.mkdir dir then
    { g with folders := Function.update g.folders dir true }
  else g

/-- The gateway after `writeText`. -/
def Gateway.writtenText (dir path text : String) (g : Gateway) : Gateway :=
  if g.folders dir then g.setFile path (some (textBytes text)) else g

theorem madeDir_files (sys : System) (dir : String) (g : Gateway) :
    (g.madeDir sys dir).files = g.files := by
  rw [Gateway.madeDir]
  split <;> rfl

theorem madeDir_folders (sys : System) (dir : String) (g : Gateway) :
    (g.madeDir sys dir).folders dir = true ↔ Available sys g dir := by
  rw [Gateway.madeDir, Available]
  by_cases there : g.folders dir = true
  · rw [if_neg fun makes => makes.1 there]
    exact iff_of_true there (.inl there)
  · rw [or_iff_right there]
    split
    next makes =>
      rw [Bool.not_eq_true] at makes
      simp [makes.2]
    next fails =>
      refine iff_of_false there fun available => fails ⟨there, ?_, available.2⟩
      simp [available.1]

theorem writtenText_files (dir path text : String) (g : Gateway) :
    (g.writtenText dir path text).files path =
      if g.folders dir = true then some (textBytes text) else g.files path := by
  rw [Gateway.writtenText]
  split
  · exact g.setFile_files_self _ _
  · rfl

theorem writtenText_files_of_ne (dir : String) {path other : String} (different : other ≠ path)
    (text : String) (g : Gateway) : (g.writtenText dir path text).files other = g.files other := by
  rw [Gateway.writtenText]
  split
  · exact g.setFile_files_of_ne different _
  · rfl

/-- The gateway after a set of a credential: the text is written if the request has one. -/
def Gateway.withCredential (sys : System) (c : Credential) (text : Option String) (g : Gateway) :
    Gateway :=
  match text with
  | some v => (g.madeDir sys c.dir).writtenText c.dir c.path (c.edit v)
  | none => g.madeDir sys c.dir

/-- The request is one for its credential, and not one for all settings. -/
theorem parseRemoteCb_credential (sys : System) (c : Credential) (remoteJson localJson : Json) :
    parseRemoteCb sys c.option remoteJson localJson =
      (parseRemoteText sys c.dir c.path c.key c.edit remoteJson >>= fun _ => pure localJson) := by
  cases c <;> rfl

theorem containsAll_option (c : Credential) : ¬containsText c.option "all" := by
  cases c <;> simp [containsText, Credential.option, List.infix_cons_iff]

/-- A body that is not there has no members. -/
theorem lookup_body {j body : Json} (found : j.index "body" = .ok body) (key : String) :
    j.lookup ["body", key] = body.get? key := by
  have same := Json.eq_of_index_eq_ok found
  subst same
  rw [Json.lookup]
  cases j.get? "body" with
  | none => rfl
  | some child =>
    change (child.get? key).bind some = child.get? key
    cases child.get? key <;> rfl

theorem parseRemoteText_ends (sys : System) (c : Credential) (remoteJson : Json) (g : Gateway) :
    Ends (parseRemoteText sys c.dir c.path c.key c.edit remoteJson) g
      (fun _ g' =>
        (∃ v, remoteJson.lookup ["body", c.key] = some (.str v) ∧
          g' = g.withCredential sys c (some v)) ∨
        remoteJson.lookup ["body", c.key] = none ∧ g' = g.withCredential sys c none)
      fun e _ => e = .thrown ∧ ∀ v, remoteJson.lookup ["body", c.key] ≠ some (.str v) := by
  apply ends_bind
  apply ends_modify
  apply ends_bind
  refine ends_converted (fun body found => ?_) fun e fails => ⟨rfl, fun v there => ?_⟩
  · have looked := lookup_body found c.key
    split
    next has =>
      apply ends_bind
      refine ends_converted (fun v read => ?_) fun e fails => ⟨rfl, fun v there => ?_⟩
      · rw [Json.index_asString_ok_iff, ← looked] at read
        exact ends_modify (.inl ⟨v, read, rfl⟩)
      · rw [looked, ← Json.index_asString_ok_iff] at there
        cases fails.symm.trans there
    next lacks =>
      rw [Json.contains, Bool.not_eq_true, Option.isSome_eq_false_iff, Option.isNone_iff_eq_none,
        ← looked] at lacks
      exact ends_pure (.inr ⟨lacks, rfl⟩)
  · -- What has no members has no body.
    have path := Json.indexPath_of_lookup there
    rw [Json.indexPath, fails] at path
    cases path

/-- The gateway after a set that has been accepted: the settings are written anew. -/
def Gateway.credentialSet (lib : JsonText) (sys : System) (c : Credential) (text : Option String)
    (localJson : Json) (g : Gateway) : Gateway :=
  (g.withCredential sys c text).setFile stationConfDefault (some (lib.dump localJson ++ [10]))

/-- A set is accepted where the text of the request is one, or is missing. -/
theorem mainStationSet_credential_ends (lib : JsonText) (sys : System) (c : Credential)
    (inputJson : Bytes) (g : Gateway) :
    Ends (mainStationSet lib sys c.option inputJson) g
      (fun answer g' =>
        (answer = (0, []) ∧ ∃ localJson, documentAt lib g stationConfDefault = some localJson ∧
          ((∃ v, Carries lib c inputJson v ∧ g' = g.credentialSet lib sys c (some v) localJson) ∨
            (∀ v, ¬Carries lib c inputJson v) ∧ g' = g.credentialSet lib sys c none localJson)) ∨
        answer = failed updateFailed ∧ ∀ v, ¬Carries lib c inputJson v)
      fun _ _ => documentAt lib g stationConfDefault = none := by
  apply ends_bind
  refine ends_loRaStation (fun localJson document => ?_) id
  rw [parserSet, if_neg (containsAll_option c)]
  apply ends_tryCatch
  apply ends_bind
  apply ends_bind
  refine ends_parseJson (fun remoteJson valid => ?_) fun invalid => ?_
  · have only {v : String} (carries : Carries lib c inputJson v) :
        remoteJson.lookup ["body", c.key] = some (.str v) := by
      obtain ⟨other, parsed, there⟩ := carries
      cases valid.symm.trans parsed
      exact there
    rw [parseRemoteCb_credential]
    apply ends_bind
    apply ends_bind
    refine (parseRemoteText_ends sys c remoteJson g).imp ?_ ?_
    · rintro _ g' (⟨v, there, rfl⟩ | ⟨missing, rfl⟩)
      · apply ends_pure
        apply ends_modify
        exact ends_pure (.inl ⟨rfl, localJson, document, .inl ⟨v, ⟨remoteJson, valid, there⟩, rfl⟩⟩)
      · apply ends_pure
        apply ends_modify
        refine ends_pure (.inl ⟨rfl, localJson, document, .inr ⟨fun v carries => ?_, rfl⟩⟩)
        cases missing.symm.trans (only carries)
    · rintro e g' ⟨rfl, other⟩
      rw [if_pos (by decide)]
      exact ends_pure (.inr ⟨rfl, fun v carries => other v (only carries)⟩)
  · rw [if_pos (by decide)]
    refine ends_pure (.inr ⟨rfl, fun v carries => ?_⟩)
    obtain ⟨remoteJson, parsed, -⟩ := carries
    cases invalid.symm.trans parsed

section

variable {lib : JsonText} {sys : System} {c : Credential} {localJson : Json} {g : Gateway}

theorem path_ne_station (c : Credential) : c.path ≠ stationConfDefault := by
  cases c <;> decide +kernel

/-- The file of the credential after a set. -/
theorem credentialSet_files (v : String) [Decidable (Available sys g c.dir)] :
    (g.credentialSet lib sys c (some v) localJson).files c.path =
      if Available sys g c.dir then some (textBytes (c.edit v)) else g.files c.path := by
  rw [Gateway.credentialSet, Gateway.setFile_files_of_ne _ (path_ne_station c),
    Gateway.withCredential, writtenText_files, madeDir_files]
  simp only [madeDir_folders]

/-- The other files are as they were. -/
theorem credentialSet_files_of_ne (text : Option String) {path : String} (other : path ≠ c.path)
    (conf : path ≠ stationConfDefault) :
    (g.credentialSet lib sys c text localJson).files path = g.files path := by
  rw [Gateway.credentialSet, Gateway.setFile_files_of_ne _ conf]
  cases text with
  | none => rw [Gateway.withCredential, madeDir_files]
  | some v => rw [Gateway.withCredential, writtenText_files_of_ne _ other, madeDir_files]

/-- The settings are still there. -/
theorem credentialSet_document (document : documentAt lib g stationConfDefault = some localJson)
    (text : Option String) :
    documentAt lib (g.credentialSet lib sys c text localJson) stationConfDefault =
      some localJson := by
  have proper : localJson.Proper lib.finite := by
    obtain ⟨content, _, read⟩ := Option.bind_eq_some_iff.mp document
    exact lib.read_proper _ _ read
  rw [documentAt, Gateway.credentialSet, Gateway.setFile_files_self]
  exact lib.read_dump_endl _ proper

/-- A folder that has been there or has been made is there. -/
theorem credentialSet_available (available : Available sys g c.dir) (text : Option String) :
    Available sys (g.credentialSet lib sys c text localJson) c.dir := by
  have made := (madeDir_folders sys c.dir g).mpr available
  refine .inl ?_
  have kept : (g.credentialSet lib sys c text localJson).folders = (g.madeDir sys c.dir).folders := by
    rw [Gateway.credentialSet, Gateway.setFile]
    cases text with
    | none => rfl
    | some v =>
      rw [Gateway.withCredential, Gateway.writtenText]
      split <;> rfl
  rw [kept]
  exact made

end

/-! ### What is shown -/

/-- The text that is assigned last to a place of the answer. -/
def filledAt (g : Gateway) (place : List String) : Option Bytes :=
  (fillJsonForAuthFile g).reverse.lookup place

/-- The certificates of a mode stand apart from its credentials. -/
theorem fileEntry_apart (g : Gateway) (mode : String) (files : List FileInfo) {member : String}
    (other : ∀ p ∈ files, p.type ≠ member) (mode' : String) :
    ∀ entry ∈ files.map (fileEntry g mode), Json.Apart entry.1 ["station", mode', member] := by
  intro entry inside
  obtain ⟨p, listed, rfl⟩ := List.mem_map.mp inside
  exact .inr (.inr (.inl (other p listed)))

/-- The entry of a credential in the answer; what is assigned after it has other places. -/
theorem fillJsonForAuthFile_split (g : Gateway) (c : Credential) :
    ∃ front back, fillJsonForAuthFile g =
        front ++ (c.place, (g.files c.path).elim [] c.read) :: back ∧
      ∀ entry ∈ back, Json.Apart entry.1 c.place := by
  let certificates := lnsFileTb.map (fileEntry g "LNS") ++
    defaultEntry g "LNS" "/etc/basicstation/tc.trust" Cgi.tcTrust "tc.trust" ++
    defaultEntry g "CUPS" "/etc/basicstation/cups.trust" cupsTrust "cups.trust"
  have types (member : String) (urifile : member = "urifile" ∨ member = "token") :
      ∀ p ∈ cupsFileTb, p.type ≠ member := by
    intro p listed
    simp only [cupsFileTb, List.mem_cons, List.not_mem_nil, or_false] at listed
    rcases urifile with rfl | rfl <;> rcases listed with rfl | rfl | rfl <;> decide
  cases c with
  | tcUri =>
    refine ⟨certificates, tokenEntry g "LNS" tcClientToken :: (cupsFileTb.map (fileEntry g "CUPS") ++
      [uriEntry g "CUPS" cupsUri, tokenEntry g "CUPS" cupsClientToken]), ?_, ?_⟩
    · simp only [fillJsonForAuthFile, certificates, List.append_assoc, List.cons_append,
        List.nil_append]
      rfl
    · rw [List.forall_mem_cons, List.forall_mem_append, List.forall_mem_cons,
        List.forall_mem_singleton]
      exact ⟨.inr (.inr (.inl (by decide))), fileEntry_apart g _ _ (types _ (.inl rfl)) _,
        .inr (.inl (by decide)), .inr (.inl (by decide))⟩
  | tcKey =>
    refine ⟨certificates ++ [uriEntry g "LNS" tcUri], cupsFileTb.map (fileEntry g "CUPS") ++
      [uriEntry g "CUPS" cupsUri, tokenEntry g "CUPS" cupsClientToken], ?_, ?_⟩
    · simp only [fillJsonForAuthFile, certificates, List.append_assoc, List.cons_append,
        List.nil_append]
      rfl
    · rw [List.forall_mem_append, List.forall_mem_cons, List.forall_mem_singleton]
      exact ⟨fileEntry_apart g _ _ (types _ (.inr rfl)) _, .inr (.inl (by decide)),
        .inr (.inl (by decide))⟩
  | cupsUri =>
    refine ⟨certificates ++ [uriEntry g "LNS" tcUri, tokenEntry g "LNS" tcClientToken] ++
      cupsFileTb.map (fileEntry g "CUPS"), [tokenEntry g "CUPS" cupsClientToken], ?_, ?_⟩
    · simp only [fillJsonForAuthFile, certificates, List.append_assoc, List.cons_append,
        List.nil_append]
      rfl
    · exact List.forall_mem_singleton.mpr (.inr (.inr (.inl (by decide))))
  | cupsKey =>
    refine ⟨certificates ++ [uriEntry g "LNS" tcUri, tokenEntry g "LNS" tcClientToken] ++
      cupsFileTb.map (fileEntry g "CUPS") ++ [uriEntry g "CUPS" cupsUri], [], ?_, ?_⟩
    · simp only [fillJsonForAuthFile, certificates, List.append_assoc, List.cons_append,
        List.nil_append]
      rfl
    · exact fun _ none => absurd none List.not_mem_nil

theorem filledAt_credential (g : Gateway) (c : Credential) :
    filledAt g c.place = some ((g.files c.path).elim [] c.read) := by
  obtain ⟨front, back, entries, apart⟩ := fillJsonForAuthFile_split g c
  have later : back.reverse.lookup c.place = none := by
    rw [List.lookup_eq_none_iff]
    intro entry member
    rw [bne_iff_ne]
    intro same
    have self : Json.Apart c.place c.place := by
      have here := apart entry (List.mem_reverse.mp member)
      rwa [← same] at here
    revert self
    cases c <;> decide
  rw [filledAt, entries, List.reverse_append, List.reverse_cons, List.append_assoc,
    List.lookup_append, later, Option.none_or, List.cons_append, List.lookup_cons_self]

/-- An entry among others, as it stands in the document. -/
theorem values_split {front back : List TextEntry} {entry : TextEntry}
    {texts : List (List String × Json)}
    (values : (front ++ entry :: back).mapM TextEntry.value = some texts) :
    ∃ before text after, texts = before ++ (entry.1, .str text) :: after ∧
      JsonCodec.ofUtf8 entry.2 = some text ∧ after.map Prod.fst = back.map Prod.fst := by
  have paths (entries : List TextEntry) (fields : List (List String × Json))
      (values : entries.mapM TextEntry.value = some fields) :
      fields.map Prod.fst = entries.map Prod.fst := by
    induction entries generalizing fields with
    | nil =>
      cases values
      rfl
    | cons entry entries ih =>
      rw [List.mapM_cons] at values
      obtain ⟨first, read, values⟩ := Option.bind_eq_some_iff.mp values
      obtain ⟨rest, more, values⟩ := Option.bind_eq_some_iff.mp values
      cases values
      obtain ⟨text, _, rfl⟩ := Option.map_eq_some_iff.mp read
      rw [List.map_cons, List.map_cons, ih rest more]
  rw [List.mapM_append] at values
  obtain ⟨before, _, values⟩ := Option.bind_eq_some_iff.mp values
  obtain ⟨rest, read, values⟩ := Option.bind_eq_some_iff.mp values
  cases values
  rw [List.mapM_cons] at read
  obtain ⟨first, value, read⟩ := Option.bind_eq_some_iff.mp read
  obtain ⟨after, later, read⟩ := Option.bind_eq_some_iff.mp read
  cases read
  obtain ⟨text, utf8, rfl⟩ := Option.map_eq_some_iff.mp value
  exact ⟨before, text, after, rfl, utf8, paths back after later⟩

theorem eq_some_of_thrown {α : Type} {x : Option α} {a : α} (returned : thrown x = .ok a) :
    x = some a := by
  cases x <;> cases returned
  rfl

theorem eq_thrown_of_thrown {α : Type} {x : Option α} {e : Fault} (stopped : thrown x = .error e) :
    e = .thrown := by
  cases x <;> cases stopped
  rfl

/-- The answer to the request for the work mode shows what its file makes of a credential. -/
theorem workmodeGet_shows {lib : JsonText} {mac : Option (Fin 6 → UInt8)} {running : String → Bool}
    {g g' : Gateway} {rsp : Bytes}
    (answered : mainLorawanWorkmodeGet lib mac running g = (.ok (0, rsp), g')) (c : Credential) :
    ∃ uploadJson text, rsp = lib.dump uploadJson ∧
      uploadJson.lookup c.place = some (.str text) ∧
        JsonCodec.ofUtf8 ((g.files c.path).elim [] c.read) = some text := by
  have ends : Ends (mainLorawanWorkmodeGet lib mac running) g
      (fun result _ => result.1 = 0 → ∃ uploadJson,
        dumpTexts lib uploadJson (fillJsonForAuthFile g) = some result.2) fun _ _ => True := by
    -- What throws ends in an answer with another code.
    have fails (rsp : String) : Ends (pure (failed rsp) : CgiHandler Result) g (fun result _ =>
        result.1 = 0 → ∃ uploadJson,
          dumpTexts lib uploadJson (fillJsonForAuthFile g) = some result.2) fun _ _ => True :=
      ends_pure fun zero => absurd zero (by decide : (-1 : Int) ≠ 0)
    apply ends_tryCatch
    apply ends_bind
    refine ends_readJson (fun localJson _ => ?_) fun _ => fails _
    apply ends_bind
    apply ends_bind
    refine ends_readJson (fun regionJson _ => ?_) fun _ => fails _
    apply ends_bind
    refine ends_converted (fun region _ => ?_) fun _ _ => fails _
    apply ends_pure
    apply ends_bind
    refine ends_converted (fun workmode _ => ?_) fun _ _ => fails _
    apply ends_bind
    refine ends_converted (fun fields _ => ?_) fun _ _ => fails _
    apply ends_bind
    apply ends_get
    apply ends_bind
    refine ends_ofExcept (fun rsp dumped => ?_) fun e stopped => ?_
    · exact ends_pure fun _ => ⟨_, eq_some_of_thrown dumped⟩
    · rw [eq_thrown_of_thrown stopped]
      exact fails _
  obtain ⟨uploadJson, dumped⟩ := ends.of_eq_ok answered rfl
  rw [dumpTexts] at dumped
  obtain ⟨texts, values, dumped⟩ := Option.map_eq_some_iff.mp dumped
  obtain ⟨front, back, entries, apart⟩ := fillJsonForAuthFile_split g c
  rw [entries] at values
  obtain ⟨before, text, after, rfl, utf8, paths⟩ := values_split values
  refine ⟨_, text, dumped.symm, ?_, utf8⟩
  have later : ∀ field ∈ after, Json.Apart field.1 c.place := by
    intro field member
    have listed : field.1 ∈ after.map Prod.fst := List.mem_map_of_mem member
    rw [paths] at listed
    obtain ⟨entry, inside, same⟩ := List.mem_map.mp listed
    exact same ▸ apart entry inside
  rw [Json.putAll, List.foldl_append, List.foldl_cons, ← Json.putAll,
    Json.lookup_putAll_of_apart _ later, Json.lookup_put_self]

/-! ### Texts and their files -/

theorem strstr_append {α : Type} [DecidableEq α] (needle text : List α) (some : needle ≠ []) :
    strstr needle (needle ++ text) = Option.some text := by
  cases needle with
  | nil => exact absurd rfl some
  | cons c needle =>
    have front : (c :: needle).isPrefixOf (c :: (needle ++ text)) = true := by
      rw [List.isPrefixOf_iff_prefix]
      exact List.prefix_append (c :: needle) text
    rw [List.cons_append, strstr, if_pos front]
    exact congrArg Option.some (@List.drop_left _ (c :: needle) _)

/-- What follows the place is shorter. -/
theorem strstr_length {α : Type} [DecidableEq α] {needle text rest : List α}
    (found : strstr needle text = some rest) : rest.length + needle.length ≤ text.length := by
  induction text with
  | nil =>
    rw [strstr] at found
    split at found
    next empty =>
      cases found
      rw [empty]
      exact Nat.le_refl _
    next => cases found
  | cons c text ih =>
    rw [strstr] at found
    split at found
    next front =>
      cases found
      have size := (List.isPrefixOf_iff_prefix.mp front).length_le
      rw [List.length_drop]
      omega
    next =>
      have size := ih found
      rw [List.length_cons]
      omega

theorem textBytes_injective {s t : String} (same : textBytes s = textBytes t) : s = t := by
  rw [textBytes_eq_utf8, textBytes_eq_utf8] at same
  have read := congrArg JsonCodec.ofUtf8 same
  rw [JsonCodec.ofUtf8_utf8, JsonCodec.ofUtf8_utf8] at read
  exact Option.some.inj read

/-- A text is its own first word if it has no white space. -/
theorem firstWord_eq_iff (content : Bytes) :
    firstWord content = content ↔ ∀ b ∈ content, isspaceByte b = false := by
  rw [firstWord]
  constructor
  · intro whole b member
    rw [← whole] at member
    have solid := List.mem_takeWhile_imp member
    simpa using solid
  · intro solid
    have start : content.dropWhile isspaceByte = content := by
      cases content with
      | nil => rfl
      | cons b rest => exact List.dropWhile_cons_of_neg (by simp [solid b (.head _)])
    rw [start, List.takeWhile_eq_self_iff]
    intro b member
    simpa using solid b member

/-- The header. -/
def header : String := "Authorization: "

theorem header_bytes : textBytes header ≠ [] ∧ (textBytes header).length = 15 := by
  decide +kernel

/-- A token has no header, begins with one, or has one further on. -/
inductive HeaderKind (key : String) : Prop where
  | plain (free : ¬containsText key header) (stored : authorization key = header ++ key)
      (bare : bareToken key = key)
  | headed (rest : String) (form : key = header ++ rest) (stored : authorization key = key)
      (bare : bareToken key = rest)
  | within (has : containsText key header) (stored : authorization key = key)
      (bare : bareToken key = key)

theorem token_cases (key : String) : HeaderKind key := by
  by_cases front : header.toList <+: key.toList
  · obtain ⟨rest, same⟩ := front
    have form : key = header ++ String.ofList rest := by
      rw [String.ext_iff, String.toList_append, String.toList_ofList, same]
    have has : containsText key header := by
      rw [containsText, ← same]
      exact (List.prefix_append _ _).isInfix
    have dropped : key.toList.drop 15 = rest := by
      rw [← same]
      rfl
    refine .headed (String.ofList rest) form (if_pos has) ?_
    rw [bareToken, if_pos ⟨rest, same⟩, dropped]
  · by_cases has : containsText key header
    · exact .within has (if_pos has) (if_neg front)
    · exact .plain has (if_neg has) (if_neg front)

theorem tokenOf_header (rest : String) : tokenOf (textBytes (header ++ rest)) = textBytes rest := by
  rw [tokenOf, textBytes_append]
  change (strstr (textBytes header) _).getD [] = _
  rw [strstr_append _ _ header_bytes.1]
  rfl

/-- What is read of a file is shorter than the file. -/
theorem length_tokenOf (content : Bytes) :
    tokenOf content = [] ∨ (tokenOf content).length < content.length := by
  rw [tokenOf]
  change (strstr (textBytes header) content).getD [] = [] ∨
    ((strstr (textBytes header) content).getD []).length < content.length
  cases found : strstr (textBytes header) content with
  | none => exact .inl rfl
  | some rest =>
    right
    have size := strstr_length found
    rw [header_bytes.2] at size
    rw [Option.getD_some]
    omega

theorem textBytes_length_append (rest : String) :
    (textBytes (header ++ rest)).length = 15 + (textBytes rest).length := by
  rw [textBytes_append, List.length_append, header_bytes.2]

/-- A token is shown as it is to be, and stays when it is set again, exactly if no header is left in
what is shown. -/
theorem token_readable_iff (key : String) :
    tokenOf (textBytes (authorization key)) = textBytes (bareToken key) ∧
        authorization (bareToken key) = authorization key ↔
      ¬containsText (bareToken key) header := by
  cases token_cases key with
  | plain free stored bare =>
    rw [bare, stored]
    exact iff_of_true ⟨tokenOf_header key, rfl⟩ free
  | headed rest form stored bare =>
    rw [bare, stored]
    constructor
    · rintro ⟨-, again⟩ has
      have kept : authorization rest = rest := if_pos has
      rw [kept] at again
      have size := congrArg (List.length ∘ textBytes) (again.trans form)
      simp only [Function.comp_apply, textBytes_length_append] at size
      omega
    · intro free
      refine ⟨?_, ?_⟩
      · rw [form, tokenOf_header]
      · have headed : authorization rest = header ++ rest := if_neg free
        rw [headed, form]
  | within has stored bare =>
    rw [bare, stored]
    refine iff_of_false (fun both => ?_) fun free => free has
    rcases length_tokenOf (textBytes key) with none | shorter
    · -- A text with the header in it is not empty.
      rw [both.1] at none
      refine textBytes_ne_nil ?_ none
      rintro rfl
      exact absurd has (by decide)
    · rw [both.1] at shorter
      exact absurd shorter (Nat.lt_irrefl _)

theorem credential_readable_iff (c : Credential) (v : String) :
    c.read (textBytes (c.edit v)) = textBytes (c.bare v) ∧ c.edit (c.bare v) = c.edit v ↔
      c.Readable v := by
  cases c with
  | tcUri => exact (and_iff_left rfl).trans (firstWord_eq_iff _)
  | cupsUri => exact (and_iff_left rfl).trans (firstWord_eq_iff _)
  | tcKey => exact token_readable_iff v
  | cupsKey => exact token_readable_iff v

/-! ### The round trip -/

/-- The request has carried the text, its file holds it and the answer to the request for the work mode
shows it; nothing else has changed but the settings, and what has been shown can be set again. -/
structure RoundTrip (lib : JsonText) (sys : System) (c : Credential) (inputJson : Bytes)
    (g g' : Gateway) (v : String) : Prop where
  carried : Carries lib c inputJson v
  stored : g'.files c.path = some (textBytes (c.edit v))
  filled : filledAt g' c.place = some (textBytes (c.bare v))
  shown : ∀ mac running rsp g'', mainLorawanWorkmodeGet lib mac running g' = (.ok (0, rsp), g'') →
    ∃ uploadJson, rsp = lib.dump uploadJson ∧ uploadJson.lookup c.place = some (.str (c.bare v))
  others : ∀ path, path ≠ c.path → path ≠ stationConfDefault → g'.files path = g.files path
  again : ∀ inputJson' rsp g'', Carries lib c inputJson' (c.bare v) →
    mainStationSet lib sys c.option inputJson' g' = (.ok (0, rsp), g'') →
      g''.files c.path = g'.files c.path

theorem Carries.unique {lib : JsonText} {c : Credential} {inputJson : Bytes} {v w : String}
    (first : Carries lib c inputJson v) (second : Carries lib c inputJson w) : v = w := by
  obtain ⟨remoteJson, parsed, there⟩ := first
  obtain ⟨other, parsed', there'⟩ := second
  cases parsed.symm.trans parsed'
  cases there.symm.trans there'
  rfl

/-- A request with a text. -/
def credentialRequest (c : Credential) (v : String) : Json :=
  .obj [("body", .obj [(c.key, .str v)])]

theorem carries_request (lib : JsonText) (c : Credential) (v : String) :
    Carries lib c (lib.dump (credentialRequest c v)) v := by
  have proper : (credentialRequest c v).Proper lib.finite := by
    refine .obj (List.pairwise_singleton _ _) ?_
    intro field member
    cases List.mem_singleton.mp member
    refine .obj (List.pairwise_singleton _ _) ?_
    intro field member
    cases List.mem_singleton.mp member
    exact .str v
  refine ⟨_, lib.parse_dump _ proper, ?_⟩
  simp [credentialRequest, Json.lookup, Json.get?, Json.members, OrderedMap.find?]

section

variable {lib : JsonText} {sys : System} {c : Credential} {inputJson : Bytes} {g : Gateway}

/-- A set that is accepted with a text. -/
theorem mainStationSet_carried {v : String} (carries : Carries lib c inputJson v)
    {rsp : Bytes} {g' : Gateway}
    (accepted : mainStationSet lib sys c.option inputJson g = (.ok (0, rsp), g')) :
    ∃ localJson, documentAt lib g stationConfDefault = some localJson ∧
      g' = g.credentialSet lib sys c (some v) localJson := by
  rcases (mainStationSet_credential_ends lib sys c inputJson g).of_eq_ok accepted with
    ⟨-, localJson, document, ⟨w, other, rfl⟩ | ⟨none, -⟩⟩ | ⟨fails, -⟩
  · cases carries.unique other
    exact ⟨localJson, document, rfl⟩
  · exact absurd carries (none v)
  · cases fails

/-- A set with a text is accepted where the settings can be read. -/
theorem mainStationSet_of_carries {v : String} (carries : Carries lib c inputJson v)
    {localJson : Json} (document : documentAt lib g stationConfDefault = some localJson) :
    mainStationSet lib sys c.option inputJson g =
      (.ok (0, []), g.credentialSet lib sys c (some v) localJson) := by
  have ends := mainStationSet_credential_ends lib sys c inputJson g
  rcases answered : mainStationSet lib sys c.option inputJson g with ⟨answer | answer, g'⟩
  · cases (ends.of_eq_error answered).symm.trans document
  · rcases ends.of_eq_ok answered with ⟨rfl, other, same, ⟨w, also, rfl⟩ | ⟨none, -⟩⟩ | ⟨-, none⟩
    · cases document.symm.trans same
      cases carries.unique also
      rfl
    · exact absurd carries (none v)
    · exact absurd carries (none v)

/-- A set of a credential goes round exactly if the request has the text, its folder can be used, and
the text survives the way through its file. -/
theorem credential_round_trip_iff {rsp : Bytes} {g' : Gateway}
    (accepted : mainStationSet lib sys c.option inputJson g = (.ok (0, rsp), g'))
    (rooted : (g.files c.path).isSome = true → g.folders c.dir = true) :
    (∃ v, RoundTrip lib sys c inputJson g g' v) ↔
      ∃ v, Carries lib c inputJson v ∧ Available sys g c.dir ∧ c.Readable v := by
  classical
  constructor
  · rintro ⟨v, carried, stored, filled, -, -, again⟩
    obtain ⟨localJson, document, rfl⟩ := mainStationSet_carried carried accepted
    have available : Available sys g c.dir := by
      by_contra missing
      rw [credentialSet_files, if_neg missing] at stored
      exact missing (.inl (rooted (by rw [stored]; rfl)))
    refine ⟨v, carried, available, (credential_readable_iff c v).mp ⟨?_, ?_⟩⟩
    · rw [filledAt_credential, stored] at filled
      exact Option.some.inj filled
    · -- What has been shown is set again.
      have carries := carries_request lib c (c.bare v)
      have settings : documentAt lib (g.credentialSet lib sys c (some v) localJson)
          stationConfDefault = some localJson := credentialSet_document document (some v)
      have same := again _ _ _ carries (mainStationSet_of_carries carries settings)
      rw [stored, credentialSet_files, if_pos (credentialSet_available available (some v))] at same
      exact textBytes_injective (Option.some.inj same)
  · rintro ⟨v, carried, available, readable⟩
    obtain ⟨localJson, document, rfl⟩ := mainStationSet_carried carried accepted
    obtain ⟨read, reset⟩ := (credential_readable_iff c v).mpr readable
    have stored : (g.credentialSet lib sys c (some v) localJson).files c.path =
        some (textBytes (c.edit v)) := by
      rw [credentialSet_files, if_pos available]
    refine ⟨v, carried, stored, ?_, ?_, ?_, ?_⟩
    · rw [filledAt_credential, stored]
      exact congrArg some read
    · intro mac running rsp g'' answered
      obtain ⟨uploadJson, text, dumped, shown, utf8⟩ := workmodeGet_shows answered c
      rw [stored] at utf8
      change JsonCodec.ofUtf8 (c.read (textBytes (c.edit v))) = some text at utf8
      rw [read, textBytes_eq_utf8, JsonCodec.ofUtf8_utf8] at utf8
      cases utf8
      exact ⟨uploadJson, dumped, shown⟩
    · exact fun path other conf => credentialSet_files_of_ne (some v) other conf
    · intro inputJson' rsp g'' carries accepted'
      obtain ⟨localJson', -, rfl⟩ := mainStationSet_carried carries accepted'
      rw [stored, credentialSet_files, if_pos (credentialSet_available available (some v)), reset]

end

/-- A gateway on which nothing but the settings has been stored, and a system that makes no folder. -/
def freshStation : Gateway where
  files := fun path =>
    if path = stationConfDefault then some (JsonCodec.text.dump clockSettings) else none
  folders := fun _ => true

theorem freshStation_read :
    documentAt JsonCodec.text freshStation stationConfDefault = some clockSettings := by
  have there : freshStation.files stationConfDefault = some (JsonCodec.text.dump clockSettings) := by
    simp only [freshStation, if_true]
  rw [documentAt, there, Option.bind_some]
  exact JsonCodec.text.read_dump _ (clock_proper _ _ _)

/-- The request with a text, its answer, and the gateway after it. -/
theorem freshStation_accepts (c : Credential) (v : String) :
    mainStationSet JsonCodec.text idleSystem c.option (JsonCodec.text.dump (credentialRequest c v))
        freshStation =
      (.ok (0, []), freshStation.credentialSet JsonCodec.text idleSystem c (some v) clockSettings) :=
  mainStationSet_of_carries (carries_request _ c v) freshStation_read

/-- An address without white space. -/
theorem lns_address_round_trip :
    ∃ v, RoundTrip JsonCodec.text idleSystem .tcUri
      (JsonCodec.text.dump (credentialRequest .tcUri "wss://lns:8887")) freshStation
      (freshStation.credentialSet JsonCodec.text idleSystem .tcUri (some "wss://lns:8887")
        clockSettings) v := by
  refine (credential_round_trip_iff (freshStation_accepts .tcUri "wss://lns:8887")
    fun _ => rfl).mpr ⟨_, carries_request _ _ _, .inl rfl, ?_⟩
  exact List.all_iff_forall_prop.mp (by decide +kernel)

/-- What is stored and shown differs from what has been sent. -/
theorem not_roundTrip {c : Credential} {v : String}
    (unread : c.read (textBytes (c.edit v)) ≠ textBytes (c.bare v)) :
    ¬∃ w, RoundTrip JsonCodec.text idleSystem c (JsonCodec.text.dump (credentialRequest c v))
      freshStation (freshStation.credentialSet JsonCodec.text idleSystem c (some v) clockSettings)
      w := by
  rintro ⟨w, carried, stored, filled, -⟩
  cases carried.unique (carries_request _ c v)
  rw [filledAt_credential, stored] at filled
  exact unread (Option.some.inj filled)

/-- An address with a blank in it, and a token with the header in its middle. -/
theorem credentials_lost :
    let lost (c : Credential) (v : String) : Prop :=
      ∃ g', mainStationSet JsonCodec.text idleSystem c.option
          (JsonCodec.text.dump (credentialRequest c v)) freshStation = (.ok (0, []), g') ∧
        ¬∃ w, RoundTrip JsonCodec.text idleSystem c
          (JsonCodec.text.dump (credentialRequest c v)) freshStation g' w
    lost .tcUri "wss://lns 8887" ∧ lost .cupsKey "key Authorization: secret" :=
  ⟨⟨_, freshStation_accepts _ _, not_roundTrip (by decide +kernel)⟩,
    ⟨_, freshStation_accepts _ _, not_roundTrip (by decide +kernel)⟩⟩

end LorawanFeeds.Cgi
