import LorawanFeeds.Bridge.Config
import LorawanFeeds.Cgi.TomlValues

/-!
# The address of the server, written and read

`assemble_data_part_5` writes the address and the port of the server with a colon between them. Both
programs take the text apart again by the same code, which tells a scheme from a host by the length
of what stands before the first colon.
-/
namespace LorawanFeeds.Cgi

open Lib CText Decimal

/-- A host, or a host behind a scheme. -/
inductive ServerName : String → Prop
  | host {name : String} (filled : name ≠ "") (plain : ':' ∉ name.toList) : ServerName name
  | url {scheme name : String} (filled : scheme ≠ "") (noColon : ':' ∉ scheme.toList)
      (plain : ':' ∉ name.toList) : ServerName (scheme ++ "://" ++ name)

/-- Both programs read the address and the port that have been written. -/
structure RoundTrips (ip : String) (port : UInt32) : Prop where
  cgi : splitServer (joined ip port) = .ok (some (ip, port))
  bridge : ∀ generic : Toml, generic.find "server" = some (.string (joined ip port)) →
    Bridge.tomlAddress splitServer generic "server" = .ok (ip, port)

/-- What stands before the first colon. -/
def firstPart (ip : String) : List Char := ip.toList.takeWhile (· ≠ ':')

theorem roundTrips_iff (ip : String) (port : UInt32) :
    RoundTrips ip port ↔ splitServer (joined ip port) = .ok (some (ip, port)) := by
  constructor
  · exact RoundTrips.cgi
  · intro split
    refine ⟨split, fun generic found => ?_⟩
    simp [Bridge.tomlAddress, Bridge.tomlString, found, Toml.asString, thrown, split, bind, Except.bind,
      pure, Except.pure]

/-! ### Texts that end early -/

theorem mem_of_strtok {delimiter : Char} {text token rest : List Char}
    (found : strtok delimiter text = some (token, rest)) :
    (∀ c ∈ token, c ∈ text) ∧ ∀ c ∈ rest, c ∈ text := by
  have whole {c : Char} (member : c ∈ text.dropWhile (· = delimiter)) : c ∈ text :=
    (List.dropWhile_sublist _).subset member
  rw [strtok] at found
  split at found
  next => cases found
  next c more start =>
    cases found
    constructor
    · intro d member
      apply whole
      rw [start]
      exact (List.takeWhile_prefix _).subset member
    · intro d member
      apply whole
      rw [start]
      exact (List.dropWhile_sublist _).subset (List.mem_of_mem_drop member)

theorem undefined_ok {α : Type} {x : Option α} {a : α} (found : undefined x = .ok a) : x = some a := by
  cases x with
  | none => cases found
  | some b =>
    cases found
    rfl

/-- An address that has been read ends where the text does. -/
theorem splitServer_whole {bind ip : String} {port : UInt32}
    (split : splitServer bind = .ok (some (ip, port))) : Char.ofNat 0 ∉ ip.toList := by
  have ends : Char.ofNat 0 ∉ cString bind := by
    intro member
    have kept := List.mem_takeWhile_imp member
    simp at kept
  rw [splitServer] at split
  split at split
  next => cases split
  next =>
    obtain ⟨⟨first, rest⟩, found, split⟩ := except_bind_eq_ok.mp split
    have inText := mem_of_strtok (undefined_ok found)
    dsimp only at split
    by_cases short : strlen first < 7
    · rw [if_pos short] at split
      obtain ⟨⟨second, rest'⟩, foundSecond, split⟩ := except_bind_eq_ok.mp split
      obtain ⟨⟨digits, rest''⟩, _, split⟩ := except_bind_eq_ok.mp split
      obtain ⟨n, _, split⟩ := except_bind_eq_ok.mp split
      cases split
      have inRest := mem_of_strtok (undefined_ok foundSecond)
      simp only [String.toList_append, String.toList_ofList, List.mem_append, not_or]
      refine ⟨⟨fun member => ends (inText.1 _ member), by decide⟩, fun member => ?_⟩
      exact ends (inText.2 _ (inRest.1 _ member))
    · rw [if_neg short] at split
      obtain ⟨⟨digits, rest'⟩, _, split⟩ := except_bind_eq_ok.mp split
      obtain ⟨n, _, split⟩ := except_bind_eq_ok.mp split
      cases split
      rw [String.toList_ofList]
      exact fun member => ends (inText.1 _ member)

/-! ### The two kinds of names -/

/-- A short host is taken for a scheme, its port for the host, and there is no port left. -/
theorem splitServer_short {name : String} {port : UInt32} (token : Token name)
    (short : strlen name.toList < 7) : splitServer (joined name port) = .error .undefined := by
  rw [splitServer, joined_toList, if_neg token.head, cString_joined token.2.2]
  simp only [undefined, Option.elim, bind, Except.bind, token.strtok, strtok_port, if_pos short]
  rfl

/-- A long scheme is taken for the host. -/
theorem splitServer_long {scheme rest ip : String} {port port' : UInt32} (token : Token scheme)
    (whole : Char.ofNat 0 ∉ (scheme ++ ":" ++ rest).toList) (long : 7 ≤ strlen scheme.toList)
    (split : splitServer (joined (scheme ++ ":" ++ rest) port) = .ok (some (ip, port'))) :
    ip = scheme := by
  have text : (scheme ++ ":" ++ rest).toList = scheme.toList ++ ':' :: rest.toList := by
    rw [String.toList_append, String.toList_append, List.append_assoc]
    rfl
  rw [splitServer, joined_toList, cString_joined whole, text, List.append_assoc, List.cons_append,
    if_neg token.head, token.strtok] at split
  obtain ⟨⟨first, rest⟩, found, split⟩ := except_bind_eq_ok.mp split
  cases found
  dsimp only at split
  rw [if_neg (Nat.not_lt.mpr long)] at split
  obtain ⟨_, _, split⟩ := except_bind_eq_ok.mp split
  obtain ⟨_, _, split⟩ := except_bind_eq_ok.mp split
  cases split
  rw [String.ofList_toList]

theorem firstPart_host {name : String} (plain : ':' ∉ name.toList) : firstPart name = name.toList := by
  rw [firstPart, List.takeWhile_eq_self_iff]
  intro c member
  simp only [ne_eq, decide_not, Bool.not_eq_true', decide_eq_false_iff_not]
  rintro rfl
  exact plain member

theorem firstPart_url {scheme rest : String} (noColon : ':' ∉ scheme.toList) :
    firstPart (scheme ++ ":" ++ rest) = scheme.toList := by
  have text : (scheme ++ ":" ++ rest).toList = scheme.toList ++ ':' :: rest.toList := by
    rw [String.toList_append, String.toList_append, List.append_assoc]
    rfl
  rw [firstPart, text]
  exact (takeWhile_token noColon rest.toList).1

/-- The address and the port are read back exactly if the name has no null character, and what
stands before its first colon is shorter than an IPv4 address where it is a scheme and only there. -/
theorem server_address_round_trip_iff (ip : String) (port : UInt32) (name : ServerName ip)
    (fits : port.toNat ≤ 65535) :
    RoundTrips ip port ↔
      Char.ofNat 0 ∉ ip.toList ∧ (strlen (firstPart ip) < 7 ↔ ':' ∈ ip.toList) := by
  have small : port.toNat < 2 ^ 31 := by omega
  rw [roundTrips_iff]
  by_cases whole : Char.ofNat 0 ∉ ip.toList
  · cases name with
    | host filled plain =>
      have token : Token ip := ⟨filled, plain, whole⟩
      rw [firstPart_host plain]
      by_cases short : strlen ip.toList < 7
      · simp [splitServer_short token short, short, plain]
      · simp [splitServer_token token (Nat.not_lt.mp short) small, short, plain, whole]
    | @url scheme host filled noColon plain =>
      have text : scheme ++ "://" ++ host = scheme ++ ":" ++ ("//" ++ host) := by
        rw [← String.toList_inj]
        simp
      rw [text] at whole ⊢
      rw [firstPart_url noColon]
      have colon : ':' ∈ (scheme ++ ":" ++ ("//" ++ host)).toList := by simp
      have first : Token scheme := ⟨filled, noColon, fun member => whole (by simp [member])⟩
      by_cases short : strlen scheme.toList < 7
      · have second : Token ("//" ++ host) := by
          refine ⟨?_, by simpa using plain, fun member => whole ?_⟩
          · intro empty
            have length := congrArg String.length empty
            simp at length
          · rw [String.toList_append, List.mem_append]
            exact .inr member
        simp only [splitServer_scheme first second short small, short, colon, whole, not_false_eq_true,
          and_self]
      · have wrong : splitServer (joined (scheme ++ ":" ++ ("//" ++ host)) port) ≠
            .ok (some (scheme ++ ":" ++ ("//" ++ host), port)) := by
          intro split
          have same := splitServer_long first whole (Nat.not_lt.mp short) split
          rw [same] at colon
          exact noColon colon
        simp only [wrong, short, colon, false_iff, not_true, and_false]
  · -- What is read ends before the null character.
    constructor
    · intro split
      exact absurd (splitServer_whole split) whole
    · exact fun condition => absurd condition.1 whole

/-- A broker behind a scheme. -/
theorem server_address_tcp : RoundTrips "tcp://broker" 1883 := by
  have name : ServerName "tcp://broker" := by
    have parts : "tcp://broker" = "tcp" ++ "://" ++ "broker" := by decide
    rw [parts]
    exact .url (by decide) (by decide) (by decide)
  rw [server_address_round_trip_iff "tcp://broker" 1883 name (by decide)]
  decide

/-- A broker with a name of six letters: the port is read as a part of the name. -/
theorem short_host_undefined :
    ServerName "broker" ∧ splitServer (joined "broker" 1883) = .error .undefined ∧
      ¬ RoundTrips "broker" 1883 := by
  have token : Token "broker" := by decide
  have stopped : splitServer (joined "broker" 1883) = .error .undefined :=
    splitServer_short token (by decide)
  refine ⟨.host (by decide) (by decide), stopped, fun trips => ?_⟩
  rw [trips.cgi] at stopped
  cases stopped

end LorawanFeeds.Cgi
