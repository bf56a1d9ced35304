import Mathlib.Data.Bool.AllAny
import LorawanFeeds.Lib.JsonWriter
import LorawanFeeds.Cgi.Answers

/-!
# The text of a response

A response is put together by hand: the message of a result is the format of `vsnprintf`, and what
comes of it stands between two quotes as it is. Here the text is compared with the grammar of JSON.
-/
namespace LorawanFeeds.Cgi

open Lib Bridge JsonGrammar

/-! ### The layout -/

def headerName : Bytes := [104, 101, 97, 100, 101, 114]
def codeName : Bytes := [99, 111, 100, 101]
def messageName : Bytes := [109, 101, 115, 115, 97, 103, 101]
def bodyName : Bytes := [98, 111, 100, 121]

/-- The message and what follows it. -/
def messageText (buf rest : Bytes) : Bytes :=
  34 :: (messageName ++ 34 :: 58 :: 34 :: (buf ++ 34 :: rest))

/-- A response behind the headers of HTTP. -/
def answerText (digits buf rest : Bytes) : Bytes :=
  123 :: 34 :: (headerName ++ 34 :: 58 :: 123 :: 34 :: (codeName ++ 34 :: 58 ::
    (digits ++ 44 :: messageText buf rest)))

def httpHeaders (cmdLine : Bool) : Bytes :=
  textBytes (if cmdLine then "" else "Status: 200 OK\r\nContent-Type: application/json\r\n\r\n")

theorem textBytes_ofList (text : List Char) : textBytes (String.ofList text) = bytes text := by
  rw [textBytes, Utf8.toUTF8_toList, String.toList_ofList]
  rfl

theorem textBytes_eq_utf8 (s : String) : textBytes s = JsonCodec.utf8 s := by
  rw [utf8_eq_bytes, textBytes, Utf8.toUTF8_toList]
  rfl

theorem commonContentStdout_eq (cmdLine : Bool) {code : Nat} {digits : Bytes}
    (decimal : textBytes (toString code) = digits) (buf rest : Bytes) :
    commonContentStdout cmdLine code buf ++ rest =
      httpHeaders cmdLine ++ answerText digits buf rest := by
  have front : textBytes "\x7b\"header\":\x7b\"code\":" =
      123 :: 34 :: (headerName ++ 34 :: 58 :: 123 :: 34 :: (codeName ++ [34, 58])) :=
    textBytes_ofList _
  have middle : textBytes ",\"message\":\"" = 44 :: 34 :: (messageName ++ [34, 58, 34]) :=
    textBytes_ofList _
  have quote : textBytes "\"" = [34] := textBytes_ofList _
  rw [commonContentStdout, textBytes_append, textBytes_append, front, middle, quote, decimal,
    httpHeaders]
  simp [answerText, messageText]

/-! ### Texts that are read as they were meant -/

theorem header_plain : ∀ b ∈ headerName, Plain b := List.all_iff_forall_prop.mp (by decide)

theorem code_plain : ∀ b ∈ codeName, Plain b := List.all_iff_forall_prop.mp (by decide)

theorem message_plain : ∀ b ∈ messageName, Plain b := List.all_iff_forall_prop.mp (by decide)

theorem header_utf8 : JsonCodec.ofUtf8 headerName = some "header" :=
  JsonCodec.ofUtf8_utf8 "header"

theorem code_utf8 : JsonCodec.ofUtf8 codeName = some "code" := JsonCodec.ofUtf8_utf8 "code"

theorem message_utf8 : JsonCodec.ofUtf8 messageName = some "message" :=
  JsonCodec.ofUtf8_utf8 "message"

/-- The object of the header, up to its closing brace. -/
theorem parses_header {digits buf : Bytes} {code : Json} {message : String}
    (number : Number digits code) (plain : ∀ b ∈ buf, Plain b)
    (valid : JsonCodec.ofUtf8 buf = some message) (rest : Bytes) :
    Parses (123 :: 34 :: (codeName ++ 34 :: 58 :: (digits ++ 44 :: messageText buf (125 :: rest))))
      (.value (.obj (JsonCodec.addMember "code" code [("message", .str message)]))) rest := by
  have text : Parses (34 :: (buf ++ 34 :: 125 :: rest)) (.value (.str message)) (125 :: rest) :=
    .string (stringAt_plain plain valid _)
  refine .object (parses_nextMember code_plain code_utf8 (.number number) (.nil _) ?_)
  exact parses_lastMember message_plain message_utf8 text (.nil _)

/-- The text is one object with this code and this message. -/
def Conveys (text : Bytes) (code : UInt64) (message : Bytes) : Prop :=
  ∃ fields s, Document text (.obj fields) ∧
    (Json.obj fields).lookup ["header", "code"] = some (.uint code) ∧
    (Json.obj fields).lookup ["header", "message"] = some (.str s) ∧ textBytes s = message

/-- A member that is not there twice. -/
theorem find?_addMember_self {key : String} {j : Json} {fields : List (String × Json)}
    (single : OrderedMap.find? key fields = none) :
    OrderedMap.find? key (JsonCodec.addMember key j fields) = some j := by
  rw [JsonCodec.addMember, single, if_neg (by simp), OrderedMap.find?_set_self]

theorem lookup_header {code : Json} {message : String} {later : List (String × Json)}
    (single : OrderedMap.find? "header" later = none) :
    let j := Json.obj (JsonCodec.addMember "header"
      (.obj (JsonCodec.addMember "code" code [("message", .str message)])) later)
    j.lookup ["header", "code"] = some code ∧
      j.lookup ["header", "message"] = some (.str message) := by
  have none : OrderedMap.find? "code" [("message", Json.str message)] = none := by
    simp [OrderedMap.find?]
  have first : OrderedMap.find? "code" (JsonCodec.addMember "code" code
      [("message", .str message)]) = some code := find?_addMember_self none
  have second : OrderedMap.find? "message" (JsonCodec.addMember "code" code
      [("message", .str message)]) = some (.str message) := by
    rw [JsonCodec.addMember, none, if_neg (by simp), OrderedMap.find?_set_of_ne (by decide)]
    simp [OrderedMap.find?]
  simp [Json.lookup, Json.get?, Json.members, find?_addMember_self single, first, second]

/-- A response with a body, or without one. -/
theorem conveys_answer {digits : Bytes} {code : UInt64} {message : String} {tail : Bytes}
    (number : Number digits (.uint code)) (plain : ∀ b ∈ textBytes message, Plain b)
    (tailed : tail = [125, 10] ∨
      ∃ more v, tail = 44 :: more ∧ Parses more (.fields [("body", v)]) [10]) :
    Conveys (answerText digits (textBytes message) (125 :: tail)) code (textBytes message) := by
  have valid : JsonCodec.ofUtf8 (textBytes message) = some message := by
    rw [textBytes_eq_utf8]
    exact JsonCodec.ofUtf8_utf8 message
  have header := parses_header number plain valid tail
  have line : Spaces [10] [] := .cons (by decide) (.nil _)
  have whole : ∃ later, OrderedMap.find? "header" later = none ∧
      Parses (answerText digits (textBytes message) (125 :: tail)) (.value (.obj
        (JsonCodec.addMember "header" (.obj (JsonCodec.addMember "code" (.uint code)
          [("message", .str message)])) later))) [10] := by
    rcases tailed with rfl | ⟨more, v, rfl, body⟩
    · exact ⟨[], rfl, .object (parses_lastMember header_plain header_utf8 header (.nil _))⟩
    · refine ⟨_, ?_, .object (parses_nextMember header_plain header_utf8 header (.nil _) body)⟩
      simp [OrderedMap.find?]
  obtain ⟨later, single, parses⟩ := whole
  obtain ⟨first, second⟩ := lookup_header single
  exact ⟨_, message, ⟨_, [10], .nil _, parses, line⟩, first, second, rfl⟩

/-! ### Texts that are not -/

/-- The number of the code ends before the comma. -/
theorem code_back {tail back : Bytes} {j : Json}
    (value : Parses (53 :: 48 :: 48 :: 44 :: tail) (.value j) back) {key : String}
    {fields : List (String × Json)} {rest : Bytes} (continues : Continues key j fields back rest) :
    back = 44 :: tail := by
  generalize whole : 53 :: 48 :: 48 :: 44 :: tail = text at value
  cases value with
  | @number token _ _ number =>
    obtain ⟨some, each⟩ := number.token
    -- A part of the digits would leave one more digit.
    have solid {b : UInt8} {more : Bytes} (other : ¬ isSpace b) (comma : b ≠ 44) (brace : b ≠ 125)
        (same : back = b :: more) : False := by
      subst same
      rcases continues with ⟨close, _⟩ | ⟨_, _, next, _, _⟩
      · cases close.eq_of_solid other
        exact brace rfl
      · cases next.eq_of_solid other
        exact comma rfl
    match token, whole with
    | [], _ => exact absurd rfl some
    | [_], same =>
      cases same
      exact (solid (by decide) (by decide) (by decide) rfl).elim
    | [_, _], same =>
      cases same
      exact (solid (by decide) (by decide) (by decide) rfl).elim
    | [_, _, _], same =>
      cases same
      rfl
    | _ :: _ :: _ :: _ :: _, same =>
      cases same
      exact absurd (each 44 (by simp)) (by decide)
  | _ => cases whole

/-- What is left behind the message of a response that is read to its end. -/
theorem end_of_answer {back inner rest : Bytes} {key outerKey : String} {j outer : Json}
    {fields outerFields : List (String × Json)} (suffix : back <:+ [125, 125, 10])
    (first : Continues key j fields back inner)
    (second : Continues outerKey outer outerFields inner rest) : back = [125, 125, 10] := by
  have shorter := first.length_lt
  have shortest := second.length_lt
  simp only [List.suffix_cons_iff, List.suffix_nil] at suffix
  rcases suffix with whole | rfl | rfl | rfl
  · exact whole
  · -- One brace closes the header, and nothing is left for the object around it.
    rcases first with ⟨close, _⟩ | ⟨_, _, comma, _, _⟩
    · cases close.eq_of_solid (by decide)
      rcases second with ⟨close, _⟩ | ⟨_, _, comma, _, _⟩
      · have brace := close.suffix
        simp [List.suffix_cons_iff] at brace
      · have byte := comma.suffix
        simp [List.suffix_cons_iff] at byte
    · cases comma.eq_of_solid (by decide)
  · simp only [List.length_cons, List.length_nil] at shorter
    omega
  · simp at shorter

/-- The message that is found in the text of a response is the string that stands first: any other
would have too little room behind it. -/
theorem message_of_document {buf rest : Bytes} {j : Json} {message : String}
    (document : Document (answerText [53, 48, 48] buf rest) j)
    (found : j.lookup ["header", "message"] = some (.str message)) :
    ∃ s back inner last later outer fields, StringAt (buf ++ 34 :: rest) s back ∧
      Continues "message" (.str s) later back inner ∧
      Continues "header" outer fields inner last ∧
      (message = s ∨ (textBytes message).length + 11 < back.length) := by
  obtain ⟨front, last, before, value, _⟩ := document
  cases before.eq_of_solid (by decide)
  -- The names of the header are read one after the other.
  rcases value.of_brace with ⟨_, close⟩ | ⟨outerFields, rfl, outside⟩
  · cases close.eq_of_solid (by decide)
  obtain ⟨key, header, inner, named, value, outerRest⟩ := outside.of_member header_plain (by decide)
  cases header_utf8.symm.trans named
  rcases value.of_brace with ⟨_, close⟩ | ⟨fields, rfl, inside⟩
  · cases close.eq_of_solid (by decide)
  obtain ⟨key, code, back, named, value, codeRest⟩ := inside.of_member code_plain (by decide)
  cases code_utf8.symm.trans named
  cases code_back value codeRest
  rcases codeRest with ⟨close, _⟩ | ⟨more, later, comma, next, rfl⟩
  · cases close.eq_of_solid (by decide)
  cases comma.eq_of_solid (by decide)
  obtain ⟨key, text, back, named, value, messageRest⟩ := next.of_member message_plain (by decide)
  cases message_utf8.symm.trans named
  obtain ⟨s, rfl, string⟩ := value.of_quote
  refine ⟨s, back, inner, last, later, _, outerFields, string, messageRest, outerRest, ?_⟩
  have shorter := messageRest.length_lt
  have name : (JsonCodec.utf8 "message").length = 7 := by decide
  rw [textBytes_eq_utf8]
  obtain ⟨header, here, there⟩ := Option.bind_eq_some_iff.mp found
  rcases outerRest.found here with ⟨_, rfl⟩ | later
  · obtain ⟨text, here, there⟩ := Option.bind_eq_some_iff.mp there
    rcases find?_addMember here with old | ⟨other, _⟩
    · rcases messageRest.found old with ⟨_, rfl⟩ | later
      · cases there
        exact .inl rfl
      · have few := later [] message there
        simp only [pathLength, List.map_cons, List.sum_cons, name] at few
        omega
    · exact absurd other (by decide)
  · have few := later ["message"] message there
    simp only [pathLength, List.map_cons, List.sum_cons, name] at few
    omega

/-- A message that is no shorter than what has been printed of it has been printed as it is. -/
theorem plain_of_document {buf : Bytes} {j : Json} {message : String}
    (document : Document (answerText [53, 48, 48] buf [125, 125, 10]) j)
    (found : j.lookup ["header", "message"] = some (.str message))
    (long : buf.length ≤ (textBytes message).length) :
    textBytes message = buf ∧ ∀ b ∈ buf, Plain b := by
  obtain ⟨s, back, inner, last, later, outer, fields, ⟨body, read, valid⟩, first, second, place⟩ :=
    message_of_document document found
  have room := read.length_le
  simp only [List.length_append, List.length_cons, List.length_nil] at room
  have same : message = s := place.resolve_right (by omega)
  subst same
  rw [textBytes_eq_utf8, utf8_of_ofUtf8 valid] at long ⊢
  have short : back <:+ [125, 125, 10] := by
    have all : [125, 125, 10] <:+ buf ++ 34 :: [125, 125, 10] := ⟨buf ++ [34], by simp⟩
    refine List.suffix_of_suffix_length_le read.suffix all ?_
    simp only [List.length_cons, List.length_nil]
    omega
  cases end_of_answer short first second
  rcases read.length with ⟨text, plain⟩ | strict
  · cases List.append_cancel_right text
    exact ⟨rfl, plain⟩
  · simp only [List.length_append, List.length_cons, List.length_nil] at strict
    omega

/-- A plain message is found. -/
theorem eq_of_document {buf : Bytes} {j : Json} {message : String}
    (document : Document (answerText [53, 48, 48] buf [125, 125, 10]) j)
    (found : j.lookup ["header", "message"] = some (.str message)) (plain : ∀ b ∈ buf, Plain b) :
    textBytes message = buf := by
  obtain ⟨s, back, _, _, _, _, _, ⟨body, read, valid⟩, _, _, place⟩ :=
    message_of_document document found
  obtain ⟨rfl, rfl⟩ := read.eq_of_plain plain
  have same : message = s := place.resolve_right (by simp)
  rw [same, textBytes_eq_utf8, utf8_of_ofUtf8 valid]

/-! ### Formats -/

/-- A text that can stand in a response as it is: in the format, in the buffer and between the
quotes. -/
structure Embeddable (message : Bytes) : Prop where
  unicode : ∃ s, textBytes s = message
  occupied : message ≠ []
  fits : message.length ≤ 1023
  plain : ∀ b ∈ message, Plain b ∧ b ≠ 37

theorem conversions_length {message text : Bytes} (printed : conversions message = some text) :
    text.length ≤ message.length ∧ (37 ∈ message → text.length < message.length) := by
  fun_induction conversions message generalizing text with
  | case1 =>
    cases printed
    exact ⟨Nat.le_refl _, fun member => by cases member⟩
  | case2 rest ih =>
    obtain ⟨tail, after, rfl⟩ := Option.map_eq_some_iff.mp printed
    have shorter := (ih after).1
    simp only [List.length_cons]
    exact ⟨by omega, fun _ => by omega⟩
  | case3 => cases printed
  | case4 c rest noEscape noConversion ih =>
    obtain ⟨tail, after, rfl⟩ := Option.map_eq_some_iff.mp printed
    obtain ⟨shorter, strict⟩ := ih after
    simp only [List.length_cons]
    refine ⟨by omega, fun member => ?_⟩
    rcases List.mem_cons.mp member with same | later
    · exact absurd same.symm noConversion
    · have less := strict later
      omega

theorem vsnprintf_length {message buf : Bytes} (printed : vsnprintf message = some buf) :
    buf.length ≤ message.length ∧ buf.length ≤ 1023 ∧
      (37 ∈ message → buf.length < message.length) := by
  obtain ⟨text, converted, rfl⟩ := Option.map_eq_some_iff.mp printed
  have part := List.takeWhile_sublist (fun b : UInt8 => decide (b ≠ 0)) (l := message)
  have cut := part.length_le
  obtain ⟨shorter, strict⟩ := conversions_length converted
  have fits := List.length_take_le 1023 text
  have taken := List.length_take_le' 1023 text
  refine ⟨by omega, by omega, fun member => ?_⟩
  by_cases whole : message.takeWhile (· ≠ 0) = message
  · rw [whole] at strict
    have less := strict member
    omega
  · have less := Nat.lt_of_le_of_ne cut fun same => whole (part.eq_of_length same)
    omega

theorem Embeddable.vsnprintf_eq {message : Bytes} (embeddable : Embeddable message) :
    vsnprintf message = Option.some message := by
  have whole : message.takeWhile (· ≠ 0) = message := by
    rw [List.takeWhile_eq_self_iff]
    intro b member
    refine decide_eq_true fun zero => ?_
    subst zero
    exact absurd (embeddable.plain 0 member).1.1 (by decide)
  have free : (37 : UInt8) ∉ message := fun member => (embeddable.plain 37 member).2 rfl
  have copied := conversions_append free []
  rw [List.append_nil] at copied
  rw [vsnprintf, whole, copied, conversions, Option.map_some, Option.map_some, List.append_nil,
    List.take_of_length_le embeddable.fits]

/-- The characters that stand for themselves in a format and between quotes. -/
def EchoPlain (s : String) : Prop :=
  ∀ c ∈ s.toList, 32 ≤ c.toNat ∧ c ≠ '"' ∧ c ≠ '\\' ∧ c ≠ '%'

instance (s : String) : Decidable (EchoPlain s) := List.decidableBAll _ _

theorem plain_textBytes {s : String} (plain : EchoPlain s) :
    ∀ b ∈ textBytes s, Plain b ∧ b ≠ 37 := by
  intro b member
  rw [textBytes, Utf8.toUTF8_toList, List.mem_flatMap] at member
  obtain ⟨c, inside, encoded⟩ := member
  obtain ⟨printed, noQuote, noBackslash, noPercent⟩ := plain c inside
  refine ⟨plain_of_mem_utf8EncodeChar printed noQuote noBackslash b encoded, ?_⟩
  rintro rfl
  exact noPercent (Char.toNat_inj.mp (Utf8.toNat_eq_of_mem_utf8EncodeChar (by decide) encoded))

/-- A literal text. -/
theorem echoPlain_ofList {text : List Char}
    (plain : (text.all fun c => decide (32 ≤ c.toNat) && c != '"' && c != '\\' && c != '%') = true) :
    EchoPlain (String.ofList text) := by
  intro c member
  rw [String.toList_ofList] at member
  have here := List.all_eq_true.mp plain c member
  simp only [Bool.and_eq_true, decide_eq_true_eq, bne_iff_ne] at here
  exact ⟨here.1.1.1, here.1.1.2, here.1.2, here.2⟩

theorem embeddable_ofList {text : List Char}
    (plain : (text.all fun c => decide (32 ≤ c.toNat) && c != '"' && c != '\\' && c != '%') = true)
    (fits : 0 < text.length ∧ text.length * 4 ≤ 1023) :
    Embeddable (textBytes (String.ofList text)) := by
  refine ⟨⟨_, rfl⟩, ?_, ?_, plain_textBytes (echoPlain_ofList plain)⟩
  · refine textBytes_ne_nil fun empty => ?_
    rw [String.ofList_eq_empty_iff] at empty
    simp [empty] at fits
  · have short := bytes_length_le text
    rw [textBytes_ofList]
    omega

/-! ### Results -/

/-- The response to a result is one JSON object with the code of the result, and with the text of
success or `rsp` as its message. -/
def WellAnswered (env : Environment) (cmdLine : Bool) (handler : Handler) (cmd : String)
    (post : Bytes) (w : World) (rc : Int) (rsp : Bytes) (w' : World) : Prop :=
  ∃ text, mainRun env cmdLine handler cmd post (Process.start w) =
      (.ok (), ⟨w', [httpHeaders cmdLine ++ text]⟩) ∧
    if rc = 0 then Conveys text 200 (textBytes handler.message) else Conveys text 500 rsp

theorem response_eq {cmdLine : Bool} {message buf : Bytes} (occupied : message ≠ [])
    (printed : vsnprintf message = some buf) (p : Process) :
    response cmdLine 500 message p = (.ok (), { p with stdout := p.stdout ++
      [httpHeaders cmdLine ++ answerText [53, 48, 48] buf [125, 125, 10]] }) := by
  have braces : textBytes "\x7d\x7d\n" = [125, 125, 10] := textBytes_ofList _
  have digits : textBytes (toString 500) = [53, 48, 48] := textBytes_ofList _
  rw [response, if_neg occupied, ← commonContentStdout_eq cmdLine digits, ← braces]
  refine Proc.bind_eq_ok.mpr ⟨buf, p, ?_, rfl⟩
  rw [formatted, printed]
  rfl

theorem mainRun_eq {env : Environment} {handler : Handler} {cmd : String} {post : Bytes}
    {w w' : World} {rc : Int} {rsp : Bytes}
    (returned : handler.function env cmd post (Process.start w).world = (.ok (rc, rsp), w'))
    (cmdLine : Bool) :
    mainRun env cmdLine handler cmd post (Process.start w) =
      mainAnswer cmdLine handler rc rsp ⟨w', []⟩ := by
  rw [mainRun, Proc.bind_apply, Proc.onPart, returned]
  rfl

theorem number_500 : Number [53, 48, 48] (.uint 500) :=
  .unsigned ⟨⟨by decide, List.all_iff_forall_prop.mp (by decide)⟩, by decide⟩ (by decide)

theorem number_200 : Number [50, 48, 48] (.uint 200) :=
  .unsigned ⟨⟨by decide, List.all_iff_forall_prop.mp (by decide)⟩, by decide⟩ (by decide)

/-- The text of a failure is conveyed exactly if it can stand there as it is. -/
theorem failure_conveyed_iff (cmdLine : Bool) (handler : Handler) {rc : Int} (failure : rc ≠ 0)
    (rsp : Bytes) (w : World) :
    (∃ text, mainAnswer cmdLine handler rc rsp ⟨w, []⟩ =
        (.ok (), ⟨w, [httpHeaders cmdLine ++ text]⟩) ∧ Conveys text 500 rsp) ↔
      Embeddable rsp := by
  rw [mainAnswer, if_neg failure]
  by_cases empty : rsp = []
  · subst empty
    rw [if_pos rfl]
    refine iff_of_false ?_ fun embeddable => embeddable.occupied rfl
    rintro ⟨text, run, fields, s, document, _, found, none⟩
    have fallback : Embeddable (textBytes "cgi-cpp handler failed") := embeddable_ofList rfl (by decide)
    rw [response_eq fallback.occupied fallback.vsnprintf_eq] at run
    cases List.append_cancel_left (List.cons.inj (Process.mk.inj (Prod.mk.inj run).2).2).1
    have plain := fun b member => (fallback.plain b member).1
    rw [eq_of_document document found plain] at none
    exact fallback.occupied none
  · rw [if_neg empty]
    constructor
    · rintro ⟨text, run, fields, s, document, _, found, same⟩
      cases printed : vsnprintf rsp with
      | none =>
        have safe := ((response_ends empty cmdLine 500 ⟨w, []⟩).of_eq_ok run).1
        rw [FormatSafe, printed] at safe
        cases safe
      | some buf =>
        rw [response_eq empty printed] at run
        cases List.append_cancel_left (List.cons.inj (Process.mk.inj (Prod.mk.inj run).2).2).1
        obtain ⟨short, fits, free⟩ := vsnprintf_length printed
        rw [← same] at short
        obtain ⟨whole, plain⟩ := plain_of_document document found short
        rw [same] at whole
        subst whole
        refine ⟨⟨s, same⟩, empty, fits, fun b member => ⟨plain b member, ?_⟩⟩
        rintro rfl
        exact Nat.lt_irrefl _ (free member)
    · intro embeddable
      obtain ⟨s, rfl⟩ := embeddable.unicode
      refine ⟨_, response_eq empty embeddable.vsnprintf_eq _, ?_⟩
      exact conveys_answer number_500 (fun b member => (embeddable.plain b member).1) (.inl rfl)

end LorawanFeeds.Cgi
