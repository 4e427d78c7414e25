import Subselect.Payload
import Subselect.Proofs.Continuation

/-! The forms of a request. A query may stand as it is, as a JSON string, or as a member of a JSON
object with other members around it; every form carries the same query. -/
namespace Subselect

open Text (trim)

namespace Json

/-- A JSON string that stands for a text, whichever of its characters are escaped. -/
def Encodes (e s : Text) : Prop :=
  ∃ content, e = '"' :: content ∧ readString content = .ok (s, [])

theorem encodes_quote (s : Text) : Encodes (quote s) s :=
  ⟨_, rfl, readString_escape s []⟩

theorem Encodes.exists_cons (h : Encodes e s) : ∃ content, e = '"' :: content ∧
    ∀ t, Stops t → readString (content ++ t) = .ok (s, t) := by
  obtain ⟨content, rfl, read⟩ := h
  exact ⟨content, rfl, streams_readString content s [] read⟩

theorem Encodes.readValue (h : Encodes e s) (depth : Nat) (stops : Stops t) :
    readValue depth (e ++ t) = .ok (.string s, t) := by
  obtain ⟨content, rfl, read⟩ := h.exists_cons
  rw [List.cons_append, readValue_string, read t stops]
  rfl

theorem Encodes.parse (h : Encodes e s) : parse e = .ok (.string s) := by
  have whole := h.readValue depthLimit stops_nil
  rw [List.append_nil] at whole
  rw [Json.parse, read, whole]
  rfl

/-! The members of the outermost object. -/

def readMember : Text → Reads (Text × Json) := readEntry (readValue (depthLimit - 1))

/-- A text that is read as a member, with white space around it. -/
def Member (m : Text) (entry : Text × Json) : Prop :=
  ∃ w, readMember (skipSpace m) = .ok (entry, w) ∧ Gap w

theorem Member.gives (h : Member m entry) : Gives readMember m (some entry) := by
  obtain ⟨w, read, gap⟩ := h
  have goes := streams_readEntry (streams_readValue _) _ _ _ read
  refine ⟨?_, w, gap, fun more stops => toOption_eq_some_iff.mpr (goes more stops)⟩
  unfold readMember readEntry at read
  split at read
  · next u eq => exact ⟨'"', u, eq, by decide⟩
  · cases read

/-- An entry in compact text is a member. -/
theorem Exact.member (exact : Exact (depthLimit - 1) value) (key : Text) :
    Member (compactEntry (key, value)) (key, value) := by
  have known := toOption_eq_some_iff.mpr (readValue_compact exact stops_nil)
  have read := readEntry_quote (x := some value) key gap_nil known
  rw [List.append_nil] at read
  refine ⟨[], ?_, gap_nil⟩
  rw [compactEntry_eq, ((opens_quote key).append _).skipSpace]
  exact toOption_eq_some_iff.mp read

/-- A key and the text of its value with white space around both. -/
def Pair (key value m : Text) : Prop :=
  ∃ a b c d, m = a ++ (key ++ (b ++ ':' :: (c ++ (value ++ d)))) ∧ Gap a ∧ Gap b ∧ Gap c ∧ Gap d

theorem Pair.member (pair : Pair k e m) (key : Encodes k name) (value : Encodes e s) :
    Member m (name, .string s) := by
  obtain ⟨a, b, c, d, rfl, gapA, gapB, gapC, gapD⟩ := pair
  obtain ⟨content, rfl, read⟩ := key.exists_cons
  refine ⟨d, ?_, gapD⟩
  have point : Stops (':' :: (c ++ (e ++ d))) := by
    rintro _ ⟨⟩
    decide
  have colon : readColon (b ++ ':' :: (c ++ (e ++ d))) = .ok ((), c ++ (e ++ d)) := by
    rw [readColon, gapB.skipSpace]
    rfl
  have value : readValue (depthLimit - 1) (c ++ (e ++ d)) = .ok (.string s, d) := by
    have stops : Stops d := by
      rw [← List.append_nil d]
      exact gapD.stops stops_nil
    rw [← readValue_skipSpace, gapC.skipSpace, readValue_skipSpace]
    exact value.readValue _ stops
  have quoted (t : Text) : skipSpace ('"' :: t) = '"' :: t := rfl
  rw [gapA.skipSpace, List.cons_append, quoted]
  simp [readMember, readEntry, read _ (gapB.stops point), colon, value, bind, Except.bind, pure,
    Except.pure]

/-- A JSON object that holds `e` under the key `query`, with members under other keys before and
behind it. -/
inductive Carries (e : Text) : Text → Prop where
  | intro (front : List.Forall₂ Member before entries) (back : List.Forall₂ Member after entries')
      (others : ∀ entry ∈ entries ++ entries', entry.1 ≠ "query".toList)
      (key : Encodes k "query".toList) (pair : Pair k e m) (start : Gap v) (finish : Gap w) :
      Carries e (v ++ '\x7b' :: (Text.join [','] (before ++ m :: after) ++ '\x7d' :: w))

theorem parse_object (start : Gap v) (finish : Gap w)
    (members : List.Forall₂ (fun m entry => Gives readMember m (some entry)) ms entries) :
    parse (v ++ '\x7b' :: (Text.join [','] ms ++ '\x7d' :: w)) = .ok (.object entries) := by
  have body : readBody '\x7d' .endInObject .expectedCommaOrBrace readMember
      (Text.join [','] ms ++ '\x7d' :: w) = .ok (entries, w) := by
    have read := readBody_join .endInObject .expectedCommaOrBrace (.inr rfl)
      (List.forall₂_map_right_iff.mpr members) gap_nil w
    rw [mapM_id_eq_some_iff.mpr rfl] at read
    exact toOption_eq_some_iff.mp read
  have ended : readEnd w = .ok () := by
    have none := finish.skipSpace []
    rw [List.append_nil] at none
    rw [readEnd, none]
    rfl
  have whole : read (v ++ '\x7b' :: (Text.join [','] ms ++ '\x7d' :: w)) =
      .ok (.object entries, w) := by
    have deeper : depthLimit = depthLimit - 1 + 1 := rfl
    rw [read, ← readValue_skipSpace, start.skipSpace, readValue_skipSpace, deeper,
      readValue_brace, ← readMember, body]
    rfl
  rw [parse, whole]
  simp only [bind, Except.bind, ended]
  rfl

end Json

namespace Payload

open Json

theorem parse_encoded (encoded : Encodes e s) : parse e = .raw s := by
  rw [parse, encoded.parse]
  rfl

/-- The key is found among the others, wherever it is. -/
theorem parse_carried (carried : Carries e t) (encoded : Encodes e s) :
    parse t = .object (some s) := by
  cases carried with
  | @intro before entries after entries' k m v w front back others key pair start finish =>
    have members := List.rel_append (front.imp fun _ _ => Member.gives)
      (.cons (pair.member key encoded).gives (back.imp fun _ _ => Member.gives))
    rw [parse, parse_object start finish members]
    have none : ∀ l ⊆ entries ++ entries', l.filter (·.1 == "query".toList) = [] := by
      intro l inside
      rw [List.filter_eq_nil_iff]
      intro entry member
      simpa using others entry (inside member)
    have front := none entries (List.subset_append_left _ _)
    have back := none entries' (List.subset_append_right _ _)
    simp only [ofJson, List.filter_append, List.filter_cons, front, back, BEq.rfl, if_true,
      List.nil_append, Option.getD]

/-- Neither a JSON string nor an object begins with what the text begins with. -/
def Plain (s : Text) : Prop :=
  ∀ c, (skipSpace s).head? = some c → c ≠ '"' ∧ c ≠ '\x7b'

theorem ofJson_number (known : Json.number negative digits fraction exponent = some value) :
    ofJson value = none := by
  obtain ⟨_, _, rfl, _⟩ | ⟨_, _, rfl, _⟩ := number_cases known <;> rfl

theorem ofJson_readNumber (read : readNumber negative t = .ok (value, rest)) :
    ofJson value = none := by
  obtain ⟨_, _, _, _, _, _, _, _, known⟩ := readNumber_parts read
  exact ofJson_number known

/-- Words, numbers and arrays are no payloads. -/
theorem ofJson_readValue (plain : Plain t) (read : readValue depth t = .ok (value, rest)) :
    ofJson value = none := by
  rw [readValue] at read
  split at read
  · cases read
  next c u eq =>
  obtain ⟨quote, brace⟩ := plain c (by rw [eq]; rfl)
  split at read
  · rw [readIdent_inv read]
    rfl
  split at read
  · rw [readIdent_inv read]
    rfl
  split at read
  · rw [readIdent_inv read]
    rfl
  split at read
  · exact ofJson_readNumber read
  split at read
  · exact ofJson_readNumber read
  split at read
  next bracket =>
    split at read
    · cases read
    · rw [if_pos (bracket.resolve_right brace)] at read
      obtain ⟨_, _, same⟩ := map_inv read
      cases same
      rfl
  next => cases read

theorem parse_plain (plain : Plain s) : parse s = .raw s := by
  rw [parse]
  split
  · next value parsed =>
    obtain ⟨_, read, _⟩ := parse_inv parsed
    rw [ofJson_readValue plain read]
    rfl
  · rfl

/-- All forms carry the same query: a text that no JSON string or object begins with is taken as it
is, and any text can be a JSON string, by itself or in an object. -/
theorem query_forms (s : Text) :
    (Plain s → parse s = .raw s ∧ (parse s).query = trim s) ∧
    Encodes (quote s) s ∧
    (∀ e, Encodes e s → (parse e).query = trim s ∧
      ∀ t, Carries e t → (parse t).query = trim s) := by
  refine ⟨fun plain => ⟨parse_plain plain, ?_⟩, encodes_quote s, fun e encoded => ⟨?_, ?_⟩⟩
  · rw [parse_plain plain]
    rfl
  · rw [parse_encoded encoded]
    rfl
  · intro t carried
    rw [parse_carried carried encoded]
    rfl

/-- `[1, 2]` as a JSON string, and in an object behind another member. -/
theorem query_forms_array :
    Plain " [1, 2]".toList ∧ Encodes "\" [\\u0031, 2]\"".toList " [1, 2]".toList ∧
      Carries "\" [\\u0031, 2]\"".toList
        "\x7b\"a\":[0,null], \"\\u0071uery\" : \" [\\u0031, 2]\"\x7d\n".toList ∧
      (parse " [1, 2]".toList).query = "[1, 2]".toList ∧
      (parse "\" [\\u0031, 2]\"".toList).query = "[1, 2]".toList ∧
      (parse "\x7b\"a\":[0,null], \"\\u0071uery\" : \" [\\u0031, 2]\"\x7d\n".toList).query =
        "[1, 2]".toList := by
  have plain : Plain " [1, 2]".toList := by
    rintro c ⟨⟩
    decide
  have encoded : Encodes "\" [\\u0031, 2]\"".toList " [1, 2]".toList :=
    ⟨_, rfl, by decide +kernel⟩
  have key : Encodes "\"\\u0071uery\"".toList "query".toList := ⟨_, rfl, by decide +kernel⟩
  have others : Exact (depthLimit - 1) (.array [.whole 0, .null]) := by
    apply Exact.array
    rw [List.forall_mem_cons, List.forall_mem_singleton]
    exact ⟨.whole (by decide) (by decide), .null⟩
  have carried : Carries "\" [\\u0031, 2]\"".toList
      "\x7b\"a\":[0,null], \"\\u0071uery\" : \" [\\u0031, 2]\"\x7d\n".toList := by
    have space : Gap [' '] := List.forall_mem_singleton.mpr rfl
    have line : Gap ['\n'] := List.forall_mem_singleton.mpr rfl
    exact .intro (.cons (others.member "a".toList) .nil) .nil (by decide) key
      ⟨[' '], [' '], [' '], [], rfl, space, space, space, gap_nil⟩ gap_nil line
  obtain ⟨bare, _, encodings⟩ := query_forms " [1, 2]".toList
  obtain ⟨string, objects⟩ := encodings _ encoded
  refine ⟨plain, encoded, carried, ?_, ?_, ?_⟩
  · rw [(bare plain).2]
    decide
  · rw [string]
    decide
  · rw [objects _ carried]
    decide

end Payload
end Subselect
