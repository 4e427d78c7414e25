import Mathlib.Data.List.DropRight
import Mathlib.Data.List.Forall2
import Subselect.Proofs.Numerals

/-! The parts of JSON text that are read again: strings, whole numbers, and sequences of items with
white space around them. A sequence is refused if one of its items is. -/
namespace Subselect.Json

open Text (span_append span_seam)

/-! Strings. -/

theorem hexDigit?_hexDigit : ∀ n < 16, Text.hexDigit? (hexDigit n) = some n := by decide

theorem readHex_control (small : n < 32) (t : Text) :
    readHex ('0' :: '0' :: hexDigit (n / 16) :: hexDigit (n % 16) :: t) = .ok (n, t) := by
  have zero : Text.hexDigit? '0' = some 0 := by decide
  have high := hexDigit?_hexDigit (n / 16) (by omega)
  have low := hexDigit?_hexDigit (n % 16) (by omega)
  have whole : ((0 * 16 + 0) * 16 + n / 16) * 16 + n % 16 = n := by omega
  simp only [readHex, zero, high, low, whole]

theorem readUnicode_control (control : c.toNat < 32) (t : Text) :
    readUnicode ('0' :: '0' :: hexDigit (c.toNat / 16) :: hexDigit (c.toNat % 16) :: t) =
      .ok (c, t) := by
  have low : isLowSurrogate c.toNat = false := by simp [isLowSurrogate]; omega
  have high : isHighSurrogate c.toNat = false := by simp [isHighSurrogate]; omega
  simp [readUnicode, readHex_control control, low, high, bind, Except.bind, pure, Except.pure]

/-- The characters that are escaped by a letter or sign of their own. -/
def namedChars : Text := ['"', '\\', '\n', '\r', '\t', '\x08', '\x0c']

theorem escape_other (other : c ∉ namedChars) : escape c =
    if c.toNat < 0x20 then
      ['\\', 'u', '0', '0', hexDigit (c.toNat / 16), hexDigit (c.toNat % 16)]
    else [c] := by
  simp only [namedChars, List.mem_cons, List.not_mem_nil, or_false, not_or] at other
  obtain ⟨quote, backslash, newline, return_, tab, backspace, feed⟩ := other
  simp only [escape, quote, backslash, newline, return_, tab, backspace, feed, if_false]

theorem readStringChar_escape (c : Char) (t : Text) :
    readStringChar (escape c ++ t) = .ok (some c, t) := by
  by_cases named : c ∈ namedChars
  · simp only [namedChars, List.mem_cons, List.not_mem_nil, or_false] at named
    rcases named with rfl | rfl | rfl | rfl | rfl | rfl | rfl <;> rfl
  · rw [escape_other named]
    by_cases control : c.toNat < 0x20
    · have read := readUnicode_control control t
      simp [control, readStringChar, readEscape, read, Except.map]
    · have other : c ≠ '"' ∧ c ≠ '\\' := by
        constructor <;> rintro rfl <;> exact named (by decide)
      simp [control, readStringChar, other]

theorem readString_go (s t : Text) (enough : s.length < fuel) :
    readString.go fuel (s.flatMap escape ++ '"' :: t) = .ok (s, t) := by
  induction s generalizing fuel with
  | nil =>
    cases fuel with
    | zero => cases enough
    | succ fuel => rfl
  | cons c s ih =>
    cases fuel with
    | zero => cases enough
    | succ fuel =>
      rw [List.flatMap_cons, List.append_assoc, readString.go, readStringChar_escape]
      simp only [ih (Nat.lt_of_succ_lt_succ enough), Except.map]

theorem length_le_escape (s : Text) : s.length ≤ (s.flatMap escape).length := by
  induction s with
  | nil => exact Nat.le_refl 0
  | cons c s ih =>
    have some : 1 ≤ (escape c).length := by
      unfold escape
      repeat' split
      all_goals simp
    rw [List.flatMap_cons, List.length_append, List.length_cons]
    omega

/-- A string is read up to its closing quote. -/
theorem readString_escape (s t : Text) :
    readString (s.flatMap escape ++ '"' :: t) = .ok (s, t) := by
  apply readString_go
  have := length_le_escape s
  simp only [List.length_append, List.length_cons]
  omega

/-! White space. -/

/-- Neither white space nor a closing bracket stands in front. -/
def Opens (t : Text) : Prop := ∃ c u, t = c :: u ∧ isSpace c = false ∧ c ≠ ']' ∧ c ≠ '\x7d'

theorem Opens.skipSpace (h : Opens t) : skipSpace t = t := by
  obtain ⟨c, u, rfl, space, _⟩ := h
  exact List.dropWhile_cons_of_neg (by simp [space])

theorem Opens.append (h : Opens s) (t : Text) : Opens (s ++ t) := by
  obtain ⟨c, u, rfl, first⟩ := h
  exact ⟨c, u ++ t, rfl, first⟩

theorem Opens.join (h : Opens t) (more : List Text) : Opens (Text.join [','] (t :: more)) := by
  cases more with
  | nil => exact h
  | cons next more => exact (h.append [',']).append _

theorem join_cons_cons (s t : Text) (more : List Text) (rest : Text) :
    Text.join [','] (s :: t :: more) ++ rest =
      s ++ ',' :: (Text.join [','] (t :: more) ++ rest) := by
  simp [Text.join]

theorem length_le_join (items : List Text) : items.length ≤ (Text.join [','] items).length + 1 := by
  induction items with
  | nil => exact Nat.zero_le _
  | cons t more ih =>
    cases more with
    | nil => exact Nat.le_add_left _ _
    | cons next more =>
      simp only [Text.join, List.length_append, List.length_cons, List.length_nil] at ih ⊢
      omega

theorem skipSpace_append (h : skipSpace t = c :: u) (more : Text) :
    skipSpace (t ++ more) = c :: (u ++ more) := by
  have some : t.dropWhile isSpace ≠ [] := by
    rw [show t.dropWhile isSpace = c :: u from h]
    exact List.cons_ne_nil c u
  have drop := (span_append isSpace t more fun none => absurd none some).2
  rw [skipSpace, drop, show t.dropWhile isSpace = c :: u from h, List.cons_append]

theorem Opens.skipSpace_append (h : Opens (Json.skipSpace t)) (more : Text) :
    Json.skipSpace (t ++ more) = Json.skipSpace t ++ more := by
  obtain ⟨c, u, eq, _⟩ := h
  rw [Json.skipSpace_append eq, eq, List.cons_append]

theorem Opens.skipSpace_join (h : Opens (Json.skipSpace t)) (more : List Text) (rest : Text) :
    Json.skipSpace (Text.join [','] (t :: more) ++ rest) =
      Text.join [','] (Json.skipSpace t :: more) ++ rest := by
  cases more with
  | nil => exact h.skipSpace_append rest
  | cons next more => rw [join_cons_cons, join_cons_cons, h.skipSpace_append]

/-- White space between tokens, which may be missing. -/
def Gap (w : Text) : Prop := ∀ c ∈ w, isSpace c = true

theorem gap_nil : Gap [] := by
  rintro c ⟨⟩

theorem Gap.skipSpace (gap : Gap w) (t : Text) : Json.skipSpace (w ++ t) = Json.skipSpace t := by
  rw [Json.skipSpace, List.dropWhile_append_of_pos gap]
  rfl

theorem Gap.append (first : Gap v) (second : Gap w) : Gap (v ++ w) :=
  List.forall_mem_append.mpr ⟨first, second⟩

theorem Gap.stops (gap : Gap w) (stops : Stops t) : Stops (w ++ t) := by
  cases w with
  | nil => exact stops
  | cons d w =>
    rintro c ⟨⟩
    have space := gap d List.mem_cons_self
    simp only [isSpace, Bool.or_eq_true, beq_iff_eq, or_assoc] at space
    rcases space with rfl | rfl | rfl | rfl <;> decide

theorem skipSpace_skipSpace (t : Text) : skipSpace (skipSpace t) = skipSpace t :=
  List.dropWhile_idempotent isSpace t

theorem readValue_skipSpace (depth : Nat) (t : Text) :
    readValue depth (skipSpace t) = readValue depth t := by
  rw [readValue, readValue, skipSpace_skipSpace]

/-! Sequences of items that are read one by one. -/

/-- The text is an item with white space around it, whatever follows that no number goes on with.
It is refused if there is no item. -/
structure Gives (item : Text → Reads α) (t : Text) (x : Option α) : Prop where
  opens : Opens (skipSpace t)
  reads : ∃ w, Gap w ∧ ∀ more, Stops more →
    (item (skipSpace t ++ more)).toOption = x.map (·, w ++ more)

theorem gives_of_reads {item : Text → Reads α} (gap : Gap w) (opens : Opens t)
    (reads : ∀ more, Stops more → (item (t ++ more)).toOption = x.map (·, more)) :
    Gives item (w ++ t) x := by
  have skip : skipSpace (w ++ t) = t := (gap.skipSpace t).trans opens.skipSpace
  refine ⟨?_, [], gap_nil, ?_⟩
  · rwa [skip]
  · rwa [skip]

section
variable {α : Type} {item : Text → Reads α} {close : Char} {atEnd other : Cause}
  (closes : close = ']' ∨ close = '\x7d')
include closes

theorem skipSpace_close (t : Text) : skipSpace (close :: t) = close :: t := by
  rcases closes with rfl | rfl <;> rfl

theorem Opens.ne_close (h : Opens (c :: t)) : c ≠ close := by
  obtain ⟨_, _, eq, _, bracket, brace⟩ := h
  cases eq
  rcases closes with rfl | rfl
  · exact bracket
  · exact brace

theorem readSequence_last {x : Option α} (here : (item s).toOption = x.map (·, w ++ close :: t))
    (gap : Gap w) : (readSequence.go close atEnd other item (fuel + 1) s).toOption =
      x.map ([·], t) := by
  cases x with
  | none =>
    obtain ⟨fault, here⟩ := toOption_eq_none_iff.mp here
    simp [readSequence.go, here, Except.toOption]
  | some x =>
    have here := toOption_eq_some_iff.mp here
    simp [readSequence.go, here, gap.skipSpace, skipSpace_close closes, Except.toOption]

theorem readSequence_more {x : Option α} (here : (item s).toOption = x.map (·, w ++ ',' :: t))
    (gap : Gap w) (opens : Opens (skipSpace t)) :
    (readSequence.go close atEnd other item (fuel + 1) s).toOption =
      x.bind fun x => (readSequence.go close atEnd other item fuel (skipSpace t)).toOption.map
        fun (xs, t) => (x :: xs, t) := by
  cases x with
  | none =>
    obtain ⟨fault, here⟩ := toOption_eq_none_iff.mp here
    simp [readSequence.go, here, Except.toOption]
  | some x =>
    have here := toOption_eq_some_iff.mp here
    have comma : ',' ≠ close := by rcases closes with rfl | rfl <;> decide
    have separator (t : Text) : skipSpace (',' :: t) = ',' :: t := rfl
    obtain ⟨c, u, eq, _⟩ := id opens
    rw [eq] at opens
    simp [readSequence.go, here, gap.skipSpace, separator, comma, eq, opens.ne_close closes,
      toOption_map]

variable (atEnd other)

theorem readSequence_join (first : Gives item m x) (rest : List.Forall₂ (Gives item) ms xs)
    (enough : xs.length < fuel) (gap : Gap v) (t : Text) :
    (readSequence.go close atEnd other item fuel
      (Text.join [','] (skipSpace m :: ms) ++ (v ++ close :: t))).toOption =
        ((x :: xs).mapM id).map (·, t) := by
  induction rest generalizing m x fuel with
  | nil =>
    cases fuel with
    | zero => cases enough
    | succ fuel =>
      obtain ⟨_, w, before, reads⟩ := first
      have here := reads _ (gap.stops (stops_cons (.inr closes) t))
      rw [← List.append_assoc w] at here
      have joined : Text.join [','] [skipSpace m] = skipSpace m := rfl
      rw [joined, readSequence_last closes here (before.append gap)]
      cases x <;> rfl
  | @cons next y ms ys second rest ih =>
    cases fuel with
    | zero => cases enough
    | succ fuel =>
      obtain ⟨_, w, before, reads⟩ := first
      have later := ih second (Nat.lt_of_succ_lt_succ enough)
      have skip := second.opens.skipSpace_join ms (v ++ close :: t)
      have starts := (second.opens.join ms).append (v ++ close :: t)
      rw [← skip] at starts later
      rw [join_cons_cons,
        readSequence_more closes (reads _ (stops_cons (.inl rfl) _)) before starts, later]
      rw [List.mapM_cons (a := x)]
      cases x with
      | none => rfl
      | some x => cases List.mapM id (y :: ys) <;> rfl

/-- Items parted by commas are read one by one. -/
theorem readBody_join (items : List.Forall₂ (Gives item) ms xs) (gap : Gap v) (t : Text) :
    (readBody close atEnd other item (Text.join [','] ms ++ (v ++ close :: t))).toOption =
      (xs.mapM id).map (·, t) := by
  cases items with
  | nil =>
    simp [readBody, Text.join, gap.skipSpace, skipSpace_close closes, Except.toOption]
  | @cons m x ms xs first rest =>
    have starts := (first.opens.join ms).append (v ++ close :: t)
    have enough : xs.length <
        (Text.join [','] (skipSpace m :: ms) ++ (v ++ close :: t)).length := by
      have count := length_le_join (skipSpace m :: ms)
      rw [List.length_cons, rest.length_eq] at count
      rw [List.length_append, List.length_append, List.length_cons]
      omega
    have read := readSequence_join atEnd other closes first rest enough gap t
    rw [readBody, first.opens.skipSpace_join]
    obtain ⟨c, u, eq, _⟩ := id starts
    rw [eq] at starts read ⊢
    simp only [starts.ne_close closes, if_false]
    exact read

end

end Subselect.Json
