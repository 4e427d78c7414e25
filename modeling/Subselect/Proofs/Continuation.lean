import Subselect.Proofs.Integers

/-! Reading with text behind. What a reader takes from the front of a text it takes whatever text
follows, as long as no number goes on there. This is closed under reading one thing after another,
and so holds of every reader up to whole values. -/
namespace Subselect.Json

open Text (span_append)

/-- What is read is read with other text behind it too, which is left over. -/
def Streams (read : Text → Reads α) : Prop :=
  ∀ t x left, read t = .ok (x, left) →
    ∀ more, Stops more → read (t ++ more) = .ok (x, left ++ more)

namespace Streams

theorem pure (x : α) : Streams fun t => .ok (x, t) := by
  rintro t x left ⟨⟩ more _
  rfl

theorem error (fault : Text → Fault) : Streams (α := α) fun t => .error (fault t) := by
  rintro t x left ⟨⟩

theorem map {p : Text → Reads α} (h : Streams p) (f : α → β) :
    Streams fun t => (p t).map (·.map f id) := by
  intro t y left read more stops
  obtain ⟨⟨a, left'⟩, here, same⟩ := map_inv read
  obtain ⟨rfl, rfl⟩ := Prod.mk.inj same
  simp only [h t a _ here more stops]
  rfl

theorem ite {p q : Text → Reads α} [Decidable c] (yes : Streams p) (no : Streams q) :
    Streams fun t => if c then p t else q t := by
  split
  · exact yes
  · exact no

theorem cons {read : Text → Reads α} (h : Streams read) (c : Char) :
    Streams fun t => read (c :: t) :=
  fun t => h (c :: t)

theorem of_cons {read : Text → Reads α} (empty : ∀ x left, read [] ≠ .ok (x, left))
    (some : ∀ c, Streams fun t => read (c :: t)) : Streams read := by
  rintro (_ | ⟨c, t⟩) x left read
  · exact absurd read (empty x left)
  · exact some c t x left read

end Streams

theorem Streams.skip {next : Char → Text → Reads α} (h : ∀ c, Streams (next c)) :
    Streams fun t => match skipSpace t with
      | [] => .error fault
      | c :: t => next c t := by
  intro t x left read more stops
  simp only at read
  split at read
  · cases read
  · next c u found =>
    simp only [skipSpace_append found]
    exact h c u x left read more stops

/-! Words and numbers. -/

theorem streams_readIdent (value : Json) (letters : Text) : Streams (readIdent value letters) := by
  induction letters with
  | nil => exact .pure value
  | cons expected letters ih =>
    intro t x left read more stops
    cases t with
    | nil => cases read
    | cons c t =>
      rw [readIdent] at read
      split at read
      · next same =>
        rw [List.cons_append, readIdent, if_pos same]
        exact ih t x left read more stops
      · cases read

theorem takeDigits_append (t : Text) (stops : Stops more) :
    takeDigits (t ++ more) = ((takeDigits t).1, (takeDigits t).2 ++ more) := by
  obtain ⟨run, behind⟩ := span_append Char.isDigit t more fun _ c head => (stops c head).1
  rw [takeDigits, run, behind]
  rfl

theorem streams_readWhole : Streams readWhole := by
  intro t x left read more stops
  cases t with
  | nil => cases read
  | cons c t =>
    by_cases zero : c = '0'
    · subst zero
      cases t with
      | nil =>
        cases read
        cases more with
        | nil => rfl
        | cons d more => simp [readWhole, (stops d rfl).1]
      | cons d t =>
        by_cases digit : d.isDigit = true
        · simp [readWhole, digit] at read
        · simp only [readWhole, digit, if_true, if_false, Bool.false_eq_true] at read
          cases read
          simp [readWhole, digit]
    · by_cases digit : c.isDigit = true
      · have digits := takeDigits_append (c :: t) stops
        simp only [readWhole, zero, digit, if_true, if_false] at read
        rw [Except.ok.inj read] at digits
        rw [List.cons_append] at digits ⊢
        simp [readWhole, zero, digit, digits]
      · simp [readWhole, zero, digit] at read

theorem streams_readFraction : Streams readFraction := by
  intro t x left read more stops
  by_cases point : ∃ u, t = '.' :: u
  · obtain ⟨u, rfl⟩ := point
    have digits := takeDigits_append u stops
    rw [readFraction_point] at read
    rw [List.cons_append, readFraction_point, digits]
    split at read
    · cases read
    · cases read
    · next run rest _ some found =>
      cases read
      rw [found]
      cases run with
      | nil => exact (some rfl).elim
      | cons d run => rfl
  · have other : ∀ u, t ≠ '.' :: u := fun u same => point ⟨u, same⟩
    rw [readFraction_other other] at read
    cases read
    apply readFraction_other
    intro u same
    cases t with
    | nil => exact (stops '.' (congrArg List.head? same)).2.1 rfl
    | cons c t => exact other t (by rw [(List.cons.inj same).1])

/-- Digits up to the end of an exponent, or up to where it is out of range. -/
theorem readExponentDigits_append (n : Nat) (t : Text) (stops : Stops more) :
    readExponentDigits n (t ++ more) =
      ((readExponentDigits n t).1, (readExponentDigits n t).2 ++ more) := by
  induction t generalizing n with
  | nil =>
    cases more with
    | nil => rfl
    | cons c more => simp [readExponentDigits, (stops c rfl).1]
  | cons c t ih =>
    rw [List.cons_append, readExponentDigits, readExponentDigits]
    split
    · dsimp only
      split
      · rfl
      · exact ih _
    · rfl

theorem sign_append (some : t ≠ []) (more : Text) :
    sign (t ++ more) = ((sign t).1, (sign t).2 ++ more) := by
  obtain ⟨c, t, rfl⟩ := List.exists_cons_of_ne_nil some
  rw [List.cons_append, sign_cons, sign_cons]
  split
  · rfl
  · split <;> rfl

theorem streams_readPower (isZero negative : Bool) : Streams (readPower isZero negative) := by
  intro t x left read more stops
  cases t with
  | nil => cases read
  | cons c t =>
    by_cases digit : c.isDigit = true
    · have digits := readExponentDigits_append 0 (c :: t) stops
      rw [readPower, if_pos digit] at read
      rw [List.cons_append, readPower, if_pos digit, ← List.cons_append, digits]
      split at read
      · next n rest found =>
        rw [found]
        split at read
        · cases read
        · next zero =>
          cases read
          simp only [zero, takeDigits_append rest stops]
          rfl
      · next n rest found =>
        cases read
        rw [found]
    · rw [readPower, if_neg digit] at read
      cases read

theorem streams_readExponent (isZero : Bool) : Streams (readExponent isZero) := by
  intro t x left read more stops
  cases t with
  | nil =>
    cases read
    exact readExponent_stops isZero stops
  | cons e t =>
    by_cases mark : e = 'e' ∨ e = 'E'
    · rw [readExponent_mark isZero mark] at read
      have some : t ≠ [] := by
        rintro rfl
        cases read
      rw [List.cons_append, readExponent_mark isZero mark, sign_append some]
      exact streams_readPower isZero _ _ x left read more stops
    · simp only [readExponent, mark, if_false] at read
      cases read
      simp [readExponent, mark]

theorem streams_readNumber (negative : Bool) : Streams (readNumber negative) := by
  intro t x left read more stops
  obtain ⟨run, fraction, exponent, _, _, whole, point, power, known⟩ := readNumber_parts read
  have whole := streams_readWhole _ _ _ whole more stops
  have point := streams_readFraction _ _ _ point more stops
  have power := streams_readExponent _ _ _ _ power more stops
  simp only [readNumber, whole, point, power, known, bind, Except.bind]
  rfl

/-! Strings. -/

theorem streams_readHex : Streams readHex := by
  rintro (_ | ⟨a, _ | ⟨b, _ | ⟨c, _ | ⟨d, t⟩⟩⟩⟩) x left read more stops
  all_goals try cases read
  simp only [readHex] at read
  split at read
  · next ha hb hc hd =>
    cases read
    simp only [List.cons_append, readHex, ha, hb, hc, hd]
  · cases read

theorem streams_expectInPair (expected : Char) : Streams (expectInPair expected) := by
  rintro (_ | ⟨c, t⟩) x left read more stops
  · cases read
  · rw [expectInPair] at read
    split at read
    · next same =>
      cases read
      exact if_pos same
    · cases read

theorem streams_readUnicode : Streams readUnicode := by
  intro t x left read more stops
  obtain ⟨⟨high, behind⟩, first, read⟩ := bind_inv read
  have first := streams_readHex _ _ _ first more stops
  simp only [readUnicode, first, bind, Except.bind]
  simp only at read
  split at read
  · cases read
  next notLow =>
  split at read
  · next isHigh =>
    obtain ⟨⟨_, u⟩, mark, read⟩ := bind_inv read
    obtain ⟨⟨_, u'⟩, letter, read⟩ := bind_inv read
    obtain ⟨⟨low, u''⟩, second, read⟩ := bind_inv read
    have mark := streams_expectInPair _ _ _ _ mark more stops
    have letter := streams_expectInPair _ _ _ _ letter more stops
    have second := streams_readHex _ _ _ second more stops
    simp only at read
    split at read
    · next isLow =>
      obtain ⟨char, rest⟩ := Prod.mk.inj (Except.ok.inj read)
      rw [← char, ← rest]
      simp only [notLow, isHigh, mark, letter, second, isLow, if_true]
      rfl
    · cases read
  · next notHigh =>
    cases read
    simp only [notLow, notHigh]
    rfl

theorem streams_readEscape : Streams readEscape := by
  apply Streams.of_cons
  · rintro x left ⟨⟩
  · intro c
    exact .ite (.pure c) (.ite (.pure _) (.ite (.pure _) (.ite (.pure _) (.ite (.pure _)
      (.ite (.pure _) (.ite streams_readUnicode (.error _)))))))

theorem streams_readStringChar : Streams readStringChar := by
  apply Streams.of_cons
  · rintro x left ⟨⟩
  · intro c
    exact .ite (.pure none) (.ite (streams_readEscape.map some) (.ite (.error _) (.pure (some c))))

/-- Room for more characters than are left changes nothing. -/
theorem readString_go_append (read : readString.go fuel t = .ok (s, left)) (stops : Stops more)
    (room : fuel ≤ fuel') : readString.go fuel' (t ++ more) = .ok (s, left ++ more) := by
  induction fuel generalizing fuel' t s with
  | zero => cases read
  | succ fuel ih =>
    obtain ⟨fuel', rfl⟩ := Nat.exists_eq_succ_of_ne_zero (Nat.ne_zero_of_lt room)
    rw [readString.go] at read ⊢
    split at read
    · cases read
    · next here =>
      cases read
      rw [streams_readStringChar _ _ _ here more stops]
    · next c u here =>
      obtain ⟨⟨s, left'⟩, rest, same⟩ := map_inv read
      cases same
      rw [streams_readStringChar _ _ _ here more stops]
      simp only [ih rest (Nat.le_of_succ_le_succ room)]
      rfl

theorem streams_readString : Streams readString := by
  intro t s left read more stops
  apply readString_go_append read stops
  rw [List.length_append]
  exact Nat.le_add_right _ _

/-! Arrays, objects and values. -/

theorem readSequence_go_append {item : Text → Reads α} (items : Streams item)
    (read : readSequence.go close atEnd other item fuel t = .ok (xs, left)) (stops : Stops more)
    (room : fuel ≤ fuel') :
    readSequence.go close atEnd other item fuel' (t ++ more) = .ok (xs, left ++ more) := by
  induction fuel generalizing fuel' t xs with
  | zero => cases read
  | succ fuel ih =>
    obtain ⟨fuel', rfl⟩ := Nat.exists_eq_succ_of_ne_zero (Nat.ne_zero_of_lt room)
    rw [readSequence.go] at read ⊢
    split at read
    · cases read
    next x behind here =>
    rw [items _ _ _ here more stops]
    split at read
    · cases read
    next c u found =>
    simp only [skipSpace_append found]
    split at read
    · next closes =>
      cases read
      rw [if_pos closes]
    next goesOn =>
    rw [if_neg goesOn]
    split at read
    · next comma =>
      rw [if_pos comma]
      split at read
      · cases read
      next d v found =>
      simp only [skipSpace_append found]
      split at read
      · cases read
      next opens =>
      obtain ⟨⟨ys, left'⟩, rest, same⟩ := map_inv read
      cases same
      rw [if_neg opens, ← List.cons_append, ih rest (Nat.le_of_succ_le_succ room)]
      rfl
    · cases read

theorem streams_readBody {item : Text → Reads α} (items : Streams item) :
    Streams (readBody close atEnd other item) := by
  have sequence : Streams (readSequence close atEnd other item) := by
    intro t xs left read more stops
    apply readSequence_go_append items read stops
    rw [List.length_append]
    exact Nat.le_add_right _ _
  exact .skip fun c => .ite (.pure []) (sequence.cons c)

theorem streams_readColon : Streams readColon :=
  .skip fun _ => .ite (.pure ()) (.error _)

theorem streams_readEntry {value : Text → Reads Json} (values : Streams value) :
    Streams (readEntry value) := by
  apply Streams.of_cons
  · rintro x left ⟨⟩
  · intro c
    by_cases mark : c = '"'
    · subst mark
      intro t entry left read more stops
      obtain ⟨⟨key, behind⟩, first, read⟩ := bind_inv read
      obtain ⟨⟨_, behind'⟩, colon, read⟩ := bind_inv read
      obtain ⟨⟨v, behind''⟩, last, same⟩ := bind_inv read
      cases same
      have first := streams_readString _ _ _ first more stops
      have colon := streams_readColon _ _ _ colon more stops
      have last := values _ _ _ last more stops
      simp only [readEntry, bind, Except.bind, first, colon, last]
      rfl
    · intro t entry left read
      simp [readEntry, mark] at read

/-- A value is read the same whatever text follows it. -/
theorem streams_readValue (depth : Nat) : Streams (readValue depth) := by
  have first (c : Char) {deeper : Text → Reads Json} (rest : Streams deeper) :
      Streams fun t =>
        if c = 'n' then readIdent .null ['u', 'l', 'l'] t
        else if c = 't' then readIdent (.bool true) ['r', 'u', 'e'] t
        else if c = 'f' then readIdent (.bool false) ['a', 'l', 's', 'e'] t
        else if c = '-' then readNumber true t
        else if c.isDigit then readNumber false (c :: t)
        else if c = '"' then (readString t).map (·.map .string id)
        else if c = '[' ∨ c = '\x7b' then deeper t
        else .error (.on .expectedValue (c :: t)) :=
    .ite (streams_readIdent _ _) <| .ite (streams_readIdent _ _) <| .ite (streams_readIdent _ _) <|
      .ite (streams_readNumber _) <| .ite ((streams_readNumber _).cons c) <|
      .ite (streams_readString.map _) <| .ite rest (.error _)
  induction depth with
  | zero =>
    intro t x left read more stops
    rw [readValue] at read ⊢
    exact Streams.skip (fun c => first c (.error fun t => .on .recursionLimit (c :: t)))
      t x left read more stops
  | succ depth ih =>
    intro t x left read more stops
    rw [readValue] at read ⊢
    exact Streams.skip (fun c => first c (.ite ((streams_readBody ih).map .array)
      ((streams_readBody (streams_readEntry ih)).map .object))) t x left read more stops

end Subselect.Json
