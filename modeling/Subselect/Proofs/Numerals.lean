import Subselect.Json.Printer
import Subselect.Json.Reader
import Subselect.Proofs.Quick
import Subselect.Proofs.Seams

/-! Numbers in JSON text. A number is read from its parts, the digits in front of the point, those
behind it and the exponent; in each of its forms the text of a double has the parts of a number that
the double is the nearest one to. -/
namespace Subselect

/-! Results without their faults. -/

theorem toOption_eq_some_iff {result : Except ε α} :
    result.toOption = some a ↔ result = .ok a := by
  cases result with
  | error => exact ⟨nofun, nofun⟩
  | ok b => exact ⟨fun same => congrArg Except.ok (Option.some.inj same),
      fun same => congrArg some (Except.ok.inj same)⟩

theorem toOption_eq_none_iff {result : Except ε α} :
    result.toOption = none ↔ ∃ fault, result = .error fault := by
  cases result with
  | error fault => exact ⟨fun _ => ⟨fault, rfl⟩, fun _ => rfl⟩
  | ok a => exact ⟨nofun, nofun⟩

theorem toOption_bind (first : Except ε α) (next : α → Except ε β) :
    (first >>= next).toOption = first.toOption.bind fun a => (next a).toOption := by
  cases first <;> rfl

theorem toOption_map (result : Except ε α) (f : α → β) :
    (result.map f).toOption = result.toOption.map f := by
  cases result <;> rfl

/-- The parts of a number in JSON text. -/
structure Numeral where
  whole : Text
  fraction : Option Text
  exponent : Option Int
  deriving DecidableEq, Repr

namespace Numeral

def pointText : Option Text → Text
  | none => []
  | some digits => '.' :: digits

def powerText : Option Int → Text
  | none => []
  | some e => 'e' :: (if e < 0 then '-' else '+') :: Decimal.ofNat e.natAbs

def text (parts : Numeral) : Text :=
  parts.whole ++ pointText parts.fraction ++ powerText parts.exponent

/-- The number is `digits * 10 ^ scale`. -/
def digits (parts : Numeral) : Nat := Decimal.value 0 (parts.whole ++ parts.fraction.getD [])

def scale (parts : Numeral) : Int := parts.exponent.getD 0 - (parts.fraction.getD []).length

/-- What a reader takes the parts for. -/
def read (negative : Bool) (parts : Numeral) : Option Json :=
  Json.number negative parts.whole parts.fraction parts.exponent

/-- A number that is written as JSON text has it. -/
structure Valid (parts : Numeral) : Prop where
  digits : ∀ c ∈ parts.whole, c.isDigit = true
  first : parts.whole = ['0'] ∨ ∃ c more, parts.whole = c :: more ∧ c ≠ '0'
  fraction : ∀ digits, parts.fraction = some digits →
    digits ≠ [] ∧ ∀ c ∈ digits, c.isDigit = true
  exponent : ∀ e, parts.exponent = some e → e.natAbs ≤ Json.greatestExponent

theorem Valid.exists_digit {parts : Numeral} (valid : parts.Valid) :
    ∃ c t, parts.text = c :: t ∧ c.isDigit = true := by
  obtain ⟨c, more, eq⟩ : ∃ c more, parts.whole = c :: more := by
    obtain eq | ⟨c, more, eq, _⟩ := valid.first
    · exact ⟨'0', [], eq⟩
    · exact ⟨c, more, eq⟩
  have digit := valid.digits c (by rw [eq]; exact List.mem_cons_self)
  refine ⟨c, more ++ pointText parts.fraction ++ powerText parts.exponent, ?_, digit⟩
  rw [text, eq]
  rfl

/-- A number with a point or an exponent is no whole number, and is read quickly. -/
theorem read_marked {parts : Numeral} (marked : parts.fraction ≠ none ∨ parts.exponent ≠ none)
    (negative : Bool) : parts.read negative = Json.inRange? (Binary64.ofDigits negative
      parts.whole (parts.fraction.getD []) (parts.exponent.getD 0)) := by
  obtain ⟨whole, fraction, exponent⟩ := parts
  have part : (fraction.isNone && exponent.isNone) = false := by
    cases fraction <;> cases exponent <;> simp at marked ⊢
  simp only [read, Json.number, part, Bool.false_and, Bool.false_eq_true, if_false]

/-- Few digits and a small power of ten are read as the nearest double. -/
theorem read_exact {parts : Numeral} (marked : parts.fraction ≠ none ∨ parts.exponent ≠ none)
    (below : parts.digits < Binary64.significandLimit)
    (small : parts.scale.natAbs ≤ Binary64.exactPower)
    (nearest : Binary64.ofDecimal negative parts.digits parts.scale = .finite negative s k) :
    parts.read negative = some (.double (.finite negative s k)) := by
  have exact := Binary64.ofDigits_exact negative below small
  rw [digits, scale] at nearest
  rw [read_marked marked, exact, nearest]
  rfl

end Numeral

namespace Json

open Text (span_seam)

/-! Where numbers end. -/

/-- No number goes on here. -/
def Stops (t : Text) : Prop :=
  ∀ c, t.head? = some c → c.isDigit = false ∧ c ≠ '.' ∧ c ≠ 'e' ∧ c ≠ 'E'

theorem stops_nil : Stops [] := by
  rintro c ⟨⟩

theorem stops_cons (ends : c = ',' ∨ c = ']' ∨ c = '\x7d') (t : Text) : Stops (c :: t) := by
  rintro d ⟨⟩
  rcases ends with rfl | rfl | rfl <;> decide

/-- No digit goes on here. -/
def Breaks (t : Text) : Prop := ∀ c, t.head? = some c → c.isDigit = false

theorem Stops.breaks (stops : Stops t) : Breaks t := fun c head => (stops c head).1

theorem breaks_cons (other : c.isDigit = false) (t : Text) : Breaks (c :: t) := by
  rintro _ ⟨⟩
  exact other

theorem takeDigits_run (run : ∀ c ∈ s, c.isDigit = true) (breaks : Breaks t) :
    takeDigits (s ++ t) = (s, t) := by
  obtain ⟨taken, left⟩ := span_seam Char.isDigit run breaks
  rw [takeDigits, taken, left]

theorem readWhole_run (digits : ∀ c ∈ w, c.isDigit = true)
    (first : w = ['0'] ∨ ∃ c more, w = c :: more ∧ c ≠ '0') (breaks : Breaks t) :
    readWhole (w ++ t) = .ok (w, t) := by
  obtain rfl | ⟨c, more, rfl, other⟩ := first
  · cases t with
    | nil => rfl
    | cons d t => simp [readWhole, breaks d rfl]
  · have run := takeDigits_run digits breaks
    rw [List.cons_append] at run ⊢
    simp only [readWhole, other, digits c List.mem_cons_self, run, if_false, if_true]

/-! Fraction and exponent. -/

theorem readExponent_stops (isZero : Bool) (stops : Stops t) :
    readExponent isZero t = .ok (none, t) := by
  cases t with
  | nil => rfl
  | cons e t =>
    obtain ⟨_, _, lower, upper⟩ := stops e rfl
    simp [readExponent, lower, upper]

/-- Behind a point the digits are all there is to a fraction. -/
theorem readFraction_point (t : Text) : readFraction ('.' :: t) =
    match takeDigits t with
    | ([], []) => .error ⟨.endInValue, 0⟩
    | ([], t) => .error (.on .invalidNumber t)
    | (digits, t) => .ok (some digits, t) := rfl

theorem readFraction_other (h : ∀ u, t ≠ '.' :: u) : readFraction t = .ok (none, t) := by
  unfold readFraction
  split
  · next u => exact absurd rfl (h u)
  · rfl

/-- Whether an exponent is negative, and what stands behind its sign. -/
def sign : Text → Bool × Text
  | '+' :: t => (false, t)
  | '-' :: t => (true, t)
  | t => (false, t)

theorem sign_cons (c : Char) (t : Text) : sign (c :: t) =
    if c = '+' then (false, t) else if c = '-' then (true, t) else (false, c :: t) := by
  by_cases plus : c = '+'
  · subst plus
    rfl
  by_cases minus : c = '-'
  · subst minus
    rfl
  simp [sign, plus, minus]

/-- What stands behind the mark and the sign of an exponent. -/
def readPower (isZero negative : Bool) : Text → Reads (Option Int)
  | [] => .error ⟨.endInValue, 0⟩
  | c :: t =>
    if c.isDigit then
      match readExponentDigits 0 (c :: t) with
      | ((n, true), t) =>
        if !negative && !isZero then .error (.before .numberOutOfRange t)
        else .ok (some (if negative then -n else 0), (takeDigits t).2)
      | ((n, false), t) => .ok (some (if negative then -n else n), t)
    else .error (.on .invalidNumber (c :: t))

theorem readExponent_mark (isZero : Bool) (mark : e = 'e' ∨ e = 'E') (t : Text) :
    readExponent isZero (e :: t) = readPower isZero (sign t).1 (sign t).2 := by
  have unfolded := readExponent.eq_def isZero (e :: t)
  simp only [mark, if_true] at unfolded
  cases t with
  | nil => exact unfolded
  | cons c t =>
    by_cases plus : c = '+'
    · subst plus
      cases t <;> exact unfolded
    by_cases minus : c = '-'
    · subst minus
      cases t <;> exact unfolded
    simp only [List.cons.injEq, plus, minus, false_and, imp_self, implies_true] at unfolded
    rw [sign_cons, if_neg plus, if_neg minus]
    exact unfolded

theorem readFraction_run (some : f ≠ []) (digits : ∀ c ∈ f, c.isDigit = true) (breaks : Breaks t) :
    readFraction ('.' :: (f ++ t)) = .ok (.some f, t) := by
  rw [readFraction_point, takeDigits_run digits breaks]
  cases f with
  | nil => exact absurd rfl some
  | cons c f => rfl

theorem readExponentDigits_run (digits : ∀ c ∈ s, c.isDigit = true)
    (small : Decimal.value n s ≤ greatestExponent) (breaks : Breaks t) :
    readExponentDigits n (s ++ t) = ((Decimal.value n s, false), t) := by
  induction s generalizing n with
  | nil =>
    cases t with
    | nil => rfl
    | cons c t => simp [readExponentDigits, breaks c rfl, Decimal.value_nil]
  | cons c s ih =>
    rw [Decimal.value_cons] at small ⊢
    have next := Nat.not_lt_of_le (Nat.le_trans (Decimal.le_value _ s) small)
    rw [List.cons_append, readExponentDigits, if_pos (digits c List.mem_cons_self)]
    simp only [next, if_false]
    exact ih (fun d member => digits d (List.mem_cons_of_mem _ member)) small

theorem readPower_ofNat (isZero negative : Bool) (small : n ≤ greatestExponent)
    (breaks : Breaks t) : readPower isZero negative (Decimal.ofNat n ++ t) =
      .ok (some (if negative then -n else n), t) := by
  have digits := readExponentDigits_run (n := 0) (s := Decimal.ofNat n) (t := t)
    (fun c member => Decimal.isDigit_of_mem_ofNat member) (by rwa [Decimal.value_ofNat]) breaks
  rw [Decimal.value_ofNat] at digits
  obtain ⟨c, more, eq, digit⟩ := Decimal.exists_ofNat_cons n
  rw [eq, List.cons_append] at digits ⊢
  simp only [readPower, digit, digits, if_true]

theorem readExponent_power (isZero : Bool) (small : e.natAbs ≤ greatestExponent)
    (breaks : Breaks t) : readExponent isZero
      ('e' :: (if e < 0 then '-' else '+') :: (Decimal.ofNat e.natAbs ++ t)) = .ok (some e, t) := by
  have read (negative : Bool) := readPower_ofNat isZero negative small breaks
  rw [readExponent_mark isZero (.inl rfl)]
  by_cases below : e < 0
  · have value : -(e.natAbs : Int) = e := by omega
    rw [if_pos below, sign, read, if_pos rfl, value]
  · have value : (e.natAbs : Int) = e := by omega
    rw [if_neg below, sign, read, if_neg Bool.false_ne_true, value]

/-! Numbers. -/

/-- A number is read part by part. -/
theorem readNumber_text {parts : Numeral} (valid : parts.Valid) (stops : Stops t)
    (negative : Bool) :
    (readNumber negative (parts.text ++ t)).toOption = (parts.read negative).map (·, t) := by
  obtain ⟨whole, fraction, exponent⟩ := parts
  obtain ⟨digits, first, fractions, small⟩ := valid
  simp only at digits first fractions small
  have power (isZero : Bool) :
      readExponent isZero (Numeral.powerText exponent ++ t) = .ok (exponent, t) := by
    cases exponent with
    | none => exact readExponent_stops isZero stops
    | some e => exact readExponent_power isZero (small e rfl) stops.breaks
  have powerBreaks : Breaks (Numeral.powerText exponent ++ t) := by
    cases exponent with
    | none => exact stops.breaks
    | some e => exact breaks_cons rfl _
  have point : readFraction (Numeral.pointText fraction ++ (Numeral.powerText exponent ++ t)) =
      .ok (fraction, Numeral.powerText exponent ++ t) := by
    cases fraction with
    | none =>
      apply readFraction_other
      rintro u same
      cases exponent with
      | none => exact (stops '.' (congrArg List.head? same)).2.1 rfl
      | some e => cases same
    | some f => exact readFraction_run (fractions f rfl).1 (fractions f rfl).2 powerBreaks
  have pointBreaks : Breaks (Numeral.pointText fraction ++ (Numeral.powerText exponent ++ t)) := by
    cases fraction with
    | none => exact powerBreaks
    | some f => exact breaks_cons rfl _
  have lead := readWhole_run digits first pointBreaks
  simp only [Numeral.text, List.append_assoc, readNumber, lead, point, power, Numeral.read, bind,
    Except.bind]
  cases number negative whole fraction exponent <;> rfl

/-- A number is whole if it has digits alone and fits a word, and a finite double otherwise. -/
theorem number_cases (known : number negative digits fraction exponent = some v) :
    (fraction = none ∧ exponent = none ∧
      v = .whole (if negative then -(Decimal.value 0 digits : Int) else Decimal.value 0 digits) ∧
      (if negative then Decimal.value 0 digits ≠ 0 ∧ Decimal.value 0 digits ≤ Decimal.signedLimit
        else Decimal.value 0 digits < Decimal.wordLimit)) ∨
    ∃ s k, v = .double (.finite negative s k) ∧ Binary64.Canonical s k := by
  by_cases whole : (fraction.isNone && exponent.isNone && (if negative then
      Decimal.value 0 digits != 0 && decide (Decimal.value 0 digits ≤ Decimal.signedLimit)
    else decide (Decimal.value 0 digits < Decimal.wordLimit))) = true
  · simp only [number, whole, if_true] at known
    cases known
    simp only [Bool.and_eq_true, Option.isNone_iff_eq_none] at whole
    refine .inl ⟨whole.1.1, whole.1.2, rfl, ?_⟩
    cases negative <;> simpa using whole.2
  · simp only [number, whole, Bool.false_eq_true, if_false] at known
    have rounded := Binary64.rounded_ofDigits negative digits (fraction.getD []) (exponent.getD 0)
    generalize Binary64.ofDigits negative digits _ _ = x at known rounded
    cases rounded with
    | infinite => cases known
    | finite canonical =>
      cases known
      exact .inr ⟨_, _, rfl, canonical⟩

theorem number_ofNat (n : Nat) (fits : n < Decimal.wordLimit) :
    number false (Decimal.ofNat n) none none = some (.whole n) := by
  simp [number, Decimal.value_ofNat, fits]

theorem number_negative (n : Nat) (fits : n + 1 ≤ Decimal.signedLimit) :
    number true (Decimal.ofNat (n + 1)) none none = some (.whole (.negSucc n)) := by
  simp [number, Decimal.value_ofNat, fits, Int.negSucc_eq]

theorem readNumber_ofNat (stops : Stops t)
    (known : number negative (Decimal.ofNat n) none none = some value) :
    readNumber negative (Decimal.ofNat n ++ t) = .ok (value, t) := by
  have first : Decimal.ofNat n = ['0'] ∨ ∃ c more, Decimal.ofNat n = c :: more ∧ c ≠ '0' := by
    by_cases zero : n = 0
    · exact .inl (by rw [zero]; rfl)
    · exact .inr (Decimal.ofNat_first zero)
  have valid : Numeral.Valid ⟨Decimal.ofNat n, none, none⟩ :=
    ⟨fun c member => Decimal.isDigit_of_mem_ofNat member, first, nofun, nofun⟩
  have read := readNumber_text valid stops negative
  rw [Numeral.read, known] at read
  simpa [Numeral.text, Numeral.pointText, Numeral.powerText, toOption_eq_some_iff] using read

end Json

/-! The forms of a double. -/

namespace Decimal

/-- The parts have these digits, perhaps with zeros behind them up to the one behind the point. -/
structure Magnitude.Shown (m : Magnitude) (parts : Numeral) : Prop where
  valid : parts.Valid
  marked : parts.fraction ≠ none ∨ parts.exponent ≠ none
  zeros : ∃ n ≤ (m.exponent + 1).toNat,
    parts.digits = m.digits * 10 ^ n ∧ parts.scale = m.exponent - n

def Writes (t : Text) (m : Magnitude) : Prop := ∃ parts, t = Numeral.text parts ∧ m.Shown parts

theorem isDigit_zero : ∀ c ∈ ['0'], c.isDigit = true := List.forall_mem_singleton.mpr rfl

/-- A point with digits on both sides of it. -/
theorem writes_point {whole fraction : Text} (digits : ∀ c ∈ whole ++ fraction, c.isDigit = true)
    (first : whole = ['0'] ∨ ∃ c more, whole = c :: more ∧ c ≠ '0') (some : fraction ≠ [])
    {n : Nat} (few : n ≤ (m.exponent + 1).toNat)
    (valued : value 0 (whole ++ fraction) = m.digits * 10 ^ n)
    (scaled : (0 - fraction.length : Int) = m.exponent - n) :
    Writes (whole ++ '.' :: fraction) m := by
  rw [List.forall_mem_append] at digits
  refine ⟨⟨whole, .some fraction, none⟩, ?_, ⟨digits.1, first, ?_, nofun⟩, .inl nofun,
    n, few, valued, scaled⟩
  · rw [Numeral.text, Numeral.powerText, List.append_nil]
    rfl
  · rintro _ ⟨⟩
    exact ⟨some, digits.2⟩

/-- Zeros up to the point, and one behind it. -/
theorem writes_whole (positive : m.digits ≠ 0) (whole : m.exponent = .ofNat e) :
    Writes (ofNat m.digits ++ Layout.zeros e ++ ['.', '0']) m := by
  have zeros : Layout.zeros e ++ ['0'] = Layout.zeros (e + 1) := List.replicate_succ'.symm
  refine writes_point (n := e + 1) ?_ ?_ (List.cons_ne_nil _ _) ?_ ?_ ?_
  · rw [List.append_assoc, zeros, List.forall_mem_append]
    exact ⟨fun c member => isDigit_of_mem_ofNat member, fun c member => isDigit_zeros member⟩
  · obtain ⟨c, more, eq, other⟩ := ofNat_first positive
    rw [eq]
    exact .inr ⟨c, more ++ Layout.zeros e, rfl, other⟩
  · rw [whole]
    exact Nat.le_refl _
  · rw [List.append_assoc, zeros, value_append, value_ofNat]
    exact value_replicate_zero m.digits (e + 1)
  · rw [whole, List.length_singleton, Int.ofNat_eq_natCast]
    omega

/-- The point among the digits. -/
theorem writes_inside (positive : m.digits ≠ 0) (fraction : m.exponent = .negSucc e)
    (inside : e + 1 < (ofNat m.digits).length) :
    Writes ((ofNat m.digits).take ((ofNat m.digits).length - (e + 1)) ++
      '.' :: (ofNat m.digits).drop ((ofNat m.digits).length - (e + 1))) m := by
  generalize split : (ofNat m.digits).length - (e + 1) = n
  have left : ((ofNat m.digits).drop n).length = e + 1 := by
    rw [List.length_drop]
    omega
  refine writes_point (n := 0) ?_ ?_ ?_ (Nat.zero_le _) ?_ ?_
  · rw [List.take_append_drop]
    exact fun c member => isDigit_of_mem_ofNat member
  · obtain ⟨c, more, eq, other⟩ := ofNat_first positive
    obtain ⟨k, rfl⟩ : ∃ k, n = k + 1 := Nat.exists_eq_succ_of_ne_zero (by omega)
    rw [eq]
    exact .inr ⟨c, more.take k, rfl, other⟩
  · exact List.ne_nil_of_length_pos (by omega)
  · rw [List.take_append_drop, value_ofNat, Nat.pow_zero, Nat.mul_one]
  · rw [left, fraction]
    omega

/-- Zeros behind the point. -/
theorem writes_below (fraction : m.exponent = .negSucc e)
    (below : (ofNat m.digits).length ≤ e + 1) :
    Writes ('0' :: '.' :: (Layout.zeros (e + 1 - (ofNat m.digits).length) ++ ofNat m.digits))
      m := by
  generalize missing : e + 1 - (ofNat m.digits).length = n
  have left : (Layout.zeros n ++ ofNat m.digits).length = e + 1 := by
    rw [List.length_append, Layout.zeros, List.length_replicate]
    omega
  change Writes (['0'] ++ '.' :: (Layout.zeros n ++ ofNat m.digits)) m
  refine writes_point (n := 0) ?_ (.inl rfl) ?_ (Nat.zero_le _) ?_ ?_
  · rw [List.forall_mem_append, List.forall_mem_append]
    exact ⟨isDigit_zero, fun c member => isDigit_zeros member,
      fun c member => isDigit_of_mem_ofNat member⟩
  · exact List.append_ne_nil_of_right_ne_nil _ (ofNat_ne_nil m.digits)
  · have zeros : value (value 0 ['0']) (Layout.zeros n) = 0 :=
      (value_replicate_zero 0 n).trans (Nat.zero_mul _)
    rw [value_append, value_append, zeros, value_ofNat, Nat.pow_zero, Nat.mul_one]
  · rw [left, fraction]
    omega

theorem writes_positional (positive : m.digits ≠ 0) : Writes (Layout.json.positionalText m) m := by
  unfold Layout.positionalText
  cases exponent : m.exponent with
  | ofNat e => exact writes_whole positive exponent
  | negSucc e =>
    dsimp only
    split
    · next inside => exact writes_inside positive exponent inside
    · next below => exact writes_below exponent (Nat.le_of_not_lt below)

theorem writes_scientific (positive : m.digits ≠ 0)
    (near : m.leading.natAbs ≤ Json.greatestExponent) : Writes (Layout.scientificText m) m := by
  obtain ⟨c, more, eq, other⟩ := ofNat_first positive
  have digits : ∀ d ∈ c :: more, d.isDigit = true := fun d member =>
    isDigit_of_mem_ofNat (n := m.digits) (eq ▸ member)
  have scaled : m.leading - more.length = m.exponent - (0 : Nat) := by
    rw [Magnitude.leading, eq, List.length_cons]
    omega
  have valued : value 0 (c :: more) = m.digits * 10 ^ 0 := by
    rw [← eq, value_ofNat, Nat.pow_zero, Nat.mul_one]
  have first : ∀ d ∈ [c], d.isDigit = true :=
    fun d member => digits d (List.mem_append_left more member)
  unfold Layout.scientificText
  rw [eq, List.tail_cons]
  cases more with
  | nil =>
    refine ⟨⟨[c], none, some m.leading⟩, rfl,
      ⟨first, .inr ⟨c, [], rfl, other⟩, nofun, ?_⟩, .inr nofun, 0, Nat.zero_le _, valued, scaled⟩
    rintro _ ⟨⟩
    exact near
  | cons d more =>
    refine ⟨⟨[c], some (d :: more), some m.leading⟩, rfl,
      ⟨first, .inr ⟨c, [], rfl, other⟩, ?_, ?_⟩, .inr nofun, 0, Nat.zero_le _, valued, scaled⟩
    · rintro _ ⟨⟩
      exact ⟨List.cons_ne_nil d more, fun x member => digits x (List.mem_cons_of_mem c member)⟩
    · rintro _ ⟨⟩
      exact near

/-- The text of a double has the digits that the double is nearest to. -/
theorem writes_magnitudeText (canonical : Binary64.Canonical s k) (some : s ≠ 0) :
    Writes (Layout.json.magnitudeText s k) (shortest .even s k) := by
  obtain ⟨positive, low, high⟩ :=
    Binary64.places_bounds (ofDecimal_shortest false .even canonical some) some
  have near : (shortest .even s k).leading.natAbs ≤ Json.greatestExponent := by
    rw [Magnitude.leading, Json.greatestExponent]
    omega
  rw [Layout.magnitudeText, if_neg some]
  dsimp only
  split
  · exact writes_positional positive
  · exact writes_scientific positive near

/-- Zero is written with a zero on both sides of the point. -/
theorem writes_zero : Writes (Layout.json.magnitudeText 0 0) ⟨0, -1⟩ :=
  writes_point (n := 0) (List.forall_mem_append.mpr ⟨isDigit_zero, isDigit_zero⟩) (.inl rfl)
    (List.cons_ne_nil _ _) (Nat.zero_le _) rfl rfl

/-- The digits a double is written with. -/
def written (s k : Nat) : Magnitude := if s = 0 then ⟨0, -1⟩ else shortest .even s k

theorem writes_written (canonical : Binary64.Canonical s k) :
    Writes (Layout.json.magnitudeText s k) (written s k) := by
  by_cases zero : s = 0
  · obtain rfl : k = 0 := canonical.full.resolve_right (by rw [zero]; decide)
    subst zero
    exact writes_zero
  · rw [written, if_neg zero]
    exact writes_magnitudeText canonical zero

theorem ofDecimal_written (negative : Bool) (canonical : Binary64.Canonical s k) :
    Binary64.ofDecimal negative (written s k).digits (written s k).exponent =
      .finite negative s k := by
  by_cases zero : s = 0
  · obtain rfl : k = 0 := canonical.full.resolve_right (by rw [zero]; decide)
    subst zero
    rfl
  · rw [written, if_neg zero]
    exact ofDecimal_shortest negative .even canonical zero

/-- Few digits, with the zeros that are written behind them, and few places. -/
structure Magnitude.Short (m : Magnitude) : Prop where
  few : m.digits * 10 ^ (m.exponent + 1).toNat < Binary64.significandLimit
  near : m.exponent.natAbs ≤ Binary64.exactPower

theorem Magnitude.Shown.ofDecimal_eq {m : Magnitude} (shown : m.Shown parts) (negative : Bool) :
    Binary64.ofDecimal negative parts.digits parts.scale =
      Binary64.ofDecimal negative m.digits m.exponent := by
  obtain ⟨n, _, valued, scaled⟩ := shown.zeros
  rw [valued, scaled, Binary64.ofDecimal_zeros]

/-- Few digits are read as the number that they are nearest to. -/
theorem Magnitude.Shown.read_short {m : Magnitude} (shown : m.Shown parts) (short : m.Short)
    (nearest : Binary64.ofDecimal negative m.digits m.exponent = .finite negative s k) :
    parts.read negative = some (.double (.finite negative s k)) := by
  obtain ⟨n, few, valued, scaled⟩ := shown.zeros
  apply Numeral.read_exact shown.marked
  · rw [valued]
    refine Nat.lt_of_le_of_lt (Nat.mul_le_mul_left _ ?_) short.few
    exact Nat.pow_le_pow_right (by decide) few
  · have near := short.near
    simp only [Binary64.exactPower] at near ⊢
    omega
  · rw [shown.ofDecimal_eq, nearest]

end Decimal
end Subselect
