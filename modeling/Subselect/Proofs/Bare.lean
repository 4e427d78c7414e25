import Mathlib.Computability.RegularExpressions
import Subselect.Proofs.Integers
import Subselect.Proofs.Spans

/-! Literals without quotes. They are the words of a regular expression of numbers, so nothing but
digits, signs, points and marks of exponents gets into a query unescaped. All other literals are
strings in which every quote and backslash stands behind a backslash. -/
namespace Subselect

open Text

namespace Literal

/-! The numbers, as a regular expression. -/

namespace Number

/-- Any one of some characters. -/
def oneOf (cs : Text) : RegularExpression Char := (cs.map .char).sum

def optional (p : RegularExpression Char) : RegularExpression Char := 1 + p

def sign : RegularExpression Char := oneOf ['+', '-']

def digit : RegularExpression Char :=
  oneOf ['0', '1', '2', '3', '4', '5', '6', '7', '8', '9']

def digits : RegularExpression Char := digit * digit.star

def point : RegularExpression Char := .char '.'

def mark : RegularExpression Char := oneOf ['e', 'E']

def mantissa : RegularExpression Char := digits * optional point * digit.star + point * digits

def exponent : RegularExpression Char := optional sign * digits

theorem mem_oneOf : t ∈ (oneOf cs).matches' ↔ ∃ c ∈ cs, t = [c] := by
  induction cs with
  | nil => simp [oneOf]
  | cons c cs ih =>
    have split : oneOf (c :: cs) = .char c + oneOf cs := by simp [oneOf]
    simp only [split, RegularExpression.matches'_add, Language.mem_add, ih,
      RegularExpression.matches'_char, List.mem_cons, exists_eq_or_imp]
    rfl

theorem mem_star_oneOf : t ∈ (oneOf cs).star.matches' ↔ ∀ c ∈ t, c ∈ cs := by
  rw [RegularExpression.matches'_star, Language.mem_kstar]
  constructor
  · rintro ⟨parts, rfl, each⟩ c member
    obtain ⟨part, inside, member⟩ := List.mem_flatten.mp member
    obtain ⟨d, listed, rfl⟩ := mem_oneOf.mp (each part inside)
    rwa [List.mem_singleton.mp member]
  · intro all
    refine ⟨t.map ([·]), (List.flatMap_singleton' t).symm, ?_⟩
    intro part inside
    obtain ⟨c, member, rfl⟩ := List.mem_map.mp inside
    exact mem_oneOf.mpr ⟨c, all c member, rfl⟩

theorem mem_optional : t ∈ (optional p).matches' ↔ t = [] ∨ t ∈ p.matches' := by
  simp [optional, RegularExpression.matches'_add, Language.mem_add]

theorem mem_mul {p q : RegularExpression Char} :
    t ∈ (p * q).matches' ↔ ∃ a b, t = a ++ b ∧ a ∈ p.matches' ∧ b ∈ q.matches' := by
  rw [RegularExpression.matches'_mul, Language.mem_mul]
  constructor
  · rintro ⟨a, first, b, second, rfl⟩
    exact ⟨a, b, rfl, first, second⟩
  · rintro ⟨a, b, rfl, first, second⟩
    exact ⟨a, first, b, second, rfl⟩

theorem isDigit_iff : c ∈ ['0', '1', '2', '3', '4', '5', '6', '7', '8', '9'] ↔
    c.isDigit = true := by
  constructor
  · have all : ['0', '1', '2', '3', '4', '5', '6', '7', '8', '9'].all Char.isDigit = true := rfl
    exact List.all_eq_true.mp all c
  · intro digit
    have all : ∀ n < 10, Nat.digitChar n ∈ ['0', '1', '2', '3', '4', '5', '6', '7', '8', '9'] := by
      decide
    have listed := all _ (Decimal.digit_lt_ten digit)
    rwa [Decimal.digitChar_value digit] at listed

theorem mem_run : t ∈ digit.star.matches' ↔ ∀ c ∈ t, c.isDigit = true := by
  simp only [digit, mem_star_oneOf, isDigit_iff]

theorem mem_digits : t ∈ digits.matches' ↔ t ≠ [] ∧ ∀ c ∈ t, c.isDigit = true := by
  simp only [digits, mem_mul, mem_run]
  constructor
  · rintro ⟨_, more, rfl, first, rest⟩
    obtain ⟨c, listed, rfl⟩ := mem_oneOf.mp first
    exact ⟨List.cons_ne_nil c more, List.forall_mem_cons.mpr ⟨isDigit_iff.mp listed, rest⟩⟩
  · rintro ⟨some, all⟩
    obtain ⟨c, more, rfl⟩ := List.exists_cons_of_ne_nil some
    obtain ⟨first, rest⟩ := List.forall_mem_cons.mp all
    exact ⟨[c], more, rfl, mem_oneOf.mpr ⟨c, isDigit_iff.mpr first, rfl⟩, rest⟩

theorem mem_point : t ∈ point.matches' ↔ t = ['.'] := Iff.rfl

theorem mem_sign : t ∈ sign.matches' ↔ ∃ c, isSign c = true ∧ t = [c] := by
  simp [sign, mem_oneOf, isSign]

theorem mem_mark : t ∈ mark.matches' ↔ ∃ c, isExponentMark c = true ∧ t = [c] := by
  simp [mark, mem_oneOf, isExponentMark]

theorem mem_mantissa : t ∈ mantissa.matches' ↔ Decimal.Pointed t := by
  simp only [mantissa, RegularExpression.matches'_add, Language.mem_add, mem_mul, mem_optional,
    mem_digits, mem_run, mem_point]
  constructor
  · rintro (⟨_, fraction, rfl, ⟨whole, _, rfl, ⟨some, left⟩, pointed⟩, right⟩ |
      ⟨_, fraction, rfl, rfl, some, right⟩)
    · have all := List.forall_mem_append.mpr ⟨left, right⟩
      have some := List.append_ne_nil_of_left_ne_nil some fraction
      rcases pointed with rfl | rfl
      · simpa using Decimal.Pointed.whole some all
      · simpa using Decimal.Pointed.point some all
    · exact @Decimal.Pointed.point [] fraction some right
  · intro pointed
    cases pointed with
    | whole some all =>
      exact .inl ⟨t, [], by simp, ⟨t, [], by simp, ⟨some, all⟩, .inl rfl⟩, by simp⟩
    | @point whole fraction some all =>
      obtain ⟨left, right⟩ := List.forall_mem_append.mp all
      by_cases none : whole = []
      · subst none
        exact .inr ⟨['.'], fraction, rfl, rfl, some, right⟩
      · exact .inl ⟨whole ++ ['.'], fraction, by simp, ⟨whole, ['.'], rfl, ⟨none, left⟩, .inr rfl⟩,
          right⟩

end Number

open Number

/-- An optional sign, digits with at most one point among them, and an optional exponent behind its
mark. -/
def number : RegularExpression Char := optional sign * mantissa * optional (mark * exponent)

/-! The test for numbers follows the parts of the expression. -/

theorem exists_sign (t : Text) : ∃ s, s ∈ (optional sign).matches' ∧ t = s ++ dropSign t := by
  cases t with
  | nil => exact ⟨[], mem_optional.mpr (.inl rfl), rfl⟩
  | cons c t =>
    by_cases signed : isSign c = true
    · have member : [c] ∈ (optional sign).matches' :=
        mem_optional.mpr (.inr (mem_sign.mpr ⟨c, signed, rfl⟩))
      exact ⟨[c], member, by simp [dropSign, signed]⟩
    · exact ⟨[], mem_optional.mpr (.inl rfl), by simp [dropSign, signed]⟩

theorem dropSign_append (signed : s ∈ (optional sign).matches')
    (first : ∀ c, t.head? = some c → isSign c = false) : dropSign (s ++ t) = t := by
  rcases mem_optional.mp signed with rfl | signed
  · cases t with
    | nil => rfl
    | cons c t => simp [dropSign, first c rfl]
  · obtain ⟨c, here, rfl⟩ := mem_sign.mp signed
    simp [dropSign, here]

theorem isExponent_iff (t : Text) : isExponent t = true ↔ t ∈ exponent.matches' := by
  simp only [isExponent, exponent, mem_mul, mem_digits, Bool.and_eq_true, Bool.not_eq_true',
    List.isEmpty_eq_false_iff, List.all_eq_true]
  constructor
  · rintro ⟨some, all⟩
    obtain ⟨s, signed, whole⟩ := exists_sign t
    exact ⟨s, dropSign t, whole, signed, some, all⟩
  · rintro ⟨s, run, rfl, signed, some, all⟩
    have first : ∀ c, run.head? = .some c → isSign c = false :=
      fun c head => isSign_of_isDigit (all c (List.mem_of_mem_head? head))
    rw [dropSign_append signed first]
    exact ⟨some, all⟩

theorem mem_power : t ∈ (optional (mark * exponent)).matches' ↔
    t = [] ∨ ∃ c e, t = c :: e ∧ isExponentMark c = true ∧ isExponent e = true := by
  simp only [mem_optional, mem_mul, mem_mark, isExponent_iff]
  constructor
  · rintro (rfl | ⟨_, e, rfl, ⟨c, marked, rfl⟩, power⟩)
    · exact .inl rfl
    · exact .inr ⟨c, e, rfl, marked, power⟩
  · rintro (rfl | ⟨c, e, rfl, marked, power⟩)
    · exact .inl rfl
    · exact .inr ⟨[c], e, rfl, ⟨c, marked, rfl⟩, power⟩

theorem mem_number : t ∈ number.matches' ↔ ∃ s m e, t = s ++ (m ++ e) ∧
    s ∈ (optional sign).matches' ∧ Decimal.Pointed m ∧
    e ∈ (optional (mark * exponent)).matches' := by
  simp only [number, mem_mul (p := optional sign * mantissa), mem_mul (p := optional sign),
    mem_mantissa]
  constructor
  · rintro ⟨_, e, rfl, ⟨s, m, rfl, signed, middle⟩, power⟩
    exact ⟨s, m, e, List.append_assoc .., signed, middle, power⟩
  · rintro ⟨s, m, e, rfl, signed, middle, power⟩
    exact ⟨s ++ m, e, (List.append_assoc ..).symm, ⟨s, m, rfl, signed, middle⟩, power⟩

/-- Neither a sign nor a mark is found among digits and points. -/
theorem pointed_plain (pointed : Decimal.Pointed t) (member : c ∈ t) :
    isExponentMark c = false ∧ isSign c = false := by
  rcases pointed.mem member with digit | rfl
  · exact ⟨isExponentMark_of_isDigit digit, isSign_of_isDigit digit⟩
  · exact ⟨rfl, rfl⟩

/-- Behind digits and points the first mark is the one that the exponent begins with. -/
theorem span_mark (middle : Decimal.Pointed m) (power : e ∈ (optional (mark * exponent)).matches') :
    (m ++ e).takeWhile (!isExponentMark ·) = m ∧ (m ++ e).dropWhile (!isExponentMark ·) = e := by
  have unmarked : ∀ c ∈ m, (!isExponentMark c) = true := fun c member => by
    simp [(pointed_plain middle member).1]
  refine span_seam (!isExponentMark ·) unmarked fun d head => ?_
  rcases mem_power.mp power with rfl | ⟨c, e, rfl, marked, _⟩
  · cases head
  · obtain rfl := Option.some.inj head
    simp [marked]

/-- The test takes what the expression matches. -/
theorem isNumeral_iff (t : Text) : isNumeral t = true ↔ t ∈ number.matches' := by
  rw [mem_number]
  constructor
  · intro numeral
    simp only [isNumeral, Bool.and_eq_true, isMantissa_iff] at numeral
    obtain ⟨middle, power⟩ := numeral
    obtain ⟨s, signed, whole⟩ := exists_sign t
    refine ⟨s, (dropSign t).takeWhile (!isExponentMark ·),
      (dropSign t).dropWhile (!isExponentMark ·), ?_, signed, middle, mem_power.mpr ?_⟩
    · rw [List.takeWhile_append_dropWhile, ← whole]
    · cases rest : (dropSign t).dropWhile (!isExponentMark ·) with
      | nil => exact .inl rfl
      | cons c e =>
        have marked := head?_dropWhile (!isExponentMark ·) (dropSign t) c (by rw [rest]; rfl)
        rw [rest] at power
        exact .inr ⟨c, e, rfl, by simpa using marked, power⟩
  · rintro ⟨s, m, e, rfl, signed, middle, power⟩
    have first : ∀ c, (m ++ e).head? = some c → isSign c = false := fun c head =>
      (pointed_plain middle (mem_of_head?_append middle.ne_nil head)).2
    have known := (isMantissa_iff m).mpr middle
    obtain ⟨run, behind⟩ := span_mark middle power
    simp only [isNumeral, dropSign_append signed first, run, behind, known, Bool.true_and]
    rcases mem_power.mp power with rfl | ⟨c, e, rfl, _, digits⟩
    · rfl
    · exact digits

example : isNumeral "-.5E+3".toList = true ∧ isNumeral "1e5e5".toList = false := by decide

/-! Cells of numbers write words of the expression too. -/

theorem mem_number_of_pointed (negative : Bool) (pointed : Decimal.Pointed t) :
    (if negative then ['-'] else []) ++ t ∈ number.matches' := by
  refine mem_number.mpr ⟨_, t, [], by rw [List.append_nil], ?_, pointed, mem_power.mpr (.inl rfl)⟩
  cases negative with
  | false => exact mem_optional.mpr (.inl rfl)
  | true => exact mem_optional.mpr (.inr (mem_sign.mpr ⟨'-', rfl, rfl⟩))

theorem ofInt_mem_number (n : Int) : Decimal.ofInt n ∈ number.matches' := by
  cases n with
  | ofNat n => exact mem_number_of_pointed false (Decimal.pointed_ofNat n)
  | negSucc n => exact mem_number_of_pointed true (Decimal.pointed_ofNat (n + 1))

theorem text_mem_number (finite : x.isFinite = true) : Binary64.text x ∈ number.matches' := by
  cases x with
  | infinite => cases finite
  | nan => cases finite
  | finite negative significand scale =>
    exact mem_number_of_pointed negative (Decimal.pointed_magnitudeText significand scale)

/-! Strings. -/

/-- Every quote and backslash stands behind a backslash that belongs to it. -/
inductive Escaped : Text → Prop where
  | nil : Escaped []
  | plain : c ≠ '\'' → c ≠ '\\' → Escaped t → Escaped (c :: t)
  | pair : c = '\'' ∨ c = '\\' → Escaped t → Escaped ('\\' :: c :: t)

/-- An escaped body between single quotes. -/
def Quoted (t : Text) : Prop := ∃ body, t = '\'' :: (body ++ ['\'']) ∧ Escaped body

theorem escaped_flatMap (s : Text) : Escaped (s.flatMap escape) := by
  induction s with
  | nil => exact .nil
  | cons c s ih =>
    by_cases special : c = '\'' ∨ c = '\\'
    · simpa [escape, special] using Escaped.pair special ih
    · obtain ⟨quote, backslash⟩ := not_or.mp special
      simpa [escape, special] using Escaped.plain quote backslash ih

theorem quoted_quote (s : Text) : Quoted (quote s) := ⟨_, rfl, escaped_flatMap s⟩

theorem not_quoted_of_number (member : t ∈ number.matches') : ¬Quoted t := by
  rintro ⟨body, rfl, _⟩
  have chars := (isNumeral_number ((isNumeral_iff _).mpr member)).2
  exact absurd (chars '\'' List.mem_cons_self) (by decide)

theorem encode_number (member : trim s ∈ number.matches') : encode s = trim s :=
  if_pos ((isNumeral_iff _).mpr member)

theorem encode_string (other : trim s ∉ number.matches') : encode s = quote s :=
  if_neg fun numeral => other ((isNumeral_iff _).mp numeral)

theorem encode_spelled (s : Text) : encode s ∈ number.matches' ∨ Quoted (encode s) := by
  by_cases member : trim s ∈ number.matches'
  · left
    rwa [encode_number member]
  · right
    rw [encode_string member]
    exact quoted_quote s

theorem not_quoted_encode_iff (s : Text) : ¬Quoted (encode s) ↔ trim s ∈ number.matches' := by
  constructor
  · intro unquoted
    by_contra other
    rw [encode_string other] at unquoted
    exact unquoted (quoted_quote s)
  · intro member
    rw [encode_number member]
    exact not_quoted_of_number member

theorem quoted_encode_iff (s : Text) : Quoted (encode s) ↔ isNumeral (trim s) = false := by
  rw [← Bool.not_eq_true, isNumeral_iff, ← not_quoted_encode_iff, not_not]

/-- A value is a number or a string. -/
theorem ofCell_spelled (cell : Cell) : ∀ v ∈ ofCell cell, v ∈ number.matches' ∨ Quoted v := by
  intro v member
  cases cell with
  | null => cases member
  | integer n =>
    obtain rfl := List.mem_singleton.mp member
    exact .inl (ofInt_mem_number n.toInt)
  | float x =>
    by_cases finite : x.isFinite = true
    · rw [ofCell, if_pos finite] at member
      obtain rfl := List.mem_singleton.mp member
      exact .inl (text_mem_number finite)
    · rw [ofCell, if_neg finite] at member
      cases member
  | text s =>
    by_cases comma : ',' ∈ s
    · rw [ofCell, if_pos comma] at member
      obtain ⟨piece, _, rfl⟩ := List.mem_map.mp member
      exact encode_spelled piece
    · rw [ofCell, if_neg comma] at member
      obtain rfl := List.mem_singleton.mp member
      exact encode_spelled s

/-- A character that can stand in a query without quotes around it: no white space, no comma, no
parenthesis, no quote, and of the letters only the marks of an exponent. -/
structure Harmless (c : Char) : Prop where
  ascii : c.toNat < 128
  blank : isBlank c = false
  comma : c ≠ ','
  opening : c ≠ '('
  closing : c ≠ ')'
  quote : isQuote c = false
  letter : c.isAlpha = true → c = 'e' ∨ c = 'E'

theorem harmless_of_number (member : t ∈ number.matches') : ∀ c ∈ t, Harmless c := by
  have all : ∀ c ∈ numberChars, c.toNat < 128 ∧ isBlank c = false ∧ c ≠ ',' ∧ c ≠ '(' ∧ c ≠ ')' ∧
      isQuote c = false ∧ (c.isAlpha = true → c = 'e' ∨ c = 'E') := by
    simp [numberChars, isBlank, isQuote]
  intro c inside
  obtain ⟨ascii, blank, comma, opening, closing, quote, letter⟩ :=
    all c ((isNumeral_number ((isNumeral_iff t).mpr member)).2 c inside)
  exact ⟨ascii, blank, comma, opening, closing, quote, letter⟩

/-- The literal of a text is bare exactly if a number is left of the text without the white space
around it. It is then that number, and is its own literal. Whatever cells the values of rows come
from, each is a number or an escaped string, and the bare ones are made of harmless characters. -/
theorem encode_bare_iff :
    (∀ s : Text, (¬Quoted (encode s) ↔ trim s ∈ number.matches') ∧
      (¬Quoted (encode s) → encode s = trim s ∧ encode (encode s) = encode s)) ∧
    ∀ table : Table, ∀ v ∈ ofTable table, (v ∈ number.matches' ∨ Quoted v) ∧
      (¬Quoted v → ∀ c ∈ v, Harmless c) := by
  constructor
  · intro s
    refine ⟨not_quoted_encode_iff s, fun unquoted => ?_⟩
    have member := (not_quoted_encode_iff s).mp unquoted
    have whole := encode_number member
    have again : trim (trim s) = trim s :=
      ListTest.trim_eq fun c inside => (harmless_of_number member c inside).blank
    rw [← again] at member
    refine ⟨whole, ?_⟩
    rw [whole, encode_number member, again]
  · intro table v member
    obtain ⟨cell, _, member⟩ := List.mem_flatMap.mp member
    have spelled := ofCell_spelled cell v member
    exact ⟨spelled, fun unquoted => harmless_of_number (spelled.resolve_right unquoted)⟩

/-- A number of each kind of cell, and a name. -/
def assorted : Table :=
  .ofRows [[(['a'], .integer (-7))], [(['a'], .float (.zero true))],
    [(['a'], .text "O'Brien, .5e1".toList)]]

/-- A number between white space that is not ASCII, and values of all kinds. -/
theorem encode_bare_iff_assorted :
    ¬Quoted (encode "\u2003+2.5E-3\u3000".toList) ∧
      trim "\u2003+2.5E-3\u3000".toList ∈ number.matches' ∧
      encode "\u2003+2.5E-3\u3000".toList = "+2.5E-3".toList ∧
      encode "+2.5E-3".toList = "+2.5E-3".toList ∧
      ofTable assorted =
        ["-7".toList, "-0".toList, "'O\\'Brien'".toList, ".5e1".toList] ∧
      Quoted "'O\\'Brien'".toList ∧ ¬Quoted ".5e1".toList ∧ ∀ c ∈ ".5e1".toList, Harmless c := by
  obtain ⟨texts, values⟩ := encode_bare_iff
  have whole : encode "\u2003+2.5E-3\u3000".toList = "+2.5E-3".toList := by decide +kernel
  have bare : ¬Quoted (encode "\u2003+2.5E-3\u3000".toList) := by
    rw [whole]
    rintro ⟨_, eq, _⟩
    cases eq
  obtain ⟨unquoted, kept⟩ := texts "\u2003+2.5E-3\u3000".toList
  have again := (kept bare).2
  rw [whole] at again
  have listed : ofTable assorted =
      ["-7".toList, "-0".toList, "'O\\'Brien'".toList, ".5e1".toList] := by decide +kernel
  have plain : ¬Quoted ".5e1".toList := by
    rintro ⟨_, eq, _⟩
    cases eq
  have member : ".5e1".toList ∈ ofTable assorted := by simp [listed]
  exact ⟨bare, unquoted.mp bare, whole, again, listed, quoted_quote "O'Brien".toList, plain,
    (values assorted _ member).2 plain⟩

end Literal
end Subselect
