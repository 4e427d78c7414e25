import Subselect.Literal
import Subselect.Proofs.Digits
import Subselect.Proofs.Scanning
import Subselect.Proofs.Seams

/-! The literals of rows, as text to be read again. A literal is a bare number or a quoted string;
read from outside literals, it ends outside them and leaves no parenthesis unquoted. -/
namespace Subselect

open Text

namespace Text

/-- Read from outside literals the text ends outside them, and none of its parentheses is
unquoted. -/
structure Inert (t : Text) : Prop where
  reads : Mode.Reads .outside (glyphs t) .outside
  opening : .plain '(' ∉ glyphs t
  closing : .plain ')' ∉ glyphs t

theorem glyphs_append (reads : Mode.Reads .outside (glyphs s) .outside) (t : Text) :
    glyphs (s ++ t) = glyphs s ++ glyphs t := by
  obtain ⟨final, rest⟩ := reads_glyphs t
  have both := glyphs_of_reads (reads.append rest)
  rwa [List.map_append, glyphs_char, glyphs_char] at both

namespace Inert

theorem nil : Inert [] := ⟨.nil, List.not_mem_nil, List.not_mem_nil⟩

theorem append (a : Inert s) (b : Inert t) : Inert (s ++ t) := by
  have eq := glyphs_append a.reads t
  refine ⟨eq ▸ a.reads.append b.reads, ?_, ?_⟩
  · simp [eq, a.opening, b.opening]
  · simp [eq, a.closing, b.closing]

theorem of_reads (reads : Mode.Reads .outside gs .outside) (opening : .plain '(' ∉ gs)
    (closing : .plain ')' ∉ gs) : Inert (gs.map Glyph.char) := by
  have same := glyphs_of_reads reads
  exact ⟨by rwa [same], by rwa [same], by rwa [same]⟩

theorem of_plain (h : ∀ c ∈ t, isQuote c = false ∧ c ≠ '(' ∧ c ≠ ')') : Inert t := by
  have reads : Mode.Reads .outside (t.map .plain) .outside := by
    induction t with
    | nil => exact .nil
    | cons c t ih =>
      exact Mode.reads_plain (h c (by simp)).1 (ih fun d member => h d (by simp [member]))
  have opening : Glyph.plain '(' ∉ t.map .plain := by
    intro member
    obtain ⟨c, member, eq⟩ := List.mem_map.mp member
    exact (h c member).2.1 (Glyph.plain.inj eq)
  have closing : Glyph.plain ')' ∉ t.map .plain := by
    intro member
    obtain ⟨c, member, eq⟩ := List.mem_map.mp member
    exact (h c member).2.2 (Glyph.plain.inj eq)
  simpa [Function.comp_def] using of_reads reads opening closing

/-- A join of inert texts by an inert separator. -/
theorem join (between : Inert separator) (h : ∀ t ∈ ts, Inert t) :
    Inert (join separator ts) := by
  fun_induction Text.join separator ts with
  | case1 => exact .nil
  | case2 t => exact h t (by simp)
  | case3 t more _ ih =>
    exact ((h t (by simp)).append between).append (ih fun s member => h s (by simp [member]))

end Inert
end Text

namespace Literal

/-- The characters numbers are written with. -/
def numberChars : Text :=
  ['0', '1', '2', '3', '4', '5', '6', '7', '8', '9', '+', '-', '.', 'e', 'E']

inductive Value : Text → Prop where
  | number : t ≠ [] → (∀ c ∈ t, c ∈ numberChars) → Value t
  | string (s : Text) : Value (quote s)

theorem mem_numberChars_of_isDigit (h : c.isDigit = true) : c ∈ numberChars := by
  have all : ∀ n < 10, Nat.digitChar n ∈ numberChars := by decide
  have listed := all _ (Decimal.digit_lt_ten h)
  rwa [Decimal.digitChar_value h] at listed

theorem mem_dropSign (h : c ∈ t) : c ∈ dropSign t ∨ isSign c = true := by
  cases t with
  | nil => simp at h
  | cons d t =>
    by_cases sign : isSign d = true
    · rcases List.mem_cons.mp h with rfl | h
      · exact .inr sign
      · exact .inl (by simpa [dropSign, sign] using h)
    · exact .inl (by simpa [dropSign, sign] using h)

theorem isSign_mem (h : isSign c = true) : c ∈ numberChars := by
  rcases (by simpa [isSign] using h : c = '+' ∨ c = '-') with rfl | rfl <;> decide

theorem isMantissa_iff (t : Text) : isMantissa t = true ↔ Decimal.Pointed t := by
  simp only [isMantissa, Bool.and_eq_true, List.all_eq_true, List.any_eq_true, Bool.or_eq_true,
    beq_iff_eq, decide_eq_true_eq]
  constructor
  · rintro ⟨⟨all, d, inside, digit⟩, few⟩
    have whole : t.takeWhile Char.isDigit ++ t.dropWhile Char.isDigit = t :=
      List.takeWhile_append_dropWhile
    have left : ∀ c ∈ t.takeWhile Char.isDigit, c.isDigit = true :=
      fun _ member => List.mem_takeWhile_imp member
    cases rest : t.dropWhile Char.isDigit with
    | nil =>
      rw [rest, List.append_nil] at whole
      exact .whole (List.ne_nil_of_mem inside) (whole ▸ left)
    | cons c fraction =>
      have other := head?_dropWhile Char.isDigit t c (by rw [rest]; rfl)
      rw [rest] at whole
      generalize t.takeWhile Char.isDigit = front at whole left
      subst whole
      obtain rfl : c = '.' := (all c (by simp)).resolve_left (by simp [other])
      have perm : (front ++ '.' :: fraction).Perm ('.' :: (front ++ fraction)) := List.perm_middle
      rw [perm.count_eq, List.count_cons_self] at few
      -- a second point would be one too many
      have absent : '.' ∉ front ++ fraction := List.count_eq_zero.mp (by omega)
      refine .point (List.ne_nil_of_mem (a := d) ?_) ?_
      · refine (List.mem_cons.mp (perm.mem_iff.mp inside)).resolve_left ?_
        rintro rfl
        cases digit
      · intro e member
        refine (all e (perm.mem_iff.mpr (List.mem_cons_of_mem _ member))).resolve_right ?_
        rintro rfl
        exact absent member
  · intro pointed
    refine ⟨⟨fun c member => pointed.mem member, ?_⟩, ?_⟩
    · cases pointed with
      | whole some digits =>
        obtain ⟨c, more, rfl⟩ := List.exists_cons_of_ne_nil some
        exact ⟨c, List.mem_cons_self, digits c List.mem_cons_self⟩
      | point some digits =>
        obtain ⟨c, inside⟩ := List.exists_mem_of_ne_nil _ some
        exact ⟨c, List.perm_middle.mem_iff.mpr (List.mem_cons_of_mem _ inside), digits c inside⟩
    · cases pointed with
      | whole some digits =>
        have absent : '.' ∉ t := fun member => nomatch digits '.' member
        simp [List.count_eq_zero_of_not_mem absent]
      | @point front fraction some digits =>
        have absent : '.' ∉ front ++ fraction := fun member => nomatch digits '.' member
        rw [List.perm_middle.count_eq, List.count_cons_self,
          List.count_eq_zero_of_not_mem absent]

theorem pointed_mem (pointed : Decimal.Pointed t) (member : c ∈ t) : c ∈ numberChars := by
  rcases pointed.mem member with digit | rfl
  · exact mem_numberChars_of_isDigit digit
  · decide

theorem isExponent_mem (h : isExponent t = true) (member : c ∈ t) : c ∈ numberChars := by
  simp only [isExponent, Bool.and_eq_true, List.all_eq_true] at h
  rcases mem_dropSign member with digit | sign
  · exact mem_numberChars_of_isDigit (h.2 c digit)
  · exact isSign_mem sign

theorem isNumeral_number (h : isNumeral t = true) : t ≠ [] ∧ ∀ c ∈ t, c ∈ numberChars := by
  simp only [isNumeral, Bool.and_eq_true] at h
  obtain ⟨mantissa, exponent⟩ := h
  constructor
  · rintro rfl
    simp [dropSign, isMantissa] at mantissa
  · intro c member
    rcases mem_dropSign member with member | sign
    · rw [← List.takeWhile_append_dropWhile (p := (!isExponentMark ·)) (l := dropSign t)] at member
      rcases List.mem_append.mp member with member | member
      · exact pointed_mem ((isMantissa_iff _).mp mantissa) member
      · cases mark : (dropSign t).dropWhile (!isExponentMark ·) with
        | nil => simp [mark] at member
        | cons e digits =>
          simp only [mark] at exponent member
          rcases List.mem_cons.mp member with rfl | member
          · have first := List.head?_dropWhile_not (!isExponentMark ·) (dropSign t)
            rw [mark] at first
            rcases (by simpa [isExponentMark, Decidable.or_iff_not_imp_left] using first :
                c = 'e' ∨ c = 'E') with rfl | rfl <;>
              decide
          · exact isExponent_mem exponent member
    · exact isSign_mem sign

theorem isNumeral_value (h : isNumeral t = true) : Value t :=
  .number (isNumeral_number h).1 (isNumeral_number h).2

theorem encode_value (s : Text) : Value (encode s) := by
  by_cases number : isNumeral (trim s) = true
  · simpa [encode, number] using isNumeral_value number
  · simpa [encode, number] using Value.string s

theorem ofNat_number (n : Nat) : Decimal.ofNat n ≠ [] ∧ ∀ c ∈ Decimal.ofNat n, c ∈ numberChars :=
  ⟨Decimal.ofNat_ne_nil n, fun _ member =>
    mem_numberChars_of_isDigit (Decimal.isDigit_of_mem_ofNat member)⟩

theorem ofInt_number (n : Int) : Decimal.ofInt n ≠ [] ∧ ∀ c ∈ Decimal.ofInt n, c ∈ numberChars := by
  cases n with
  | ofNat n => exact ofNat_number n
  | negSucc n =>
    refine ⟨List.cons_ne_nil _ _, fun c member => ?_⟩
    rcases List.mem_cons.mp member with rfl | member
    · decide
    · exact (ofNat_number (n + 1)).2 c member

theorem ofInt_value (n : Int) : Value (Decimal.ofInt n) :=
  .number (ofInt_number n).1 (ofInt_number n).2

theorem text_value (finite : x.isFinite = true) : Value (Binary64.text x) := by
  cases x with
  | infinite => simp [Binary64.isFinite] at finite
  | nan => simp [Binary64.isFinite] at finite
  | finite negative significand scale =>
    have magnitude := Decimal.pointed_magnitudeText significand scale
    refine .number (List.append_ne_nil_of_right_ne_nil _ magnitude.ne_nil) ?_
    intro c member
    rcases List.mem_append.mp member with sign | member
    · cases negative <;> simp at sign
      subst sign
      decide
    · exact pointed_mem magnitude member

theorem ofCell_value (cell : Cell) : ∀ v ∈ ofCell cell, Value v := by
  intro v member
  cases cell with
  | null => simp [ofCell] at member
  | integer n =>
    have same : v = Decimal.ofInt n.toInt := by simpa [ofCell] using member
    exact same ▸ ofInt_value n.toInt
  | float x =>
    by_cases finite : x.isFinite = true
    · have same : v = x.text := by simpa [ofCell, finite] using member
      exact same ▸ text_value finite
    · simp [ofCell, finite] at member
  | text s =>
    by_cases comma : ',' ∈ s
    · simp only [ofCell, comma, if_true, List.mem_map] at member
      obtain ⟨piece, _, rfl⟩ := member
      exact encode_value piece
    · have same : v = encode s := by simpa [ofCell, comma] using member
      exact same ▸ encode_value s

theorem ofTable_value (table : Table) : ∀ v ∈ ofTable table, Value v := by
  intro v member
  obtain ⟨cell, _, member⟩ := List.mem_flatMap.mp member
  exact ofCell_value cell v member

/-- Escaping keeps the automaton inside the literal. -/
theorem reads_escaped (s : Text) :
    Mode.Reads (.inside '\'') ((s.flatMap escape).map .quoted) (.inside '\'') := by
  induction s with
  | nil => exact .nil
  | cons c s ih =>
    rw [List.flatMap_cons, List.map_append]
    refine Mode.Reads.append ?_ ih
    by_cases special : c = '\'' ∨ c = '\\'
    · simp only [escape, special, if_true, List.map_cons, List.map_nil]
      exact .cons rfl (.cons rfl .nil)
    · have other : c ≠ '\'' ∧ c ≠ '\\' := by simpa using special
      simp only [escape, special, if_false, List.map_cons, List.map_nil]
      refine .cons rfl ?_
      rw [Glyph.char_quoted, Mode.step_within (by simp [other.2]) other.1]
      exact .nil

theorem quote_inert (s : Text) : Inert (quote s) := by
  have last : Mode.Reads (.inside '\'') [.quoted '\''] .outside := .cons rfl .nil
  have reads : Mode.Reads .outside ((quote s).map .quoted) .outside := by
    have body := (reads_escaped s).append last
    simpa [quote] using Mode.Reads.cons (g := .quoted '\'') (m := .outside) rfl body
  simpa [Function.comp_def] using Inert.of_reads reads (by simp) (by simp)

theorem Value.inert (h : Value t) : Inert t := by
  cases h with
  | number _ chars =>
    have plain : ∀ c ∈ numberChars, isQuote c = false ∧ c ≠ '(' ∧ c ≠ ')' := by
      simp [numberChars, isQuote]
    exact .of_plain fun c member => plain c (chars c member)
  | string s => exact quote_inert s

theorem null_inert : Inert null := .of_plain (by simp [null, isQuote])

theorem scalar_inert (h : ∀ v ∈ values, Value v) : Inert (scalar values) := by
  cases values with
  | nil => exact null_inert
  | cons v more => exact (h v (by simp)).inert

/-- What stands between the parentheses of a list. -/
def listBody (values : List Text) : Text := if values.isEmpty then null else join [',', ' '] values

theorem list_eq (values : List Text) : list values = '(' :: (listBody values ++ [')']) := by
  unfold list listBody
  split <;> rfl

theorem listBody_inert (h : ∀ v ∈ values, Value v) : Inert (listBody values) := by
  unfold listBody
  split
  · exact null_inert
  · exact .join (.of_plain (by simp [isQuote])) fun v member => (h v member).inert

end Literal
end Subselect
