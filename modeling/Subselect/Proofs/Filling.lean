import Subselect.Proofs.Lead
import Subselect.Proofs.Nesting

/-! The parenthesis structure of a literal. It can stand in the place of a group: it is read as
written, leaves no parenthesis without a partner, holds no sub-select, and ends with a character
that no keyword or operator has. -/
namespace Subselect

open Text

namespace Context

/-- What a replacement holds behind its keyword or operator and a space. -/
def literal (values : List Text) : Context → Text
  | list _ => Literal.list values
  | scalar _ => Literal.scalar values

theorem replacement_eq (values : List Text) (context : Context) :
    context.replacement values = context.head ++ ' ' :: context.literal values := by
  cases context <;> rfl

end Context

namespace Outline

/-- Puts ordinary characters in front of an outline. -/
def leaves : List Glyph → Outline → Outline
  | [], rest => rest
  | g :: gs, rest => leaf g (leaves gs rest)

/-- What lies before the right neighbour of ordinary characters, backwards. -/
def beyond (before : Text) (gs : List Glyph) : Text := (gs.map Glyph.char).reverse ++ before

@[simp] theorem beyond_nil (before : Text) : beyond before [] = before := rfl

@[simp] theorem beyond_cons (before : Text) (g : Glyph) (gs : List Glyph) :
    beyond before (g :: gs) = beyond (g.char :: before) gs := by simp [beyond]

@[simp] theorem beyond_append (before : Text) (gs more : List Glyph) :
    beyond before (gs ++ more) = beyond (beyond before gs) more := by simp [beyond]

theorem size_beyond (before : Text) (gs : List Glyph) :
    size (beyond before gs) = size before + size (gs.map Glyph.char) := by
  simp [beyond, Nat.add_comm]

theorem dropWhile_beyond (blank : ∀ g ∈ gs, isBlank g.char = true) (before : Text) :
    (beyond before gs).dropWhile isBlank = before.dropWhile isBlank := by
  rw [beyond, List.dropWhile_append_of_pos]
  simpa using blank

theorem takeWhile_beyond (blank : ∀ g ∈ gs, isBlank g.char = true)
    (first : before.dropWhile isBlank = before) :
    (beyond before gs).takeWhile isBlank = (gs.map Glyph.char).reverse := by
  have whole := List.takeWhile_append_dropWhile (p := isBlank) (l := beyond before gs)
  rw [dropWhile_beyond blank, first, beyond] at whole
  exact List.append_cancel_right whole

@[simp] theorem text_leaves (gs : List Glyph) (rest : Outline) :
    (leaves gs rest).text = gs.map Glyph.char ++ rest.text := by
  induction gs with
  | nil => rfl
  | cons g gs ih => simp [leaves, ih]

@[simp] theorem glyphs_leaves (gs : List Glyph) (rest : Outline) :
    (leaves gs rest).glyphs = gs ++ rest.glyphs := by
  induction gs with
  | nil => rfl
  | cons g gs ih => simp [leaves, glyphs, ih]

@[simp] theorem innermost_leaves (before : Text) (gs : List Glyph) (rest : Outline) :
    (leaves gs rest).innermost before = rest.innermost (beyond before gs) := by
  induction gs generalizing before with
  | nil => rfl
  | cons g gs ih => simp [leaves, innermost, ih]

@[simp] theorem recognised_leaves (before : Text) (gs : List Glyph) (rest : Outline) :
    (leaves gs rest).recognised before = rest.recognised (beyond before gs) := by
  induction gs generalizing before with
  | nil => rfl
  | cons g gs ih => simp [leaves, recognised, ih]

theorem leaves_append (gs more : List Glyph) (rest : Outline) :
    leaves (gs ++ more) rest = leaves gs (leaves more rest) := by
  induction gs with
  | nil => rfl
  | cons g gs ih => simp [leaves, ih]

theorem append_leaves (gs : List Glyph) (rest other : Outline) :
    (leaves gs rest).append other = leaves gs (rest.append other) := by
  induction gs with
  | nil => rfl
  | cons g gs ih => simp [leaves, append, ih]

theorem Fits.leaves (opening : .plain '(' ∉ gs) (closing : .plain ')' ∉ gs)
    (rest : Fits level o) : Fits level (leaves gs o) := by
  induction gs with
  | nil => exact rest
  | cons g gs ih =>
    simp only [List.mem_cons, not_or] at opening closing
    exact .leaf (Ne.symm opening.1) (fun eq => absurd eq.symm closing.1) (ih opening.2 closing.2)

theorem Fits.of_leaves (h : Fits level (Outline.leaves gs o))
    (blank : ∀ g ∈ gs, isBlank g.char = true) : Fits level o := by
  induction gs with
  | nil => exact h
  | cons g gs ih =>
    have rest := fun g' member => blank g' (List.mem_cons_of_mem g member)
    cases h with
    | leaf _ _ h => exact ih h rest
    | opening => exact absurd (blank (.plain '(') (by simp)) (by simp)

/-- What an outline has to be to stand in the place of a group. -/
structure IsFilling (o : Outline) : Prop where
  reads : Mode.Reads .outside o.glyphs .outside
  fits : Fits .none o
  recognised : ∀ before, o.recognised before = []
  ends : ∃ e t, o.text.reverse = e :: t ∧ e ∈ Literal.endChars

end Outline

namespace Literal

theorem isSelect_eq_false (blank : isBlank c = false) (other : c.toLower ≠ 's') :
    Site.isSelect (c :: t) = false := by
  simp only [Site.isSelect, trimStart, List.dropWhile_cons, blank, Bool.false_eq_true, if_false]
  rw [← Bool.not_eq_true, startsWithWord]
  intro keyword
  by_cases word : isWordChar c = true
  · rw [List.takeWhile_cons_of_pos word, alike] at keyword
    have first := (List.cons.inj (eq_of_beq keyword)).1
    exact other (first.symm.trans (by decide))
  · rw [List.takeWhile_cons_of_neg word] at keyword
    exact absurd keyword (by decide)

theorem Value.isSelect_append (h : Value v) (t : Text) : Site.isSelect (v ++ t) = false := by
  cases h with
  | string s => exact isSelect_eq_false (by decide) (by decide)
  | number some chars =>
    obtain ⟨c, v, rfl⟩ := List.exists_cons_of_ne_nil some
    have digits : ∀ c ∈ numberChars, isBlank c = false ∧ c.toLower ≠ 's' := by
      simp [numberChars, isBlank]
    obtain ⟨blank, other⟩ := digits c (chars c (by simp))
    exact isSelect_eq_false blank other

theorem isSelect_listBody (h : ∀ v ∈ values, Value v) :
    Site.isSelect (listBody values) = false := by
  match values with
  | [] => decide
  | [v] => simpa [listBody, join] using (h v (by simp)).isSelect_append []
  | v :: w :: more =>
    simpa [listBody, join] using
      (h v (by simp)).isSelect_append (',' :: ' ' :: join [',', ' '] (w :: more))

theorem Value.ends (h : Value v) : ∃ e t, v.reverse = e :: t ∧ e ∈ endChars := by
  cases h with
  | string s => exact ⟨_, _, by simp [quote]; exact ⟨rfl, rfl⟩, by decide⟩
  | number some chars =>
    obtain ⟨e, t, eq⟩ := List.exists_cons_of_ne_nil (List.reverse_ne_nil_iff.mpr some)
    exact ⟨e, t, eq, List.mem_append_left _ (chars e (List.mem_reverse.mp (eq ▸ by simp)))⟩

theorem scalar_ends (h : ∀ v ∈ values, Value v) :
    ∃ e t, (scalar values).reverse = e :: t ∧ e ∈ endChars := by
  cases values with
  | nil => exact ⟨'L', ['L', 'U', 'N'], rfl, by decide⟩
  | cons v more => exact (h v (by simp)).ends

end Literal

namespace Context

/-- The structure of a literal: a list is a group of its own. -/
def literalOutline (values : List Text) : Context → Outline
  | list _ => .group (Outline.leaves (Text.glyphs (Literal.listBody values)) .nil) .nil
  | scalar _ => Outline.leaves (Text.glyphs (Literal.scalar values)) .nil

@[simp] theorem text_literalOutline (values : List Text) (context : Context) :
    (context.literalOutline values).text = context.literal values := by
  cases context <;> simp [literalOutline, literal, Literal.list_eq]

/-- A literal of rows can stand in the place of its sub-select. -/
theorem isFilling_literalOutline (table : Table) (context : Context) :
    (context.literalOutline (Literal.ofTable table)).IsFilling := by
  have values := Literal.ofTable_value table
  cases context with
  | list keyword =>
    have body := Literal.listBody_inert values
    have closing : Mode.Reads .outside [.plain ')'] .outside := .cons rfl .nil
    refine ⟨?_, .group (.leaves body.opening body.closing .nil) .nil, fun before => ?_, ?_⟩
    · simpa [literalOutline, Outline.glyphs] using
        Mode.reads_plain (by decide) (body.reads.append closing)
    · simp [literalOutline, Outline.recognised, Site.recognise, Literal.isSelect_listBody values]
    · exact ⟨')', _, by simp [literalOutline]; rfl, by decide⟩
  | scalar op =>
    have inert := Literal.scalar_inert values
    refine ⟨?_, .leaves inert.opening inert.closing .nil, fun before => ?_, ?_⟩
    · simpa [literalOutline, Outline.glyphs] using inert.reads
    · simp [literalOutline, Outline.recognised]
    · simpa [literalOutline] using Literal.scalar_ends values

end Context
end Subselect
