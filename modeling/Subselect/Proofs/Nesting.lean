import Subselect.Query.Outline

/-! The outlines that reading gives: a parenthesis left among the ordinary characters has no
partner. Such an outline is read back from its own glyphs. -/
namespace Subselect.Outline

open Text

/-- The single parentheses that may be left. -/
inductive Level where
  | none
  | opening
  /-- Closing ones too, in front of the opening ones. -/
  | any
  deriving DecidableEq, Repr

inductive Fits : Level → Outline → Prop where
  | nil : Fits level nil
  | leaf : g ≠ .plain '(' → (g = .plain ')' → level = .any) → Fits level rest →
      Fits level (leaf g rest)
  | opening : level ≠ .none → Fits .opening rest → Fits level (leaf (.plain '(') rest)
  | group : Fits .none body → Fits level rest → Fits level (group body rest)

theorem no_closing {g : Glyph} {level : Level} (h : g = .plain ')' → level = .any)
    (other : level ≠ .any) : g ≠ .plain ')' := fun eq => other (h eq)

theorem Fits.weaken (h : Fits level o) (closed : level = .none) : Fits other o := by
  induction h with
  | nil => exact .nil
  | leaf opening closing _ ih =>
    have closing := no_closing closing (by simp [closed])
    exact .leaf opening (fun eq => absurd eq closing) (ih closed)
  | opening left => exact absurd closed left
  | group body _ _ ih => exact .group body (ih closed)

theorem Fits.append (a : Fits level x) (closed : level = .none) (b : Fits other y) :
    Fits other (x.append y) := by
  induction a with
  | nil => exact b
  | leaf opening closing _ ih =>
    have closing := no_closing closing (by simp [closed])
    exact .leaf opening (fun eq => absurd eq closing) (ih closed)
  | opening left => exact absurd closed left
  | group body _ _ ih => exact .group body (ih closed)

@[simp] theorem append_nil (o : Outline) : o.append nil = o := by
  induction o with
  | nil => rfl
  | leaf g rest ih => simp [append, ih]
  | group body rest _ ih => simp [append, ih]

/-! Reading what fits gives it back. -/

theorem Fits.foldr_step_none (h : Fits level o) (closed : level = .none) (r : Reading) :
    o.glyphs.foldr Reading.step r = ⟨o.append r.here, r.waiting⟩ := by
  induction h generalizing r with
  | nil => rfl
  | leaf opening closing _ ih =>
    have closing := no_closing closing (by simp [closed])
    simp [glyphs, ih closed, Reading.step, opening, closing, Outline.append]
  | opening left => exact absurd closed left
  | group _ _ ihBody ihRest =>
    simp [glyphs, ihBody rfl, ihRest closed, Reading.step, Outline.append]

theorem Fits.foldr_step_opening (h : Fits level o) (left : level = .opening) (here : Outline) :
    o.glyphs.foldr Reading.step ⟨here, []⟩ = ⟨o.append here, []⟩ := by
  induction h with
  | nil => rfl
  | leaf opening closing _ ih =>
    have closing := no_closing closing (by simp [left])
    simp [glyphs, ih left, Reading.step, opening, closing, Outline.append]
  | opening _ _ ih => simp [glyphs, ih rfl, Reading.step, Outline.append]
  | group body _ _ ih =>
    simp [glyphs, ih left, body.foldr_step_none rfl, Reading.step, Outline.append]

theorem Fits.ofGlyphs_glyphs (h : Fits level o) (any : level = .any) : ofGlyphs o.glyphs = o := by
  induction h with
  | nil => rfl
  | opening _ rest =>
    simp [ofGlyphs, read, glyphs, rest.foldr_step_opening rfl, Reading.step, join]
  | @leaf g _ rest opening _ _ ih =>
    have ih := ih any
    simp only [ofGlyphs, read, glyphs, List.foldr_cons] at ih ⊢
    generalize rest.glyphs.foldr Reading.step ⟨.nil, []⟩ = r at ih ⊢
    by_cases closing : g = .plain ')'
    · simp [Reading.step, closing, join, Outline.append, ih]
    · cases h : r.waiting <;> simp_all [Reading.step, join, Outline.append]
  | @group body _ rest closed _ _ ih =>
    have ih := ih any
    simp only [ofGlyphs, read, glyphs, List.foldr_cons, List.foldr_append] at ih ⊢
    generalize rest.glyphs.foldr Reading.step ⟨.nil, []⟩ = r at ih ⊢
    rw [closed.foldr_step_none rfl]
    cases h : r.waiting <;> simp_all [Reading.step, join, Outline.append]

/-! What is read fits. -/

/-- Of the outlines that wait for an opening parenthesis only the last may keep one. -/
inductive Sound : Outline → List Outline → Prop where
  | last : Fits .opening here → Sound here []
  | more : Fits .none here → Sound after waiting → Sound here (after :: waiting)

theorem Sound.step (g : Glyph) (h : Sound r.here r.waiting) :
    Sound (Reading.step g r).here (Reading.step g r).waiting := by
  obtain ⟨here, waiting⟩ := r
  by_cases closing : g = .plain ')'
  · simpa [Reading.step, closing] using Sound.more .nil h
  by_cases opening : g = .plain '('
  · subst opening
    cases h with
    | last fits => exact .last (.opening (by decide) fits)
    | more closed rest =>
      cases rest with
      | last fits => exact .last (.group closed fits)
      | more next rest => exact .more (.group closed next) rest
  · simp only [Reading.step, opening, closing, if_false]
    have never {level : Level} : g = .plain ')' → level = .any := fun eq => absurd eq closing
    cases h with
    | last fits => exact .last (.leaf opening never fits)
    | more closed rest => exact .more (.leaf opening never closed) rest

theorem sound_read (gs : List Glyph) : Sound (read gs).here (read gs).waiting := by
  induction gs with
  | nil => exact .last .nil
  | cons g gs ih => exact ih.step g

theorem Fits.any (h : Fits level o) (left : level = .opening) : Fits .any o := by
  induction h with
  | nil => exact .nil
  | leaf opening _ _ ih => exact .leaf opening (fun _ => rfl) (ih left)
  | opening _ rest => exact .opening (by decide) rest
  | group body _ _ ih => exact .group body (ih left)

theorem Sound.join_fits (h : Sound here waiting) : Fits .any (join here waiting) := by
  induction h with
  | last fits => exact fits.any rfl
  | more closed _ ih => exact closed.append rfl (.leaf (by simp) (fun _ => rfl) ih)

theorem fits_ofText (t : Text) : Fits .any (ofText t) := (sound_read (Text.glyphs t)).join_fits

theorem glyphs_ofText (t : Text) : (ofText t).glyphs = Text.glyphs t := glyphs_ofGlyphs _

end Subselect.Outline
