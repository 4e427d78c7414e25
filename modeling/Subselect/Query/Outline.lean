import Subselect.Text.Quoted

/-! The parenthesis structure of a query. Only parentheses outside quoted literals count; one
without a partner is an ordinary character. A text is read from its right end, so that the
siblings to the right of a parenthesis are known when it is met. -/
namespace Subselect

open Text

inductive Outline where
  | nil
  | leaf (glyph : Glyph) (rest : Outline)
  | group (body rest : Outline)
  deriving DecidableEq, Repr

namespace Outline

/-- Puts the text of an outline in front of another text. -/
def prepend : Outline → Text → Text
  | nil, after => after
  | leaf glyph rest, after => glyph.char :: rest.prepend after
  | group body rest, after => '(' :: body.prepend (')' :: rest.prepend after)

def text (outline : Outline) : Text := outline.prepend []

theorem prepend_eq (outline : Outline) (after : Text) :
    outline.prepend after = outline.text ++ after := by
  suffices h : ∀ t, outline.prepend (t ++ after) = outline.prepend t ++ after from h []
  induction outline with
  | nil => exact fun t => rfl
  | leaf glyph rest ih => exact fun t => congrArg (glyph.char :: ·) (ih t)
  | group body rest ihBody ihRest =>
    intro t
    simp only [prepend, ihRest]
    exact congrArg ('(' :: ·) (ihBody (')' :: rest.prepend t))

@[simp] theorem text_nil : nil.text = [] := rfl

@[simp] theorem text_leaf (glyph : Glyph) (rest : Outline) :
    (leaf glyph rest).text = glyph.char :: rest.text := rfl

@[simp] theorem text_group (body rest : Outline) :
    (group body rest).text = '(' :: (body.text ++ ')' :: rest.text) :=
  congrArg ('(' :: ·) (prepend_eq body (')' :: rest.text))

def append : Outline → Outline → Outline
  | nil, other => other
  | leaf glyph rest, other => leaf glyph (rest.append other)
  | group body rest, other => group body (rest.append other)

@[simp] theorem text_append (a b : Outline) : (a.append b).text = a.text ++ b.text := by
  induction a with
  | nil => rfl
  | leaf glyph rest ih => simp [append, ih]
  | group body rest _ ih => simp [append, ih]

/-- How far a text is read: the siblings read at the current depth, and for each closing
parenthesis that still lacks its opening one, what comes after it. -/
structure Reading where
  here : Outline
  waiting : List Outline

def Reading.step (glyph : Glyph) (r : Reading) : Reading :=
  if glyph = .plain ')' then ⟨nil, r.here :: r.waiting⟩
  else if glyph = .plain '(' then
    match r.waiting with
    | [] => ⟨leaf glyph r.here, []⟩
    | after :: more => ⟨group r.here after, more⟩
  else ⟨leaf glyph r.here, r.waiting⟩

/-- A closing parenthesis that found no partner becomes an ordinary character. -/
def join : Outline → List Outline → Outline
  | here, [] => here
  | here, after :: more => here.append (leaf (.plain ')') (join after more))

def read (glyphs : List Glyph) : Reading := glyphs.foldr Reading.step ⟨nil, []⟩

def ofGlyphs (glyphs : List Glyph) : Outline :=
  join (read glyphs).here (read glyphs).waiting

def ofText (t : Text) : Outline := ofGlyphs (glyphs t)

/-- The characters of an outline with their quoting, parentheses included. -/
def glyphs : Outline → List Glyph
  | nil => []
  | leaf glyph rest => glyph :: rest.glyphs
  | group body rest => .plain '(' :: (body.glyphs ++ .plain ')' :: rest.glyphs)

@[simp] theorem map_char_glyphs (outline : Outline) :
    outline.glyphs.map Glyph.char = outline.text := by
  induction outline with
  | nil => rfl
  | leaf glyph rest ih => simp [glyphs, ih]
  | group body rest ihBody ihRest => simp [glyphs, ihBody, ihRest]

@[simp] theorem glyphs_append (a b : Outline) : (a.append b).glyphs = a.glyphs ++ b.glyphs := by
  induction a with
  | nil => rfl
  | leaf glyph rest ih => simp [append, glyphs, ih]
  | group body rest _ ih => simp [append, glyphs, ih]

theorem glyphs_join (here : Outline) (waiting : List Outline) :
    (join here waiting).glyphs =
      here.glyphs ++ waiting.flatMap fun after => .plain ')' :: after.glyphs := by
  induction waiting generalizing here with
  | nil => simp [join]
  | cons after more ih => simp [join, glyphs, ih]

@[simp] theorem glyphs_ofGlyphs (gs : List Glyph) : (ofGlyphs gs).glyphs = gs := by
  rw [ofGlyphs, glyphs_join]
  induction gs with
  | nil => rfl
  | cons glyph gs ih =>
    simp only [read, List.foldr_cons] at ih ⊢
    generalize List.foldr Reading.step ⟨nil, []⟩ gs = r at ih ⊢
    rw [← ih]
    by_cases close : glyph = .plain ')'
    · simp [Reading.step, glyphs, close]
    · by_cases opening : glyph = .plain '('
      · cases h : r.waiting with
        | nil => simp [Reading.step, glyphs, opening, h]
        | cons after more => simp [Reading.step, glyphs, opening, h]
      · simp [Reading.step, glyphs, close, opening]

@[simp] theorem text_ofGlyphs (gs : List Glyph) : (ofGlyphs gs).text = gs.map Glyph.char := by
  rw [← map_char_glyphs, glyphs_ofGlyphs]

@[simp] theorem text_ofText (t : Text) : (ofText t).text = t := by
  simp [ofText]

end Outline
end Subselect
