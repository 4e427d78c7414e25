import Subselect.Text.Basic

/-! Quoted literals inside a query: strings in single or double quotes and identifiers in
backticks. `split` finds where a literal ends; `glyphs` tells the characters of literals from
the others. -/
namespace Subselect.Text

def isQuote (c : Char) : Bool := c == '\'' || c == '"' || c == '\x60'

/-- Inside backticks a backslash is an ordinary character. -/
def escapes (quote : Char) : Bool := quote != '\x60'

/-- Divides what follows an opening quote into the remainder of the literal, its closing quote
included, and what comes after. A doubled quote stays inside; without a closing quote the
literal takes the whole text. -/
def split (quote : Char) : Text → Text × Text
  | [] => ([], [])
  | [c] => ([c], [])
  | c :: d :: t =>
    if c = '\\' ∧ escapes quote = true then
      let (literal, rest) := split quote t
      (c :: d :: literal, rest)
    else if c = quote then
      if d = quote then
        let (literal, rest) := split quote t
        (c :: d :: literal, rest)
      else ([c], d :: t)
    else
      let (literal, rest) := split quote (d :: t)
      (c :: literal, rest)

theorem split_within (plain : ¬(c = '\\' ∧ escapes quote = true)) (other : c ≠ quote) (t : Text) :
    split quote (c :: t) = (c :: (split quote t).1, (split quote t).2) := by
  cases t <;> simp [split, plain, other]

theorem split_pair (escape : escapes quote = true) (c : Char) (t : Text) :
    split quote ('\\' :: c :: t) = ('\\' :: c :: (split quote t).1, (split quote t).2) := by
  simp [split, escape]

theorem not_backslash (h : isQuote quote = true) : ¬(quote = '\\' ∧ escapes quote = true) := by
  rintro ⟨rfl, _⟩
  cases h

theorem split_doubled (h : isQuote quote = true) (t : Text) :
    split quote (quote :: quote :: t) =
      (quote :: quote :: (split quote t).1, (split quote t).2) := by
  simp [split, not_backslash h]

theorem split_closing (h : isQuote quote = true) (apart : t.head? ≠ some quote) :
    split quote (quote :: t) = ([quote], t) := by
  cases t with
  | nil => rfl
  | cons d t =>
    have other : d ≠ quote := fun same => apart (congrArg some same)
    simp [split, not_backslash h, other]

theorem split_append (quote : Char) (t : Text) :
    (split quote t).1 ++ (split quote t).2 = t := by
  fun_induction split quote t <;> simp_all

theorem split_length_le (quote : Char) (t : Text) :
    (split quote t).2.length ≤ t.length := by
  have h := congrArg List.length (split_append quote t)
  simp at h
  omega

/-- A character of a query, and whether it belongs to a quoted literal. -/
inductive Glyph where
  | plain (c : Char)
  | quoted (c : Char)
  deriving DecidableEq, Repr

def Glyph.char : Glyph → Char
  | .plain c => c
  | .quoted c => c

@[simp] theorem Glyph.char_plain (c : Char) : (Glyph.plain c).char = c := rfl
@[simp] theorem Glyph.char_quoted (c : Char) : (Glyph.quoted c).char = c := rfl

def glyphs (t : Text) : List Glyph := go t.length t
where
  /-- Each literal is passed over at once, so `fuel` bounds the characters left. -/
  go : Nat → Text → List Glyph
    | 0, _ => []
    | _ + 1, [] => []
    | fuel + 1, c :: t =>
      if isQuote c then
        let (literal, rest) := split c t
        (c :: literal).map .quoted ++ go fuel rest
      else .plain c :: go fuel t

theorem glyphs.go_char (fuel : Nat) (t : Text) (h : t.length ≤ fuel) :
    (glyphs.go fuel t).map Glyph.char = t := by
  induction fuel generalizing t with
  | zero => simp_all [glyphs.go]
  | succ fuel ih =>
    match t with
    | [] => rfl
    | c :: t =>
      simp only [List.length_cons] at h
      simp only [glyphs.go]
      split
      · have bound := split_length_le c t
        simp [ih (split c t).2 (by omega), split_append, Function.comp_def]
      · simp [ih t (by omega)]

@[simp] theorem glyphs_char (t : Text) : (glyphs t).map Glyph.char = t :=
  glyphs.go_char t.length t (Nat.le_refl _)

end Subselect.Text
