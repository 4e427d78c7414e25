import Mathlib.Data.List.Forall2
import Subselect.Proofs.Lead

/-! Letters of either case. What the text of a query is scanned for are keywords, which are compared
without their case, and characters that are no letters. So every step of the scan commutes with
folding, and texts that differ in case alone have the same sub-selects. -/
namespace Subselect

open Text

namespace Text

theorem isAlpha_eq (c : Char) : c.isAlpha =
    (decide (65 ≤ c.toNat ∧ c.toNat ≤ 90) || (97 ≤ c.toNat && c.toNat ≤ 122)) := rfl

theorem toLower_cases (c : Char) : c.toLower = c ∨ c.isAlpha = true ∧ c.toLower.isAlpha = true := by
  by_cases upper : 65 ≤ c.toNat ∧ c.toNat ≤ 90
  · have lower := toNat_toLower upper
    right
    simp only [isAlpha_eq, lower, Bool.or_eq_true, Bool.and_eq_true, decide_eq_true_eq]
    omega
  · exact .inl (dif_neg upper)

theorem toLower_toLower (c : Char) : c.toLower.toLower = c.toLower := by
  by_cases upper : 65 ≤ c.toNat ∧ c.toNat ≤ 90
  · have lower := toNat_toLower upper
    exact dif_neg (show ¬(65 ≤ c.toLower.toNat ∧ c.toLower.toNat ≤ 90) by omega)
  · have same : c.toLower = c := dif_neg upper
    rw [same, same]

/-- What is the same of all letters does not depend on case. -/
theorem apply_toLower {p : Char → α} {b : α} (letters : ∀ c, c.isAlpha = true → p c = b)
    (c : Char) : p c.toLower = p c := by
  rcases toLower_cases c with same | ⟨before, after⟩
  · rw [same]
  · rw [letters _ before, letters _ after]

theorem toLower_eq_iff (other : d.isAlpha = false) (c : Char) : c.toLower = d ↔ c = d := by
  have letters : ∀ c, c.isAlpha = true → (c == d) = false := by
    intro c alpha
    apply beq_false_of_ne
    rintro rfl
    exact absurd alpha (by simp [other])
  have same := apply_toLower letters c
  simpa using same

theorem not_isAlpha_of_isBlank (blank : isBlank c = true) : c.isAlpha = false := by
  have word := not_isWordChar_of_isBlank blank
  simp only [isWordChar, Char.isAlphanum, Bool.or_eq_false_iff] at word
  exact word.1.1

theorem isBlank_toLower : ∀ c : Char, isBlank c.toLower = isBlank c :=
  apply_toLower (b := false) fun c alpha => by
    rw [← Bool.not_eq_true]
    intro blank
    exact absurd alpha (by simp [not_isAlpha_of_isBlank blank])

theorem not_isAlpha_of_isQuote (quote : isQuote c = true) : c.isAlpha = false := by
  rcases quote_cases quote with rfl | rfl | rfl <;> rfl

theorem utf8Size_toLower (c : Char) : c.toLower.utf8Size = c.utf8Size := by
  refine apply_toLower (b := 1) ?_ c
  intro d alpha
  have small : d.toNat ≤ 127 := by
    have range : 65 ≤ d.toNat ∧ d.toNat ≤ 90 ∨ 97 ≤ d.toNat ∧ d.toNat ≤ 122 := by
      simpa [isAlpha_eq] using alpha
    omega
  exact if_pos small

/-! Texts. -/

theorem fold_cons (c : Char) (t : Text) : fold (c :: t) = c.toLower :: fold t := rfl

theorem fold_append (s t : Text) : fold (s ++ t) = fold s ++ fold t := List.map_append

theorem fold_reverse (t : Text) : fold t.reverse = (fold t).reverse := List.map_reverse

theorem fold_fold (t : Text) : fold (fold t) = fold t := by
  rw [fold, fold, List.map_map]
  exact List.map_congr_left fun c _ => toLower_toLower c

theorem alike_fold (s t : Text) : alike (fold s) t = alike s t := by rw [alike, fold_fold, alike]

theorem length_fold (t : Text) : (fold t).length = t.length := List.length_map _

theorem isEmpty_fold (t : Text) : (fold t).isEmpty = t.isEmpty := List.isEmpty_map

theorem size_fold (t : Text) : size (fold t) = size t := by
  induction t with
  | nil => rfl
  | cons c t ih => rw [fold_cons, size_cons, size_cons, utf8Size_toLower, ih]

section
variable {p : Char → Bool} (same : ∀ c, p c.toLower = p c)
include same

theorem takeWhile_fold (t : Text) : (fold t).takeWhile p = fold (t.takeWhile p) := by
  rw [fold, List.takeWhile_map, show p ∘ Char.toLower = p from funext same]
  rfl

theorem dropWhile_fold (t : Text) : (fold t).dropWhile p = fold (t.dropWhile p) := by
  rw [fold, List.dropWhile_map, show p ∘ Char.toLower = p from funext same]
  rfl

end

theorem trimStart_fold (t : Text) : trimStart (fold t) = fold (trimStart t) :=
  dropWhile_fold isBlank_toLower t

theorem trim_fold (t : Text) : trim (fold t) = fold (trim t) := by
  rw [trim, trimStart_fold, trimEnd, ← fold_reverse, dropWhile_fold isBlank_toLower, ← fold_reverse]
  rfl

theorem startsWithWord_fold (keyword t : Text) :
    startsWithWord keyword (fold t) = startsWithWord keyword t := by
  rw [startsWithWord, takeWhile_fold isWordChar_toLower, alike, fold_fold]
  rfl

/-! Quoted literals. -/

theorem split_fold (opened : isQuote quote = true) (t : Text) :
    split quote (fold t) = (fold (split quote t).1, fold (split quote t).2) := by
  have backslash := toLower_eq_iff (d := '\\') rfl
  have closing := toLower_eq_iff (not_isAlpha_of_isQuote opened)
  fun_induction split quote t with
  | case1 => rfl
  | case2 c => rfl
  | case3 c d t escaped literal rest eq ih =>
    have here : c.toLower = '\\' ∧ escapes quote = true := ⟨(backslash c).mpr escaped.1, escaped.2⟩
    rw [fold_cons, fold_cons, split, if_pos here, ih, eq]
    rfl
  | case4 t literal rest eq plain ih =>
    have same := (closing quote).mpr rfl
    rw [fold_cons, fold_cons, same, split, if_neg plain, if_pos rfl, if_pos rfl, ih, eq]
    simp only [fold_cons, same]
  | case5 d t single plain =>
    have same := (closing quote).mpr rfl
    rw [fold_cons, fold_cons, same, split, if_neg plain, if_pos rfl,
      if_neg (mt (closing d).mp single)]
    simp only [fold_cons, same]
    rfl
  | case6 c d t plain other literal rest eq ih =>
    have here : ¬(c.toLower = '\\' ∧ escapes quote = true) := fun h =>
      plain ⟨(backslash c).mp h.1, h.2⟩
    rw [fold_cons] at ih
    rw [fold_cons, fold_cons, split, if_neg here, if_neg (mt (closing c).mp other), ih, eq]
    rfl

def Glyph.folded : Glyph → Glyph
  | .plain c => .plain c.toLower
  | .quoted c => .quoted c.toLower

theorem Glyph.folded_char (g : Glyph) : g.folded.char = g.char.toLower := by
  cases g <;> rfl

theorem Glyph.folded_eq_plain_iff (other : d.isAlpha = false) (g : Glyph) :
    g.folded = .plain d ↔ g = .plain d := by
  cases g with
  | plain c => simp [Glyph.folded, toLower_eq_iff other]
  | quoted c => simp [Glyph.folded]

theorem isQuote_toLower : ∀ c : Char, isQuote c.toLower = isQuote c :=
  apply_toLower fun c alpha => by
    rw [← Bool.not_eq_true]
    intro quote
    exact absurd alpha (by simp [not_isAlpha_of_isQuote quote])

theorem glyphs_go_fold (fuel : Nat) (t : Text) :
    glyphs.go fuel (fold t) = (glyphs.go fuel t).map Glyph.folded := by
  induction fuel generalizing t with
  | zero => rfl
  | succ fuel ih =>
    cases t with
    | nil => rfl
    | cons c t =>
      rw [fold_cons, glyphs.go, glyphs.go, isQuote_toLower]
      by_cases opened : isQuote c = true
      · have same : c.toLower = c := (toLower_eq_iff (not_isAlpha_of_isQuote opened) c).mpr rfl
        have marked : (c :: fold (split c t).1).map Glyph.quoted =
            ((c :: (split c t).1).map Glyph.quoted).map Glyph.folded := by
          simp [fold, Glyph.folded, Function.comp_def, same]
        rw [if_pos opened, if_pos opened, same, split_fold opened]
        simp only [List.map_append, marked, ih]
      · rw [if_neg opened, if_neg opened, List.map_cons, ih]
        rfl

theorem glyphs_fold (t : Text) : glyphs (fold t) = (glyphs t).map Glyph.folded := by
  rw [glyphs, length_fold]
  exact glyphs_go_fold t.length t

end Text

namespace Outline

def folded : Outline → Outline
  | nil => nil
  | leaf glyph rest => leaf glyph.folded rest.folded
  | group body rest => group body.folded rest.folded

theorem text_fold (outline : Outline) : outline.folded.text = Text.fold outline.text := by
  induction outline with
  | nil => rfl
  | leaf glyph rest ih => rw [folded, text_leaf, text_leaf, ih, Glyph.folded_char, fold_cons]
  | group body rest ihBody ihRest =>
    rw [folded, text_group, text_group, ihBody, ihRest, fold_cons, fold_append, fold_cons]
    rfl

theorem append_fold (a b : Outline) : (a.append b).folded = a.folded.append b.folded := by
  induction a with
  | nil => rfl
  | leaf glyph rest ih => rw [append, folded, ih, folded, append]
  | group body rest _ ih => rw [append, folded, ih, folded, append]

theorem join_fold (here : Outline) (waiting : List Outline) :
    (join here waiting).folded = join here.folded (waiting.map folded) := by
  induction waiting generalizing here with
  | nil => rfl
  | cons after more ih =>
    rw [join, append_fold, folded, ih]
    rfl

def Reading.folded (r : Reading) : Reading := ⟨r.here.folded, r.waiting.map Outline.folded⟩

theorem step_fold (glyph : Glyph) (r : Reading) :
    Reading.step glyph.folded r.folded = (Reading.step glyph r).folded := by
  have closing := Glyph.folded_eq_plain_iff (d := ')') rfl glyph
  have opening := Glyph.folded_eq_plain_iff (d := '(') rfl glyph
  simp only [Reading.step, closing, opening]
  split
  · rfl
  · split
    · cases waiting : r.waiting <;> simp [Reading.folded, waiting, folded]
    · rfl

theorem read_fold (gs : List Glyph) : read (gs.map Glyph.folded) = (read gs).folded := by
  induction gs with
  | nil => rfl
  | cons glyph gs ih =>
    rw [read] at ih ⊢
    rw [List.map_cons, List.foldr_cons, ih, step_fold]
    rfl

theorem ofText_fold (t : Text) : ofText (Text.fold t) = (ofText t).folded := by
  rw [ofText, glyphs_fold, ofGlyphs, read_fold, ofText, ofGlyphs, join_fold]
  rfl

end Outline

/-! Contexts. -/

namespace Comparison

theorem not_operator (alpha : c.isAlpha = true) : c ≠ '=' ∧ c ≠ '<' ∧ c ≠ '>' ∧ c ≠ '!' := by
  refine ⟨?_, ?_, ?_, ?_⟩ <;> rintro rfl <;> exact absurd alpha (by decide)

theorem ofBackward_letter (alpha : a.isAlpha = true) (t : Text) : ofBackward (a :: t) = none := by
  apply ofBackward_eq_none
  rintro _ ⟨⟩
  obtain ⟨equal, less, greater, _⟩ := not_operator alpha
  exact ⟨equal, less, greater⟩

theorem ofBackward_before_letter (a : Char) (alpha : b.isAlpha = true) (t : Text) :
    ofBackward (a :: b :: t) = ofBackward [a] := by
  apply ofBackward_cons
  rintro _ ⟨⟩
  exact not_operator alpha

theorem ofBackward_fold (t : Text) : ofBackward (fold t) = ofBackward t := by
  cases t with
  | nil => rfl
  | cons a t =>
    rcases toLower_cases a with first | ⟨before, after⟩
    · cases t with
      | nil => rw [fold_cons, first]; rfl
      | cons b t =>
        rcases toLower_cases b with second | ⟨before, after⟩
        · rw [fold_cons, fold_cons, first, second, ofBackward_cons_cons a b (fold t) t]
        · rw [fold_cons, fold_cons, first, ofBackward_before_letter a after,
            ofBackward_before_letter a before]
    · rw [fold_cons, ofBackward_letter after, ofBackward_letter before]

end Comparison

namespace Context

def folded : Context → Context
  | list keyword => list (Text.fold keyword)
  | scalar op => scalar op

theorem keywordBackward_fold (before : Text) :
    keywordBackward (Text.fold before) = (keywordBackward before).map Text.fold := by
  simp only [keywordBackward, takeWhile_fold isWordChar_toLower, dropWhile_fold isWordChar_toLower,
    takeWhile_fold isBlank_toLower, dropWhile_fold isBlank_toLower, alike_fold, isEmpty_fold]
  split
  · split <;> simp only [Option.map_some, fold_reverse, fold_append]
  · rfl

theorem ofBackward_fold (before : Text) :
    ofBackward (Text.fold before) = (ofBackward before).map folded := by
  rw [ofBackward, keywordBackward_fold, Comparison.ofBackward_fold, ofBackward]
  cases keywordBackward before with
  | some keyword => rfl
  | none => cases Comparison.ofBackward before <;> rfl

theorem isList_fold (context : Context) : context.folded.isList = context.isList := by
  cases context <;> rfl

theorem size_head_fold (context : Context) : size context.folded.head = size context.head := by
  cases context with
  | list keyword => exact size_fold keyword
  | scalar op => rfl

end Context

/-! Sub-selects. -/

def Site.folded (site : Site) : Site :=
  { site with context := site.context.folded, inner := Text.fold site.inner }

theorem Site.recognise_fold (before body : Text) :
    recognise (Text.fold before) (Text.fold body) = (recognise before body).map folded := by
  rw [recognise, isSelect, trimStart_fold, startsWithWord_fold, ← isSelect, recognise,
    dropWhile_fold isBlank_toLower, takeWhile_fold isBlank_toLower, Context.ofBackward_fold,
    trim_fold, size_fold, size_fold, size_fold]
  split
  · rw [Option.map_map, Option.map_map]
    congr 1
    funext context
    simp [Context.size_head_fold, folded]
  · rfl

namespace Outline

theorem past_fold (before body : Text) :
    past (Text.fold before) (Text.fold body) = Text.fold (past before body) := by
  rw [past, past, fold_cons, fold_append, fold_reverse, fold_cons]
  rfl

theorem innermost_fold (before : Text) (outline : Outline) :
    outline.folded.innermost (Text.fold before) = (outline.innermost before).map Site.folded := by
  induction outline generalizing before with
  | nil => rfl
  | leaf glyph rest ih =>
    rw [folded, innermost, Glyph.folded_char, ← fold_cons, ih, innermost]
  | group body rest ihBody ihRest =>
    have inside : body.folded.innermost ('(' :: Text.fold before) =
        (body.innermost ('(' :: before)).map Site.folded := ihBody ('(' :: before)
    have behind := ihRest (past before body.text)
    rw [← past_fold] at behind
    rw [folded, innermost, innermost, text_fold, behind, inside, Site.recognise_fold,
      List.map_append]
    congr 1
    cases body.innermost ('(' :: before) with
    | nil => cases Site.recognise before body.text <;> rfl
    | cons site more => rfl

theorem recognised_fold (before : Text) (outline : Outline) :
    outline.folded.recognised (Text.fold before) = (outline.recognised before).map Site.folded := by
  induction outline generalizing before with
  | nil => rfl
  | leaf glyph rest ih => rw [folded, recognised, Glyph.folded_char, ← fold_cons, ih, recognised]
  | group body rest ihBody ihRest =>
    have inside := ihBody ('(' :: before)
    have behind := ihRest (past before body.text)
    rw [← past_fold] at behind
    rw [folded, recognised, recognised, text_fold, behind, Site.recognise_fold, List.map_append,
      List.map_append, ← inside]
    cases Site.recognise before body.text <;> rfl

end Outline

namespace Query

theorem sites_fold (query : Text) : sites (fold query) = (sites query).map Site.folded := by
  rw [sites, Outline.ofText_fold]
  exact Outline.innermost_fold [] _

theorem hasList_fold (query : Text) : hasList (fold query) = hasList query := by
  have same : recognised (fold query) = (recognised query).map Site.folded := by
    rw [recognised, Outline.ofText_fold]
    exact Outline.recognised_fold [] _
  rw [hasList, same, List.any_map]
  congr 1
  funext site
  exact site.context.isList_fold

theorem isGap_toLower : ∀ c : Char, isGap c.toLower = isGap c :=
  apply_toLower fun c alpha => by
    rw [← Bool.not_eq_true]
    intro gap
    simp only [isGap, Bool.or_eq_true, beq_iff_eq, or_assoc] at gap
    rcases gap with rfl | rfl | rfl | rfl | rfl <;> exact absurd alpha (by decide)

theorem isSelect_fold (query : Text) : isSelect (fold query) = isSelect query := by
  have start (t : Text) : (fold t).take 6 = fold (t.take 6) := List.map_take.symm
  have next (t : Text) : (fold t)[6]?.any isGap = t[6]?.any isGap := by
    simp only [fold, List.getElem?_map, Option.any_map, isGap_toLower]
  simp only [isSelect, trimStart_fold, start, alike_fold, next]

theorem qualifies_fold (query : Text) : qualifies (fold query) = qualifies query := by
  rw [qualifies, isSelect_fold, hasList_fold, qualifies]

end Query

/-! Texts that are alike. -/

/-- Contexts that use rows in the same way; keywords may be spelled in other cases. -/
inductive Context.Alike : Context → Context → Prop where
  | list : alike keyword keyword' = true → Alike (.list keyword) (.list keyword')
  | scalar (op : Comparison) : Alike (.scalar op) (.scalar op)

/-- Sub-selects at the same place. What replaces them is the same for any rows, but for the case of
a keyword that is kept. -/
structure Site.Alike (a b : Site) : Prop where
  offset : a.offset = b.offset
  length : a.length = b.length
  context : Context.Alike a.context b.context
  inner : alike a.inner b.inner = true
  replacement : ∀ values, ∃ literal,
    a.context.replacement values = a.context.head ++ literal ∧
    b.context.replacement values = b.context.head ++ literal

theorem Context.Alike.of_fold {a b : Context} (same : a.folded = b.folded) : Context.Alike a b := by
  cases a with
  | list keyword =>
    cases b with
    | list keyword' => exact .list (by rw [alike, Context.list.inj same, BEq.rfl])
    | scalar op => cases same
  | scalar op =>
    cases b with
    | list keyword => cases same
    | scalar op' =>
      cases same
      exact .scalar op

theorem Context.Alike.replacement {a b : Context} (same : Context.Alike a b) (values : List Text) :
    ∃ literal, a.replacement values = a.head ++ literal ∧
      b.replacement values = b.head ++ literal := by
  cases same with
  | list => exact ⟨_, rfl, rfl⟩
  | scalar op => exact ⟨_, rfl, rfl⟩

theorem Site.Alike.of_fold {a b : Site} (same : a.folded = b.folded) : Site.Alike a b := by
  obtain ⟨offset, length, context, inner⟩ := Site.mk.inj same
  have contexts := Context.Alike.of_fold context
  exact ⟨offset, length, contexts, by rw [alike, inner, BEq.rfl], contexts.replacement⟩

namespace Query

/-- Queries that differ in the case of letters alone, wherever the letters stand, have the same
sub-selects at the same places, and are both worth resolving or both not. -/
theorem sites_alike (same : alike query query' = true) :
    List.Forall₂ Site.Alike (sites query) (sites query') ∧
      hasList query = hasList query' ∧ qualifies query = qualifies query' := by
  have folded : fold query = fold query' := by simpa [alike] using same
  refine ⟨?_, ?_, ?_⟩
  · have equal : (sites query).map Site.folded = (sites query').map Site.folded := by
      rw [← sites_fold, folded, sites_fold]
    rw [← List.forall₂_eq_eq_eq, List.forall₂_map_left_iff, List.forall₂_map_right_iff] at equal
    exact equal.imp fun _ _ => Site.Alike.of_fold
  · rw [← hasList_fold, folded, hasList_fold]
  · rw [← qualifies_fold, folded, qualifies_fold]

/-- A query with keywords, names and a literal in mixed case. -/
def mixedCase : Text :=
  ("sElEcT * FROM t WHERE a Not  iN (SELECT b FROM u WHERE c = 'x) In (Select') " ++
    "AND d >= (select É)").toList

theorem sites_alike_mixedCase :
    alike mixedCase (fold mixedCase) = true ∧
      (sites mixedCase).map (·.context) = [.list "Not  iN".toList, .scalar .greaterEqual] ∧
      List.Forall₂ Site.Alike (sites mixedCase) (sites (fold mixedCase)) ∧
      qualifies mixedCase = true ∧ qualifies (fold mixedCase) = true := by
  have same : alike mixedCase (fold mixedCase) = true := by decide +kernel
  have worth : qualifies mixedCase = true := by decide +kernel
  obtain ⟨places, _, qualify⟩ := sites_alike same
  exact ⟨same, by decide +kernel, places, worth, qualify ▸ worth⟩

end Query
end Subselect
