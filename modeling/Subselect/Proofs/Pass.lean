import Subselect.Proofs.Filling
import Subselect.Run.Rewrite

/-! One pass as a change of the parenthesis structure: every innermost sub-select becomes a space
and a literal, together with the white space in front of it, and all else stays. The text the pass
leaves is read again as just this structure. -/
namespace Subselect

open Text Outline

/-- A sub-select and the text that replaces it. -/
abbrev Edit := Site × Text

/-- The edit that an answer to a sub-select calls for. -/
def Site.edit (site : Site) (table : Table) : Edit :=
  (site, site.context.replacement (Literal.ofTable table))

theorem Site.literal_eq (h : Site.edit site table = site.edit table') :
    site.context.literal (Literal.ofTable table) =
      site.context.literal (Literal.ofTable table') := by
  have replacement := congrArg Prod.snd h
  simp only [Site.edit, Context.replacement_eq, List.append_cancel_left_eq, List.cons.injEq,
    true_and] at replacement
  exact replacement

/-- A pass over an outline that stands behind `before`. White space directly in front of a
sub-select that is replaced is left out; `space` is all there is of it. -/
inductive Resolves : Text → Outline → List Edit → Outline → Prop where
  | nil : Resolves before nil [] nil
  | leaf : Resolves (g.char :: before) rest edits rest' →
      Resolves before (leaf g rest) edits (leaf g rest')
  | keep : (body.innermost ('(' :: before) = [] → Site.recognise before body.text = none) →
      Resolves ('(' :: before) body inside body' →
      Resolves (past before body.text) rest edits rest' →
      Resolves before (group body rest) (inside ++ edits) (group body' rest')
  | site (table : Table) : before.dropWhile isBlank = before →
      (∀ g ∈ space, isBlank g.char = true) →
      body.innermost ('(' :: beyond before space) = [] →
      Site.recognise (beyond before space) body.text = some site →
      Resolves (past (beyond before space) body.text) rest edits rest' →
      Resolves before (leaves space (group body rest)) (site.edit table :: edits)
        (leaf (.plain ' ')
          ((site.context.literalOutline (Literal.ofTable table)).append rest'))

namespace Resolves

theorem leaves (h : Resolves (beyond before gs) rest edits rest') :
    Resolves before (leaves gs rest) edits (leaves gs rest') := by
  induction gs generalizing before with
  | nil => exact h
  | cons g gs ih => exact .leaf (ih (by simpa using h))

/-- The answer to a sub-select fills the place of its group. -/
theorem isFilling (site : Site) (table : Table) :
    (site.context.literalOutline (Literal.ofTable table)).IsFilling :=
  Context.isFilling_literalOutline table site.context

/-- What a pass writes in the place of a group ends as a seam does. -/
theorem aligned_filling (before before' body : Text) (site : Site) (table : Table) :
    Aligned (past before body)
      ((site.context.literalOutline (Literal.ofTable table)).text.reverse ++ before') := by
  obtain ⟨e, t, ends, member⟩ := (isFilling site table).ends
  exact ends ▸ .turn (.inr rfl) member

end Resolves

namespace Text.Mode

/-- Only quotes open literals. -/
def Proper : Mode → Prop
  | outside => True
  | inside quote => isQuote quote = true
  | escaped quote => isQuote quote = true

theorem proper_outside : Proper outside := trivial

theorem Proper.step (h : Proper m) (c : Char) : Proper (m.step c) := by
  cases m with
  | outside =>
    by_cases quote : isQuote c = true
    · simp [Mode.step, quote, Proper]
    · simp [Mode.step, quote, Proper]
  | inside quote =>
    simp only [Mode.step]
    split
    · exact h
    · split
      · trivial
      · exact h
  | escaped quote => exact h

/-- Only a quote ends a literal. -/
theorem Proper.step_other (h : Proper m) (other : isQuote c = false) (out : m.step c = outside) :
    m = outside := by
  cases m with
  | outside => rfl
  | inside quote =>
    simp only [Mode.step] at out
    split at out
    · cases out
    · split at out
      · next same =>
        subst same
        exact absurd h (by simp [Proper, other])
      · cases out
  | escaped quote => cases out

theorem Reads.proper (reads : Reads m gs final) (proper : Proper m) : Proper final := by
  induction reads with
  | nil => exact proper
  | cons _ _ ih => exact ih (proper.step _)

/-- Where a text without quotes leads up to what is met outside literals only, it is read outside
them. -/
theorem Reads.unquoted (reads : Reads m (gs ++ rest) final) (proper : Proper m)
    (other : ∀ g ∈ gs, isQuote g.char = false)
    (out : ∀ {n}, Reads n rest final → n = outside) : m = outside ∧ Reads outside rest final := by
  induction gs generalizing m with
  | nil =>
    obtain rfl := out reads
    exact ⟨rfl, reads⟩
  | cons g gs ih =>
    cases reads with
    | cons here reads =>
      obtain ⟨outside, rest⟩ := ih reads (proper.step _) fun g' member =>
        other g' (by simp [member])
      exact ⟨proper.step_other (other g (by simp)) outside, rest⟩

/-- A group is read from outside literals to outside them, and so is its body. -/
theorem Reads.group (reads : Reads m (group body rest).glyphs final) :
    m = outside ∧ Reads outside body.glyphs outside ∧ Reads outside rest.glyphs final := by
  rw [Outline.glyphs] at reads
  obtain ⟨rfl, opened⟩ := reads.plain
  obtain ⟨middle, inner, closing⟩ := opened.split
  obtain ⟨rfl, closed⟩ := closing.plain
  exact ⟨rfl, inner, closed⟩

end Text.Mode

namespace Outline

theorem reads_ofText (t : Text) : ∃ final, Mode.Reads .outside (ofText t).glyphs final := by
  rw [glyphs_ofText]
  exact reads_glyphs t

/-- An outline that fits is read back from its text if none of its parentheses is quoted. -/
theorem ofText_of_reads (fits : Fits .any o) (reads : Mode.Reads .outside o.glyphs final) :
    ofText o.text = o := by
  have same := glyphs_of_reads reads
  rw [map_char_glyphs] at same
  rw [ofText, same, fits.ofGlyphs_glyphs rfl]

end Outline

namespace Resolves

theorem reads (h : Resolves before o edits o') (proper : m.Proper)
    (reads : Mode.Reads m o.glyphs final) : Mode.Reads m o'.glyphs final := by
  induction h generalizing m final with
  | nil => exact reads
  | leaf _ ih =>
    cases reads with
    | cons here reads => exact .cons here (ih (proper.step _) reads)
  | keep _ _ _ ihBody ihRest =>
    obtain ⟨rfl, body, rest⟩ := reads.group
    have closing := Mode.reads_plain (c := ')') (by decide) (ihRest proper rest)
    exact Mode.reads_plain (by decide) ((ihBody Mode.proper_outside body).append closing)
  | @site before space site rest edits rest' body table _ blank _ _ _ ih =>
    rw [glyphs_leaves] at reads
    obtain ⟨rfl, opened⟩ := reads.unquoted proper
      (fun g member => not_isQuote_of_isBlank (blank g member)) fun opened => opened.group.1
    have after := ih Mode.proper_outside opened.group.2.2
    rw [Outline.glyphs, Outline.glyphs_append]
    exact Mode.reads_plain (by decide) ((isFilling site table).reads.append after)

theorem fits (h : Resolves before o edits o') (fits : Fits level o) : Fits level o' := by
  induction h generalizing level with
  | nil => exact .nil
  | leaf _ ih =>
    cases fits with
    | leaf opening closing rest => exact .leaf opening closing (ih rest)
    | opening left rest => exact .opening left (ih rest)
  | keep _ _ _ ihBody ihRest =>
    cases fits with
    | group body rest => exact .group (ihBody body) (ihRest rest)
  | @site before space site rest edits rest' body table _ blank _ _ _ ih =>
    cases fits.of_leaves blank with
    | group _ rest =>
      exact .leaf (by decide) (by simp) ((isFilling site table).fits.append rfl (ih rest))

/-- A pass changes no word that a text begins with. -/
theorem takeWhile_word (h : Resolves before o edits o') :
    o'.text.takeWhile isWordChar = o.text.takeWhile isWordChar := by
  induction h with
  | nil => rfl
  | leaf _ ih => simp [List.takeWhile_cons, ih]
  | keep => simp
  | @site _ space _ _ _ _ _ _ _ blank =>
    have none : isWordChar ' ' = false := rfl
    cases space with
    | nil => simp [Outline.leaves, none]
    | cons g space =>
      have first := not_isWordChar_of_isBlank (blank g (by simp))
      simp [Outline.leaves, none, first]

/-- Where nothing in front of an outline gives a context, a pass keeps the white space and the word
the outline begins with. -/
theorem opening (h : Resolves before o edits o')
    (lead : Context.ofBackward (before.dropWhile isBlank) = none) :
    o'.text.takeWhile isBlank = o.text.takeWhile isBlank ∧
      (trimStart o'.text).takeWhile isWordChar = (trimStart o.text).takeWhile isWordChar := by
  induction h with
  | nil => exact ⟨rfl, rfl⟩
  | @leaf _ _ _ _ g h ih =>
    by_cases blank : isBlank g.char = true
    · have same := ih (by simpa [blank] using lead)
      simpa [trimStart, blank] using same
    · have word := (Resolves.leaf h).takeWhile_word
      simpa [trimStart, blank] using word
  | keep => simp [trimStart]
  | site _ _ blank _ found =>
    rw [Site.recognise_eq_none (by rwa [dropWhile_beyond blank])] at found
    cases found

theorem isSelect_body (h : Resolves ('(' :: before) body edits body') :
    Site.isSelect body'.text = Site.isSelect body.text := by
  rw [Site.isSelect, Site.isSelect, startsWithWord, startsWithWord, (h.opening rfl).2]

/-- The text a pass leaves is read as what the pass made of the query. -/
theorem ofText_text (h : Resolves [] (ofText query) edits o') : ofText o'.text = o' := by
  obtain ⟨final, scan⟩ := reads_ofText query
  exact ofText_of_reads (h.fits (fits_ofText query)) (h.reads Mode.proper_outside scan)

end Resolves

/-- A pass goes into a group that holds sub-selects, or is none itself. -/
theorem innermost_keep
    (kept : body.innermost ('(' :: before) = [] → Site.recognise before body.text = none) :
    (group body rest).innermost before =
      body.innermost ('(' :: before) ++ rest.innermost (past before body.text) := by
  rw [innermost]
  cases inner : body.innermost ('(' :: before) with
  | nil => simp [kept inner]
  | cons => rfl

/-- Whatever the engine answers, the pass is one. -/
theorem exists_resolves (o : Outline) (before : Text) (space : List Glyph)
    (first : before.dropWhile isBlank = before) (blank : ∀ g ∈ space, isBlank g.char = true)
    (edits : List Edit) (sites : edits.map Prod.fst = o.innermost (beyond before space))
    (answered : ∀ e ∈ edits, ∃ table, e = e.1.edit table) :
    ∃ o', Resolves before (leaves space o) edits o' := by
  induction o generalizing before space edits with
  | nil =>
    obtain rfl : edits = [] := List.map_eq_nil_iff.mp sites
    exact ⟨_, .leaves .nil⟩
  | leaf g rest ih =>
    by_cases b : isBlank g.char = true
    · have whole : leaves space (leaf g rest) = leaves (space ++ [g]) rest := by
        rw [leaves_append]
        rfl
      rw [whole]
      refine ih before (space ++ [g]) first ?_ edits (by simpa [innermost] using sites) answered
      intro g' member
      rcases List.mem_append.mp member with member | member
      · exact blank g' member
      · rwa [List.mem_singleton.mp member]
    · obtain ⟨rest', resolves⟩ := ih (g.char :: beyond before space) [] (by simp [b])
        (by simp) edits sites answered
      exact ⟨_, .leaves (.leaf resolves)⟩
  | group body rest ihBody ihRest =>
    have behind (b : Text) : (past b body.text).dropWhile isBlank = past b body.text := by
      simp [past]
    by_cases kept : body.innermost ('(' :: beyond before space) = [] →
        Site.recognise (beyond before space) body.text = none
    · rw [innermost_keep kept] at sites
      obtain ⟨inside, edits, rfl, sitesBody, sitesRest⟩ := List.map_eq_append_iff.mp sites
      obtain ⟨body', insideResolves⟩ := ihBody ('(' :: beyond before space) [] (by simp) (by simp)
        inside sitesBody fun e member => answered e (by simp [member])
      obtain ⟨rest', resolves⟩ := ihRest (past (beyond before space) body.text) [] (behind _)
        (by simp) edits sitesRest fun e member => answered e (by simp [member])
      exact ⟨_, .leaves (.keep kept insideResolves resolves)⟩
    · obtain ⟨inner, some⟩ := Classical.not_imp.mp kept
      obtain ⟨site, found⟩ := Option.ne_none_iff_exists'.mp some
      simp only [innermost, inner, found, Option.toList_some, List.singleton_append] at sites
      obtain ⟨edit, edits, rfl, rfl, sitesRest⟩ := List.map_eq_cons_iff.mp sites
      obtain ⟨rest', resolves⟩ := ihRest (past (beyond before space) body.text) [] (behind _)
        (by simp) edits sitesRest fun e member => answered e (by simp [member])
      obtain ⟨table, eq⟩ := answered edit (by simp)
      rw [eq]
      exact ⟨_, .site table first blank inner found resolves⟩

end Subselect
