import Subselect.Proofs.Evaluation
import Subselect.Proofs.Spans

/-! The texts that passes ask for, read on their own. A body cut out of its query has the quotes,
the pairs of parentheses and the contexts it had there, so it holds no sub-select, and all that is
opened in it is closed in it. -/
namespace Subselect

open Text Outline

/-- A text that can be understood without what stands around it. -/
structure SelfContained (t : Text) : Prop where
  flat : Query.sites t = []
  noList : Query.hasList t = false
  opened : ∀ p, (marks t)[p]? = some (.plain '(') → ∃ q, Paired (marks t) p q
  closed : ∀ q, (marks t)[q]? = some (.plain ')') → ∃ p, Paired (marks t) p q
  terminated : Terminated t

theorem Text.brackets_blank {gs : List Glyph} (blank : ∀ g ∈ gs, isBlank g.char = true) :
    brackets gs = [] := by
  apply List.filterMap_eq_nil_iff.mpr
  intro g member
  apply Glyph.bracket?_eq_none
  · rintro rfl
    exact absurd (blank _ member) (by simp)
  · rintro rfl
    exact absurd (blank _ member) (by simp)

/-- White space in front of the text that a context is read from changes nothing. -/
theorem Context.kind_append_blank (t : Text) (blank : ∀ c ∈ space, isBlank c = true) :
    Context.kind (t ++ space) = Context.kind t := by
  rw [Context.kind_eq, Context.kind_eq]
  by_cases all : ∀ c ∈ t, isBlank c = true
  · rw [List.dropWhile_eq_nil_iff.mpr all, List.dropWhile_eq_nil_iff.mpr fun c member =>
      (List.mem_append.mp member).elim (all c) (blank c)]
  · have some := mt List.dropWhile_eq_nil_iff.mp all
    have drop := (span_append isBlank t space fun none => absurd none some).2
    obtain ⟨a, rest, eq⟩ := List.exists_cons_of_ne_nil some
    have next : ∀ c, space.head? = .some c → isBlank c = true := fun c head =>
      blank c (List.mem_of_mem_head? head)
    have same : Comparison.ofBackward (a :: rest ++ space) = Comparison.ofBackward (a :: rest) := by
      cases rest with
      | nil =>
        apply Comparison.ofBackward_cons
        intro c head
        refine ⟨?_, ?_, ?_, ?_⟩ <;> rintro rfl <;> exact absurd (next _ head) (by decide)
      | cons b rest => exact Comparison.ofBackward_cons_cons a b _ _
    rw [drop, takeWhile_append_seam _ _ _ fun c head => not_isWordChar_of_isBlank (next c head),
      eq, same]

/-- A body as it stands in its query: white space around the text that is asked for, whose literals
are closed in it. -/
theorem Text.glyphs_trim {t : Text}
    (split : glyphs t = front ++ .plain '(' :: (body ++ .plain ')' :: rest)) :
    ∃ lead trail, body = lead ++ (glyphs (trim (body.map Glyph.char)) ++ trail) ∧
      (∀ g ∈ lead, isBlank g.char = true) ∧ (∀ g ∈ trail, isBlank g.char = true) ∧
      Terminated (trim (body.map Glyph.char)) := by
  obtain ⟨final, reads⟩ := reads_glyphs t
  rw [split] at reads
  obtain ⟨_, _, opened⟩ := reads.split
  obtain ⟨_, inner⟩ := opened.plain
  obtain ⟨_, reads, closing⟩ := inner.split
  obtain ⟨rfl, _⟩ := closing.plain
  obtain ⟨leadText, trailText, trimmed, leadBlank, trailBlank⟩ := exists_trim (body.map Glyph.char)
  obtain ⟨lead, more, rfl, rfl, behind⟩ := List.map_eq_append_iff.mp trimmed
  obtain ⟨kept, trail, rfl, inside, rfl⟩ := List.map_eq_append_iff.mp behind
  have leadBlank : ∀ g ∈ lead, isBlank g.char = true := by simpa using leadBlank
  have trailBlank : ∀ g ∈ trail, isBlank g.char = true := by simpa using trailBlank
  -- white space leaves the automaton outside literals, from either side
  obtain ⟨_, first, second⟩ := reads.split
  obtain rfl := first.stays fun g member => not_isQuote_of_isBlank (leadBlank g member)
  obtain ⟨_, reads, last⟩ := second.split
  rw [← List.append_nil trail] at last
  obtain ⟨rfl, _⟩ := last.unquoted (reads.proper Mode.proper_outside)
    (fun g member => not_isQuote_of_isBlank (trailBlank g member)) fun none => by
      cases none
      rfl
  have same : glyphs (trim ((lead ++ (kept ++ trail)).map Glyph.char)) = kept := by
    rw [← inside, glyphs_of_reads reads]
  refine ⟨lead, trail, by rw [same], leadBlank, trailBlank, ?_⟩
  rwa [Terminated, same]

namespace Query

/-- What is recognised in a body is recognised in the query that holds it. -/
theorem site?_trim {query : Text}
    (split : Text.glyphs query = front ++ .plain '(' :: (body ++ .plain ')' :: rest))
    (alone : ∀ h ∈ (ofText query).groups [],
      Group.Contains ⟨beyond [] front, body.map Glyph.char⟩ h → h.site? = none) :
    ∀ g ∈ (ofText (trim (body.map Glyph.char))).groups [], g.site? = none := by
  intro g member
  obtain ⟨lead, trail, whole, leadBlank, _, _⟩ := glyphs_trim split
  obtain ⟨ahead, inner, behind, place, balanced, rfl⟩ :=
    exists_split_of_mem_groups (fits_ofText _) member
  rw [glyphs_ofText] at place
  rw [place] at whole
  have there : (ofText query).glyphs = (front ++ .plain '(' :: (lead ++ ahead)) ++
      .plain '(' :: (inner ++ .plain ')' :: (behind ++ (trail ++ .plain ')' :: rest))) := by
    rw [glyphs_ofText, split, whole]
    simp
  have found : ⟨beyond [] (front ++ .plain '(' :: (lead ++ ahead)), inner.map Glyph.char⟩ ∈
      (ofText query).groups [] := mem_groups_of_split (fits_ofText query) there balanced
  have within : Group.Contains ⟨beyond [] front, body.map Glyph.char⟩
      ⟨beyond [] (front ++ .plain '(' :: (lead ++ ahead)), inner.map Glyph.char⟩ := by
    have sizes := congrArg (fun gs => size (gs.map Glyph.char)) whole
    simp only [List.map_append, List.map_cons, Glyph.char_plain, size_append, size_cons,
      utf8Size_opening, utf8Size_closing] at sizes
    simp only [Group.Contains, Group.opening, Group.closing, size_beyond, List.map_append,
      List.map_cons, Glyph.char_plain, size_append, size_cons, size_nil, utf8Size_opening]
    omega
  -- the opening parenthesis of the body ends what a context can be read from
  have similar := (Similar.body (beyond [] front)).append (beyond [] ahead ++ beyond [] lead)
  have kind : Context.kind (beyond [] ahead) =
      Context.kind (beyond [] (front ++ .plain '(' :: (lead ++ ahead))) := by
    have blank : ∀ c ∈ beyond [] lead, isBlank c = true := by simpa [beyond] using leadBlank
    rw [← Context.kind_append_blank _ blank, ← List.append_nil (_ ++ _), similar.kind_eq]
    simp [beyond]
  have absent := alone _ found within
  rw [Group.site?, ← Option.isNone_iff_eq_none, ← Option.not_isSome, Site.recognise_isSome]
    at absent ⊢
  rwa [kind]

theorem selfContained_inner (member : site ∈ sites query) : SelfContained site.inner := by
  obtain ⟨g, inside, found, alone⟩ := (mem_innermost_iff (ofText query) [] site).mp member
  obtain ⟨front, body, rest, split, balanced, rfl⟩ :=
    exists_split_of_mem_groups (fits_ofText query) inside
  rw [glyphs_ofText] at split
  rw [Site.recognise_inner found]
  have none := site?_trim split alone
  obtain ⟨lead, trail, whole, leadBlank, trailBlank, terminated⟩ := glyphs_trim split
  have inner : IsDyck (marks (trim (body.map Glyph.char))) := by
    rw [marks_eq, isDyck_spread]
    rw [whole, IsDyck, brackets_append, brackets_append, brackets_blank leadBlank,
      brackets_blank trailBlank, List.nil_append, List.append_nil] at balanced
    exact balanced
  constructor
  · exact (innermost_eq_nil_iff _ []).mpr none
  · rw [hasList, recognised, ← filterMap_site_groups, List.filterMap_eq_nil_iff.mpr none,
      List.any_nil]
  · exact fun p => inner.paired_opening
  · exact fun q => inner.paired_closing
  · exact terminated

end Query

namespace Dialogue

/-- Every text that a dialogue may ask for has a property, whatever is replied. -/
def Asks (property : Text → Prop) : Dialogue α → Prop
  | done _ => True
  | report _ next => next.Asks property
  | ask query next => property query ∧ ∀ reply, (next reply).Asks property

namespace Asks

theorem bind {d : Dialogue α} {k : α → Dialogue β} (h : d.Asks property)
    (next : ∀ a, (k a).Asks property) : (d.bind k).Asks property := by
  induction d with
  | done a => exact next a
  | report event rest ih => exact ih h
  | ask query rest ih => exact ⟨h.1, fun reply => ih reply (h.2 reply)⟩

theorem map {d : Dialogue α} (h : d.Asks property) (f : α → β) : (d.map f).Asks property :=
  h.bind fun _ => trivial

theorem andThen {d : Dialogue (Except ε α)} {k : α → Dialogue (Except ε β)} (h : d.Asks property)
    (next : ∀ a, (k a).Asks property) : (d.andThen k).Asks property := by
  apply h.bind
  intro result
  cases result with
  | ok a => exact next a
  | error e => trivial

theorem run {d : Dialogue α} (h : d.Asks property) (engine : Engine σ) (state : σ) :
    ∀ asked ∈ (d.run engine state).calls, property asked := by
  induction d generalizing state with
  | done a => exact fun _ member => absurd member List.not_mem_nil
  | report event rest ih => exact ih h state
  | ask query rest ih => exact List.forall_mem_cons.mpr ⟨h.1, ih _ (h.2 _) _⟩

end Asks
end Dialogue

namespace Query

theorem askAll_asks (number ordinal : Nat) (h : ∀ site ∈ found, property site.inner) :
    (askAll number ordinal found).Asks property := by
  induction found generalizing ordinal with
  | nil => trivial
  | cons site more ih =>
    refine ⟨h site List.mem_cons_self, fun reply => ?_⟩
    cases reply with
    | error error => trivial
    | ok table =>
      exact (ih (ordinal + 1) fun s member => h s (List.mem_cons_of_mem _ member)).map _

/-- What holds of the sub-selects of every text holds of all that passes ask for. -/
theorem proceed_asks (h : ∀ t, ∀ site ∈ sites t, property site.inner)
    (limit left passes : Nat) (query : Text) :
    (proceed limit left passes query).Asks property := by
  induction left generalizing passes query with
  | zero =>
    by_cases found : sites query = []
    · rw [proceed_done found]
      trivial
    · rw [proceed_exhausted found]
      trivial
  | succ left ih =>
    by_cases found : sites query = []
    · rw [proceed_done found]
      trivial
    · rw [proceed_succ found]
      have asked := askAll_asks (passes + 1) 1 fun site member =>
        h query site (List.mem_reverse.mp member)
      exact (asked.map _).andThen fun next => ih (passes + 1) next

/-- Every text sent as a sub-select can be understood on its own: scanned alone it holds no
sub-select, each of its unquoted parentheses has its partner in it, and its literals are closed.
This is so of the sub-selects of any text, and of all that the passes of a run ask for. -/
theorem asked_selfContained (engine : Engine σ) (maxPasses : Nat) (query : Text) (state : σ) :
    (∀ site ∈ sites query, SelfContained site.inner) ∧
      ∀ asked ∈ ((rewrite maxPasses query).run engine state).calls, SelfContained asked :=
  ⟨fun _ => selfContained_inner,
    (proceed_asks (fun _ _ => selfContained_inner) maxPasses maxPasses 0 query).run engine state⟩

/-- Among parentheses without partners, a quoted one and a literal that is never closed. -/
theorem asked_selfContained_among :
    ∃ site asked,
      sites "x) = 'it''s (' AND b IN( SELECT f(')') = (c) ) OR (y = 'z".toList = [site] ∧
      ((rewrite 2 "x) = 'it''s (' AND b IN( SELECT f(')') = (c) ) OR (y = 'z".toList).run
        emptyEngine ()).calls = [asked] ∧
      site.inner = "SELECT f(')') = (c)".toList ∧ asked = site.inner ∧
      SelfContained site.inner ∧ SelfContained asked := by
  obtain ⟨alone, called⟩ := asked_selfContained emptyEngine 2
    "x) = 'it''s (' AND b IN( SELECT f(')') = (c) ) OR (y = 'z".toList ()
  have found : sites "x) = 'it''s (' AND b IN( SELECT f(')') = (c) ) OR (y = 'z".toList =
      [⟨21, 25, .list "IN".toList, "SELECT f(')') = (c)".toList⟩] := by decide +kernel
  have calls : ((rewrite 2 "x) = 'it''s (' AND b IN( SELECT f(')') = (c) ) OR (y = 'z".toList).run
      emptyEngine ()).calls = ["SELECT f(')') = (c)".toList] := by decide +kernel
  rw [found] at alone
  rw [calls] at called
  exact ⟨_, _, found, calls, rfl, rfl, alone _ List.mem_cons_self, called _ List.mem_cons_self⟩

end Query
end Subselect
