import Subselect.Proofs.Asking

/-! Replacing from right to left is substituting everywhere at once. Offsets are found on the text
as it was; what a pass has written so far follows the text it has read, span for span. -/
namespace Subselect

open Text Outline

/-- The text `t` ends with the last span of `edits`; `t'` has the same gaps in front of the spans,
and in their places the new texts. -/
inductive Weave : Text → List Edit → Text → Prop where
  | nil : Weave [] [] []
  | edit : Weave t edits t' → site.offset = size t + size gap → site.length = size span →
      Weave (t ++ (gap ++ span)) (edits ++ [(site, new)]) (t' ++ (gap ++ new))

namespace Text

/-- Gaps with a text behind each. -/
def weave (gaps texts : List Text) : Text := (gaps.zipWith (· ++ ·) texts).flatten

theorem weave_concat (same : gaps.length = texts.length) (gap t : Text) :
    weave (gaps ++ [gap]) (texts ++ [t]) = weave gaps texts ++ (gap ++ t) := by
  simp [weave, List.zipWith_append same]

end Text

/-- Each span stands where its edit says. -/
def Placed (gaps spans : List Text) (edits : List Edit) : Prop :=
  ∀ i gap span e, gaps[i]? = some gap → spans[i]? = some span → edits[i]? = some e →
    e.1.offset = size (weave (gaps.take i) (spans.take i)) + size gap ∧ e.1.length = size span

/-- `result` is `query` with the spans of all edits replaced at once: the gaps between the spans
stay as they are, and in the order they are in. -/
def Substituted (edits : List Edit) (query result : Text) : Prop :=
  ∃ gaps spans last, gaps.length = edits.length ∧ spans.length = edits.length ∧
    query = weave gaps spans ++ last ∧ result = weave gaps (edits.map Prod.snd) ++ last ∧
    Placed gaps spans edits

namespace Weave

/-- Each replacement finds its offset where it was, for those behind it are already made. -/
theorem splice (h : Weave t edits t') (rest : Text) :
    Query.splice edits.reverse (t ++ rest) = some (t' ++ rest) := by
  induction h generalizing rest with
  | nil => rfl
  | @edit t edits t' gap span site new _ offset length ih =>
    have replaced := replace_append (t ++ gap) span rest new
    rw [size_append, ← offset, ← length] at replaced
    have whole : t ++ (gap ++ span) ++ rest = t ++ gap ++ (span ++ rest) := by simp
    rw [List.reverse_append, whole, List.reverse_singleton, List.singleton_append, Query.splice,
      replaced]
    simpa using ih (gap ++ (new ++ rest))

/-- What follows the last span is the last gap. -/
theorem substituted (h : Weave t edits t') (last : Text) :
    Substituted edits (t ++ last) (t' ++ last) := by
  suffices pieces : ∃ gaps spans, gaps.length = edits.length ∧ spans.length = edits.length ∧
      t = weave gaps spans ∧ t' = weave gaps (edits.map Prod.snd) ∧ Placed gaps spans edits by
    obtain ⟨gaps, spans, gapsLength, spansLength, rfl, rfl, placed⟩ := pieces
    exact ⟨gaps, spans, last, gapsLength, spansLength, rfl, rfl, placed⟩
  induction h with
  | nil => exact ⟨[], [], rfl, rfl, rfl, rfl, fun _ _ _ _ gapAt => by simp at gapAt⟩
  | @edit t edits t' gap span site new _ offset length ih =>
    obtain ⟨gaps, spans, gapsLength, spansLength, rfl, rfl, placed⟩ := ih
    refine ⟨gaps ++ [gap], spans ++ [span], by simp [gapsLength], by simp [spansLength], ?_, ?_, ?_⟩
    · exact (weave_concat (by omega) gap span).symm
    · rw [List.map_append, List.map_singleton, weave_concat (by simpa using gapsLength)]
    · intro i gap' span' e gapAt spanAt editAt
      by_cases inside : i < edits.length
      · rw [List.getElem?_append_left (by omega)] at gapAt spanAt editAt
        rw [List.take_append_of_le_length (by omega), List.take_append_of_le_length (by omega)]
        exact placed i gap' span' e gapAt spanAt editAt
      · have last : i = edits.length := by
          have bound := (List.getElem?_eq_some_iff.mp editAt).1
          simp at bound
          omega
        subst last
        obtain rfl : gap = gap' := by simpa [← gapsLength] using gapAt
        obtain rfl : span = span' := by simpa [← spansLength] using spanAt
        obtain rfl : (site, new) = e := by simpa using editAt
        rw [List.take_left' gapsLength, List.take_left' spansLength]
        exact ⟨offset, length⟩

end Weave

/-- A pass has read `before` and written `before'`, both given backwards. Since the last edit
nothing but common text has passed. -/
def Trail (edits : List Edit) (before before' : Text) : Prop :=
  ∃ common s s', before = common ++ s ∧ before' = common ++ s' ∧ Seam s s' ∧
    Weave s.reverse edits s'.reverse

namespace Trail

theorem start : Trail [] [] [] := ⟨[], [], [], rfl, rfl, .start, .nil⟩

theorem append (w : Text) (h : Trail edits before before') :
    Trail edits (w ++ before) (w ++ before') := by
  obtain ⟨common, s, s', rfl, rfl, seam, weave⟩ := h
  exact ⟨w ++ common, s, s', by simp, by simp, seam, weave⟩

theorem cons (c : Char) (h : Trail edits before before') :
    Trail edits (c :: before) (c :: before') :=
  h.append [c]

theorem aligned (h : Trail edits before before') : Aligned before before' := by
  obtain ⟨common, s, s', rfl, rfl, seam, _⟩ := h
  exact ⟨common, s, s', rfl, rfl, seam⟩

theorem dropWhile_blank (h : Trail edits before before') :
    Trail edits (before.dropWhile isBlank) (before'.dropWhile isBlank) := by
  obtain ⟨common, s, s', rfl, rfl, seam, weave⟩ := h
  obtain ⟨first, second⟩ := seam.dropWhile_blank common
  exact ⟨common.dropWhile isBlank, s, s', first, second, seam, weave⟩

/-- The span of a sub-select begins behind the last edit, and its edit writes what it says. -/
theorem resolve (h : Trail edits before before') (found : Site.recognise before body = some site)
    (table : Table) :
    Trail (edits ++ [site.edit table]) (past before body)
      ((site.context.literal (Literal.ofTable table)).reverse ++
        ' ' :: before'.dropWhile isBlank) := by
  obtain ⟨rest, eq, chars, offset, length⟩ := Site.recognise_span found
  obtain ⟨common, s, s', same, written, seam, weave⟩ := h.dropWhile_blank
  have whole : before.takeWhile isBlank ++ before.dropWhile isBlank = before :=
    List.takeWhile_append_dropWhile
  have behind : common ++ s = site.context.head.reverse ++ rest := by
    rw [← same]
    apply (List.append_right_inj (before.takeWhile isBlank)).mp
    rw [whole, ← eq]
  obtain ⟨gap, rfl, rfl⟩ := prefix_of_append_eq behind fun c head member =>
    chars c (List.mem_reverse.mp member) (seam.head_first_mem head)
  obtain ⟨e, t, ends, member⟩ := (Context.isFilling_literalOutline table site.context).ends
  rw [Context.text_literalOutline] at ends
  refine ⟨[], _, _, rfl, rfl, ?_, ?_⟩
  · rw [ends]
    exact .turn (.inr rfl) member
  · have woven : Weave
        (s.reverse ++ (gap.reverse ++ (site.context.head ++
          ((before.takeWhile isBlank).reverse ++ '(' :: (body ++ [')'])))))
        (edits ++ [site.edit table])
        (s'.reverse ++ (gap.reverse ++ site.context.replacement (Literal.ofTable table))) := by
      refine weave.edit (by simpa [Nat.add_comm] using offset) ?_
      simp only [length, size_append, size_reverse, size_cons, size_nil, utf8Size_opening,
        utf8Size_closing]
      omega
    rw [written, eq]
    simpa [Context.replacement_eq] using woven

/-- White space in front of a sub-select is not written. -/
theorem beyond_resolve (h : Trail edits before before') (first : before.dropWhile isBlank = before)
    (blank : ∀ g ∈ space, isBlank g.char = true)
    (found : Site.recognise (beyond before space) body = some site) (table : Table) :
    Trail (edits ++ [site.edit table]) (past (beyond before space) body)
      ((site.context.literal (Literal.ofTable table)).reverse ++ ' ' :: before') := by
  have written : (beyond before' space).dropWhile isBlank = before' := by
    rw [dropWhile_beyond blank, h.aligned.not_blank first]
  have read : Trail edits (beyond before space) (beyond before' space) := h.append _
  have resolved := read.resolve found table
  rwa [written] at resolved

end Trail

/-- A pass goes on with its trail. -/
theorem Resolves.trail (h : Resolves before o edits o') (trail : Trail earlier before before') :
    Trail (earlier ++ edits) (o.text.reverse ++ before) (o'.text.reverse ++ before') := by
  induction h generalizing earlier before' with
  | nil => simpa using trail
  | leaf _ ih => simpa using ih (trail.cons _)
  | keep _ _ _ ihBody ihRest => simpa [past] using ihRest ((ihBody (trail.cons '(')).cons ')')
  | @site before space site rest edits rest' body table first blank _ found _ ih =>
    simpa [past, beyond] using ih (trail.beyond_resolve first blank found table)

/-- The replacements along a trail are all made, in the places found on the text as it was. -/
theorem Trail.splice (h : Trail edits query.reverse result.reverse) :
    ∃ t t' gap, Weave t edits t' ∧ query = t ++ gap ∧ result = t' ++ gap ∧
      Query.splice edits.reverse query = some result := by
  obtain ⟨common, s, s', eq, eq', _, weave⟩ := h
  have read : query = s.reverse ++ common.reverse := by simpa using congrArg List.reverse eq
  have written : result = s'.reverse ++ common.reverse := by simpa using congrArg List.reverse eq'
  refine ⟨_, _, _, weave, read, written, ?_⟩
  rw [written, ← weave.splice, ← read]

theorem Resolves.splice (h : Resolves [] (ofText query) edits o') :
    ∃ t t' gap, Weave t edits t' ∧ query = t ++ gap ∧ o'.text = t' ++ gap ∧
      Query.splice edits.reverse query = some o'.text :=
  Trail.splice (by simpa using h.trail .start)

theorem Engine.length_replies (engine : Engine σ) (queries : List Text) (state : σ) :
    (engine.replies queries state).length = queries.length := by
  induction queries generalizing state with
  | nil => rfl
  | cons query more ih => simp [replies, ih]

namespace Query

/-- The edits that the answers to a pass call for, from left to right. -/
def editsOf (query : Text) (tables : List Table) : List Edit :=
  (sites query).zipWith Site.edit tables

theorem length_answers (engine : Engine σ) (query : Text) (tables : List Table) (state : σ)
    (answers : engine.replies ((sites query).reverse.map Site.inner) state =
      tables.reverse.map .ok) : (sites query).length = tables.length := by
  simpa [Engine.length_replies] using congrArg List.length answers

theorem length_editsOf (engine : Engine σ) (query : Text) (tables : List Table) (state : σ)
    (answers : engine.replies ((sites query).reverse.map Site.inner) state =
      tables.reverse.map .ok) : (editsOf query tables).length = (sites query).length := by
  simp [editsOf, length_answers engine query tables state answers]

theorem zipWith_edit (sites : List Site) (tables : List Table)
    (same : sites.length = tables.length) :
    (sites.zipWith Site.edit tables).map Prod.fst = sites ∧
      ∀ e ∈ sites.zipWith Site.edit tables, ∃ table, e = e.1.edit table := by
  induction sites generalizing tables with
  | nil => exact ⟨rfl, by simp⟩
  | cons site more ih =>
    cases tables with
    | nil => simp at same
    | cons table tables =>
      obtain ⟨left, answered⟩ := ih tables (by simpa using same)
      refine ⟨by simp [left, Site.edit], fun e member => ?_⟩
      rcases List.mem_cons.mp member with rfl | member
      · exact ⟨table, rfl⟩
      · exact answered e member

/-- With no error a pass resolves every sub-select it found. -/
theorem pass_ok (engine : Engine σ) (number : Nat) (query : Text) (tables : List Table) (state : σ)
    (answers : engine.replies ((sites query).reverse.map Site.inner) state =
      tables.reverse.map .ok) :
    ∃ o', Resolves [] (Outline.ofText query) (editsOf query tables) o' ∧
      ((pass number query (sites query)).run engine state).outcome = .ok o'.text ∧
      ((pass number query (sites query)).run engine state).calls =
        (sites query).reverse.map Site.inner := by
  have same := length_answers engine query tables state answers
  obtain ⟨left, answered⟩ := zipWith_edit (sites query) tables same
  obtain ⟨o', resolves⟩ := exists_resolves (Outline.ofText query) [] [] rfl (by simp)
    (editsOf query tables) left answered
  obtain ⟨_, _, _, _, _, _, spliced⟩ := resolves.splice
  obtain ⟨outcome, calls⟩ := askAll_ok engine number 1 (sites query).reverse tables.reverse state
    answers
  refine ⟨o', resolves, ?_, by simpa [pass] using calls⟩
  have backwards : (sites query).reverse.zipWith Site.edit tables.reverse =
      (editsOf query tables).reverse := (List.reverse_zipWith same).symm
  simp [pass, outcome, backwards, spliced]

/-- Applying the replacements of a pass from right to left is substituting them all at once, and no
replacement misses its place. -/
theorem pass_substitutes (engine : Engine σ) (number : Nat) (query : Text) (tables : List Table)
    (state : σ)
    (answers : engine.replies ((sites query).reverse.map Site.inner) state =
      tables.reverse.map .ok) :
    ∃ result, Substituted (editsOf query tables) query result ∧
      (editsOf query tables).map Prod.fst = sites query ∧
      splice (editsOf query tables).reverse query = some result ∧
      ((pass number query (sites query)).run engine state).outcome = .ok result := by
  obtain ⟨o', resolves, outcome, _⟩ := pass_ok engine number query tables state answers
  obtain ⟨t, t', last, weave, read, written, spliced⟩ := resolves.splice
  have same := length_answers engine query tables state answers
  refine ⟨o'.text, ?_, (zipWith_edit (sites query) tables same).1, spliced, outcome⟩
  have whole := weave.substituted last
  rwa [← read, ← written] at whole

/-- The first replacement is shorter than its span, the second one longer. -/
theorem pass_substitutes_mixed :
    Substituted
      (editsOf "é IN (SELECT b) = (SELECT)".toList
        [.empty, .ofRows [[(['v'], .text "ünlike, numbers".toList)]]])
      "é IN (SELECT b) = (SELECT)".toList "é IN (NULL) = 'ünlike'".toList := by
  obtain ⟨result, substituted, _, spliced, _⟩ :=
    pass_substitutes (fun _ tables => (.ok (tables.headD .empty), tables.tail)) 1
      "é IN (SELECT b) = (SELECT)".toList
      [.empty, .ofRows [[(['v'], .text "ünlike, numbers".toList)]]]
      [.ofRows [[(['v'], .text "ünlike, numbers".toList)]], .empty] (by decide +kernel)
  have same : splice
      (editsOf "é IN (SELECT b) = (SELECT)".toList
        [.empty, .ofRows [[(['v'], .text "ünlike, numbers".toList)]]]).reverse
      "é IN (SELECT b) = (SELECT)".toList = some "é IN (NULL) = 'ünlike'".toList := by
    decide +kernel
  obtain rfl := Option.some.inj (spliced.symm.trans same)
  exact substituted

end Query
end Subselect
