import Subselect.Proofs.Depth
import Subselect.Proofs.Grammar

/-! What a pass takes up. A pair of parentheses is accepted when the grammar gives it a context and
its body is a `SELECT`; a pass takes the accepted pairs that hold no other accepted one. -/
namespace Subselect

open Text Outline

/-- The grammar accepts a pair of parentheses as a site. The span of the site runs from the keyword
or operator through the closing parenthesis. -/
structure Accepts (g : Group) (site : Site) : Prop where
  select : BeginsWithSelect g.body
  context : Introduces (trimEnd g.before.reverse) site.context
  offset : ∃ front, trimEnd g.before.reverse = front ++ site.context.head ∧ site.offset = size front
  finish : site.offset + site.length = g.closing + 1
  inner : site.inner = trim g.body

namespace Accepts

theorem trimEnd_reverse (before : Text) :
    trimEnd before.reverse = (before.dropWhile isBlank).reverse := by
  simp [trimEnd]

/-- A pair is accepted as one site at most, once its context is known. -/
theorem unique (first : Accepts g site) (second : Accepts g other)
    (same : site.context = other.context) : site = other := by
  obtain ⟨front, lead, offset⟩ := first.offset
  obtain ⟨front', lead', offset'⟩ := second.offset
  have fronts : front = front' := by
    rw [lead, same] at lead'
    exact List.append_cancel_right lead'
  have finish := first.finish.trans second.finish.symm
  have inner := first.inner.trans second.inner.symm
  have start : site.offset = other.offset := by rw [offset, offset', fronts]
  have length : site.length = other.length := by omega
  obtain ⟨_, _, _, _⟩ := site
  obtain ⟨_, _, _, _⟩ := other
  simp_all

theorem of_site? (h : g.site? = some site) : Accepts g site := by
  obtain ⟨select, found⟩ := Site.recognise_context h
  obtain ⟨rest, split, _, offset, length⟩ := Site.recognise_span h
  have lead : g.before.dropWhile isBlank = site.context.head.reverse ++ rest := by
    apply (List.append_right_inj (g.before.takeWhile isBlank)).mp
    rw [← split, List.takeWhile_append_dropWhile]
  constructor
  · exact (Site.isSelect_iff g.body).mp select
  · rw [trimEnd_reverse]
    apply (Context.ofBackward_eq_some_iff _ _).mp
    rwa [List.reverse_reverse]
  · refine ⟨rest.reverse, ?_, by rw [size_reverse, offset]⟩
    rw [trimEnd_reverse, lead]
    simp
  · have sizes := congrArg size split
    simp only [size_append, size_reverse] at sizes
    rw [Group.closing]
    omega
  · exact Site.recognise_inner h

theorem site?_eq (h : Accepts g site) : g.site? = some site := by
  have select := (Site.isSelect_iff g.body).mpr h.select
  have found := (Context.ofBackward_eq_some_iff _ _).mpr h.context
  rw [trimEnd_reverse, List.reverse_reverse] at found
  obtain ⟨other, here, same⟩ : ∃ other, g.site? = some other ∧ other.context = site.context := by
    simp [Group.site?, Site.recognise, select, found]
  rw [here, (of_site? here).unique h same]

end Accepts

theorem site?_eq_some_iff (g : Group) (site : Site) : g.site? = some site ↔ Accepts g site :=
  ⟨Accepts.of_site?, Accepts.site?_eq⟩

theorem site?_eq_none_iff (g : Group) : g.site? = none ↔ ∀ site, ¬Accepts g site := by
  simp only [Option.eq_none_iff_forall_ne_some, ne_eq, site?_eq_some_iff]

namespace Outline

theorem innermost_eq_nil_iff (o : Outline) (before : Text) :
    o.innermost before = [] ↔ ∀ g ∈ o.groups before, g.site? = none := by
  rw [← List.filterMap_eq_nil_iff, filterMap_site_groups]
  constructor
  · exact recognised_eq_nil o before
  · intro none
    have := innermost_length_le o before
    rw [none] at this
    exact List.length_eq_zero_iff.mp (Nat.le_zero.mp this)

/-- The innermost sub-selects are those that hold no other one. -/
theorem mem_innermost_iff (o : Outline) (before : Text) (site : Site) :
    site ∈ o.innermost before ↔ ∃ g ∈ o.groups before, g.site? = some site ∧
      ∀ h ∈ o.groups before, g.Contains h → h.site? = none := by
  induction o generalizing before with
  | nil => simp [innermost, groups]
  | leaf c rest ih => exact ih _
  | group body rest ihBody ihRest =>
    rw [innermost, List.mem_append, ihRest]
    constructor
    · rintro (here | ⟨g, member, found, alone⟩)
      · cases inner : body.innermost ('(' :: before) with
        | nil =>
          simp only [inner, Option.mem_toList] at here
          refine ⟨⟨before, body.text⟩, List.mem_cons_self, here, fun h member holds => ?_⟩
          have within := (groups_of_contains member holds).1 (.inl rfl)
          exact (innermost_eq_nil_iff body _).mp inner h within
        | cons first more =>
          simp only [inner] at here
          rw [← inner, ihBody] at here
          obtain ⟨g, member, found, alone⟩ := here
          refine ⟨g, List.mem_cons_of_mem _ (List.mem_append_left _ member), found, ?_⟩
          intro h member' holds
          exact alone h ((groups_of_contains member' holds).1 (.inr member)) holds
      · refine ⟨g, List.mem_cons_of_mem _ (List.mem_append_right _ member), found, ?_⟩
        intro h member' holds
        exact alone h ((groups_of_contains member' holds).2 member) holds
    · rintro ⟨g, member, found, alone⟩
      rw [groups, List.mem_cons, List.mem_append] at member
      rcases member with rfl | member | member
      · left
        have flat := (innermost_eq_nil_iff body ('(' :: before)).mpr fun h member =>
          alone h (List.mem_cons_of_mem _ (List.mem_append_left _ member))
            (contains_of_mem_body member)
        simpa [flat, Group.site?] using found
      · left
        have inner := (ihBody ('(' :: before)).mpr ⟨g, member, found, fun h member' =>
          alone h (List.mem_cons_of_mem _ (List.mem_append_left _ member'))⟩
        cases parts : body.innermost ('(' :: before) with
        | nil => simp [parts] at inner
        | cons first more => rwa [parts] at inner
      · right
        exact ⟨g, member, found, fun h member' =>
          alone h (List.mem_cons_of_mem _ (List.mem_append_right _ member'))⟩

end Outline

namespace Query

/-- The detector finds what the grammar describes. Its pairs are the unquoted parentheses with a
Dyck word between them, and stand in the text as they say; its sites are the accepted pairs that
hold no accepted one. -/
theorem sites_iff_accepts (query : Text) :
    (∀ opening closing,
      (∃ g ∈ (ofText query).groups [], g.opening = opening ∧ g.closing = closing) ↔
        Paired (marks query) opening closing) ∧
    (∀ g ∈ (ofText query).groups [],
      ∃ rest, query = g.before.reverse ++ '(' :: (g.body ++ ')' :: rest)) ∧
    ∀ site, site ∈ sites query ↔ ∃ g ∈ (ofText query).groups [], Accepts g site ∧
      ∀ h ∈ (ofText query).groups [], g.Contains h → ∀ other, ¬Accepts h other := by
  refine ⟨mem_groups_iff_paired query, fun g => groups_slice, fun site => ?_⟩
  simp only [sites, mem_innermost_iff, site?_eq_some_iff, site?_eq_none_iff]

end Query
end Subselect
