import Subselect.Proofs.Groups
import Subselect.Proofs.Positions

/-! Where the sub-selects of a rewritten query come from. A pass makes none: each one it leaves is
one of the query it was given, with the same use of its rows, and nothing that makes it one was
inserted. -/
namespace Subselect

open Text Outline Query

namespace Site

/-- A span ends with the closing parenthesis, and its keyword or operator in front of the white
space before the opening one. -/
theorem recognise_ends (h : recognise before body = some site) :
    site.finish = size before + size body + 2 ∧
      site.headEnd + size (before.takeWhile isBlank) = size before := by
  obtain ⟨rest, eq, _, offset, length⟩ := recognise_span h
  have sizes := congrArg size eq
  simp only [size_append, size_reverse] at sizes
  simp only [finish, headEnd, length]
  omega

end Site

namespace Resolves

/-- No span goes beyond the outline. -/
theorem finish_le (h : Resolves before o edits o') :
    ∀ e ∈ edits, e.1.finish ≤ size before + size o.text := by
  induction h with
  | nil => simp
  | leaf _ ih =>
    intro e member
    have := ih e member
    simp only [size_cons, text_leaf] at this ⊢
    omega
  | keep _ _ _ ihBody ihRest =>
    intro e member
    rw [size_text_group]
    rcases List.mem_append.mp member with member | member
    · have := ihBody e member
      simp only [size_cons, utf8Size_opening] at this
      omega
    · have := ihRest e member
      rw [size_past] at this
      omega
  | @site before space site rest edits rest' body table _ _ _ found _ ih =>
    intro e member
    have front := size_beyond before space
    rw [text_leaves, size_append, size_text_group]
    rcases List.mem_cons.mp member with rfl | member
    · have := (Site.recognise_ends found).1
      simp only [Site.edit]
      omega
    · have := ih e member
      rw [size_past] at this
      omega

/-- Spans begin behind the last parenthesis in front of the outline. -/
theorem offset_ge (h : Resolves before o edits o') (near far : Text) (eq : before = near ++ far)
    (bracket : ∀ c, far.head? = some c → c = '(' ∨ c = ')') :
    ∀ e ∈ edits, size far ≤ e.1.offset := by
  have behind (b body : Text) : ∀ c, (past b body).head? = some c → c = '(' ∨ c = ')' := by
    rintro c ⟨⟩
    exact .inr rfl
  induction h generalizing near with
  | nil => simp
  | @leaf _ _ _ _ g _ ih => exact ih (g.char :: near) (by simp [eq])
  | @keep before body inside body' rest edits rest' _ _ _ ihBody ihRest =>
    have shorter : size far ≤ size before := by simp [eq]
    intro e member
    rcases List.mem_append.mp member with member | member
    · exact ihBody ('(' :: near) (by simp [eq]) e member
    · exact ihRest (')' :: (body.text.reverse ++ '(' :: near)) (by simp [past, eq]) e member
  | @site before space site rest edits rest' body table first blank _ found _ ih =>
    intro e member
    rcases List.mem_cons.mp member with rfl | member
    · obtain ⟨rest, whole, chars, offset, _⟩ := Site.recognise_span found
      have front : (space.map Glyph.char).reverse ++ near ++ far =
          (beyond before space).takeWhile isBlank ++ site.context.head.reverse ++ rest := by
        rw [List.append_assoc, List.append_assoc, ← whole, ← eq, beyond]
      obtain ⟨gap, _, rfl⟩ := prefix_of_append_eq front fun c head member => by
        rcases List.mem_append.mp member with member | member
        · have space := List.all_eq_true.mp List.all_takeWhile c member
          rcases bracket c head with rfl | rfl <;> exact absurd space (by decide)
        · have letter := chars c (List.mem_reverse.mp member)
          rcases bracket c head with rfl | rfl <;> exact letter (by decide)
      simp only [Site.edit, offset, size_append]
      omega
    · exact ih (')' :: (body.text.reverse ++ '(' :: ((space.map Glyph.char).reverse ++ near)))
        (by simp [past, beyond, eq]) e member

/-- No keyword or operator of an edit ends within a word the outline begins with. -/
theorem headEnd_ge_word (h : Resolves before o edits o') :
    ∀ e ∈ edits, size before + size (o.text.takeWhile isWordChar) ≤ e.1.headEnd := by
  induction h with
  | nil => simp
  | @leaf _ rest _ _ g _ ih =>
    intro e member
    have := ih e member
    by_cases word : isWordChar g.char = true
    · simp only [size_cons, text_leaf, List.takeWhile_cons_of_pos word] at this ⊢
      omega
    · simp only [size_cons, text_leaf, List.takeWhile_cons_of_neg word, size_nil] at this ⊢
      omega
  | keep _ _ _ ihBody ihRest =>
    intro e member
    rw [text_group, List.takeWhile_cons_of_neg (by simp), size_nil]
    rcases List.mem_append.mp member with member | member
    · have := ihBody e member
      simp only [size_cons] at this
      omega
    · have := ihRest e member
      rw [size_past] at this
      omega
  | @site before space site rest edits rest' body table first blank _ found _ ih =>
    intro e member
    have front := size_beyond before space
    have none : (Outline.leaves space (group body rest)).text.takeWhile isWordChar = [] := by
      cases space with
      | nil => simp [Outline.leaves]
      | cons g space => simp [Outline.leaves, not_isWordChar_of_isBlank (blank g (by simp))]
    rw [none, size_nil]
    rcases List.mem_cons.mp member with rfl | member
    · have ends := (Site.recognise_ends found).2
      rw [takeWhile_beyond blank first, size_reverse] at ends
      simp only [Site.edit]
      omega
    · have := ih e member
      rw [size_past] at this
      omega

/-- Where nothing in front of an outline gives a context, none ends within the white space and the
word it begins with. -/
theorem headEnd_ge_opening (h : Resolves before o edits o')
    (lead : Context.ofBackward (before.dropWhile isBlank) = none) :
    ∀ e ∈ edits, size before + size (o.text.takeWhile isBlank) +
      size ((trimStart o.text).takeWhile isWordChar) ≤ e.1.headEnd := by
  induction h with
  | nil => simp
  | @leaf _ rest _ _ g h ih =>
    intro e member
    by_cases blank : isBlank g.char = true
    · have := ih (by simpa [blank] using lead) e member
      simp only [size_cons, text_leaf, trimStart, List.takeWhile_cons_of_pos blank,
        List.dropWhile_cons_of_pos blank] at this ⊢
      omega
    · have := (Resolves.leaf h).headEnd_ge_word e member
      simpa [trimStart, blank] using this
  | @keep before body inside body' rest edits rest' none h h' ihBody ihRest =>
    intro e member
    have := (Resolves.keep none h h').headEnd_ge_word e member
    simpa [trimStart] using this
  | site _ _ blank _ found =>
    rw [Site.recognise_eq_none (by rwa [dropWhile_beyond blank])] at found
    cases found

end Resolves

/-- The sub-select `g'` of what a pass leaves is the sub-select `g` of the query: the pass did not
run it, it uses its rows in the same way, and what makes it one stayed, that is both parentheses
and everything from the keyword or operator through the word `SELECT`. -/
structure Origin (edits : List Edit) (g g' : Group) (site site' : Site) : Prop where
  before : g.site? = some site
  after : g'.site? = some site'
  unmatched : site ∉ edits.map Prod.fst
  operator : site'.context.operator? = site.context.operator?
  opening : Stays edits g.opening g'.opening
  closing : Stays edits g.closing g'.closing
  lead : ∀ p', site'.offset ≤ p' → p' < g'.wordEnd → ∃ p, p < g.wordEnd ∧ Stays edits p p'

/-- Common text behind the last edit stays. -/
theorem Weave.stays (h : Weave s.reverse earlier s'.reverse) (k : Nat) (more : List Edit)
    (later : ∀ e ∈ more, size s + k < e.1.headEnd) (spans : ∀ e ∈ more, e.1.headEnd < e.1.finish) :
    Stays (earlier ++ more) (size s + k) (size s' + k) := by
  have behind := h.finish_le
  have grown := h.size_eq
  simp only [size_reverse] at behind grown
  constructor
  · intro e member
    rcases List.mem_append.mp member with member | member
    · have := behind e member
      exact .inr (by omega)
    · exact .inl (later e member)
  · have front : shift more (size s + k) = 0 := shift_eq_zero fun e member => by
      have := later e member
      have := spans e member
      omega
    have same : shift earlier (size s + k) = shift earlier (size s) :=
      shift_congr fun e member => by
        have := behind e member
        omega
    rw [shift_append, front, same]
    omega

theorem Trail.stays (h : Trail earlier before before') (more : List Edit)
    (later : ∀ e ∈ more, size before < e.1.headEnd) (spans : ∀ e ∈ more, e.1.headEnd < e.1.finish) :
    Stays (earlier ++ more) (size before) (size before') := by
  obtain ⟨common, s, s', rfl, rfl, _, weave⟩ := h
  have whole := weave.stays (size common) more
    (by simpa [Nat.add_comm] using later) spans
  simpa [Nat.add_comm] using whole

theorem size_opening_le (t : Text) :
    size (t.takeWhile isBlank) + size ((trimStart t).takeWhile isWordChar) ≤ size t := by
  have first := congrArg size (List.takeWhile_append_dropWhile (p := isBlank) (l := t))
  have second :=
    congrArg size (List.takeWhile_append_dropWhile (p := isWordChar) (l := trimStart t))
  rw [size_append] at first second
  simp only [trimStart] at second ⊢
  omega

/-- A pass replaces no group that it goes into. -/
theorem Trail.unmatched (trail : Trail earlier before before')
    (resolves : Resolves ('(' :: before) body inside body')
    (found : Site.recognise before body.text = some site)
    (behind : ∀ e ∈ later, size before + size body.text + 2 ≤ e.1.offset) :
    site ∉ (earlier ++ (inside ++ later)).map Prod.fst := by
  have ends := (Site.recognise_ends found).1
  obtain ⟨_, _, _, offset, length⟩ := Site.recognise_span found
  intro member
  obtain ⟨e, edit, rfl⟩ := List.mem_map.mp member
  rcases List.mem_append.mp edit with member | edit
  · obtain ⟨common, s, s', rfl, rfl, _, weave⟩ := trail
    have := weave.finish_le e member
    simp only [size_reverse, size_append] at this ends
    omega
  rcases List.mem_append.mp edit with member | member
  · have := resolves.finish_le e member
    simp only [size_cons, utf8Size_opening] at this
    omega
  · have := behind e member
    simp only [Site.finish] at ends
    omega

/-- The edits in a body and those behind its group leave the first word of the body. -/
theorem Resolves.headEnd_ge_wordEnd (resolves : Resolves ('(' :: before) body inside body')
    (behind : ∀ e ∈ later, size before + size body.text + 2 ≤ e.1.offset) :
    ∀ e ∈ inside ++ later, Group.wordEnd ⟨before, body.text⟩ ≤ e.1.headEnd := by
  have short := size_opening_le body.text
  have inner := resolves.headEnd_ge_opening rfl
  simp only [size_cons, utf8Size_opening] at inner
  intro e member
  simp only [Group.wordEnd, Group.opening]
  rcases List.mem_append.mp member with member | member
  · have := inner e member
    omega
  · have := behind e member
    have := Ordered.head_le e
    omega

/-- Everything from the keyword or operator of a sub-select on was read where it stands, as far as
the later edits leave it. -/
theorem Trail.lead (trail : Trail earlier before before')
    (found : Site.recognise before' body = some site') (length : Nat)
    (heads : ∀ e ∈ later, size before + length ≤ e.1.headEnd)
    (spans : ∀ e ∈ later, e.1.headEnd < e.1.finish)
    (low : site'.offset ≤ p') (high : p' < size before' + length) :
    ∃ p, p < size before + length ∧ Stays (earlier ++ later) p p' := by
  obtain ⟨common, s, s', rfl, rfl, seam, weave⟩ := trail
  obtain ⟨rest, whole, chars, offset, _⟩ := Site.recognise_span found
  obtain ⟨gap, _, rfl⟩ := prefix_of_append_eq (whole.trans (List.append_assoc _ _ _).symm)
    fun c head member => by
      have last := seam.head_second head
      rcases List.mem_append.mp member with member | member
      · have blank := List.all_eq_true.mp List.all_takeWhile c member
        exact absurd blank (by simp [Literal.endChars_not_blank c last])
      · exact chars c (List.mem_reverse.mp member) last
  obtain ⟨k, rfl⟩ : ∃ k, p' = size s' + k := ⟨p' - size s', by simp at offset; omega⟩
  simp only [size_append] at heads high ⊢
  refine ⟨size s + k, by omega, weave.stays k _ ?_ spans⟩
  intro e member
  have := heads e member
  omega

/-- The closing parenthesis of a group that a pass goes into stays. -/
theorem Trail.closing (trail : Trail earlier before before')
    (resolves : Resolves ('(' :: before) body inside body')
    (behind : ∀ e ∈ later, size before + size body.text + 2 ≤ e.1.offset)
    (spans : ∀ e ∈ later, e.1.headEnd < e.1.finish) :
    Stays (earlier ++ (inside ++ later)) (Group.closing ⟨before, body.text⟩)
      (Group.closing ⟨before', body'.text⟩) := by
  have crossed := (resolves.trail (trail.cons '(')).stays later
    (fun e member => by
      have := behind e member
      have := Ordered.head_le e
      simp only [size_append, size_reverse, size_cons, utf8Size_opening]
      omega) spans
  simp only [size_append, size_reverse, size_cons, utf8Size_opening, List.append_assoc] at crossed
  simpa [Group.closing, Nat.add_comm] using crossed

/-- A sub-select that still is one when the pass comes by was one before. -/
theorem Trail.origin (trail : Trail earlier before before')
    (resolves : Resolves ('(' :: before) body inside body')
    (found : Site.recognise before' body'.text = some site')
    (behind : ∀ e ∈ later, size before + size body.text + 2 ≤ e.1.offset)
    (spans : ∀ e ∈ inside ++ later, e.1.headEnd < e.1.finish) :
    ∃ site, Origin (earlier ++ (inside ++ later)) ⟨before, body.text⟩ ⟨before', body'.text⟩ site
      site' := by
  obtain ⟨site, here, operator⟩ :=
    Site.recognise_aligned trail.aligned resolves.isSelect_body found
  have heads := resolves.headEnd_ge_wordEnd behind
  simp only [Group.wordEnd, Group.opening] at heads
  refine ⟨site, here, found, ?_, operator, ?_, ?_, ?_⟩
  · exact trail.unmatched resolves here behind
  · exact trail.stays _ (fun e member => by have := heads e member; omega) spans
  · exact trail.closing resolves behind fun e member => spans e (List.mem_append_right _ member)
  · intro p' low high
    obtain ⟨blanks, word⟩ := resolves.opening rfl
    simp only [Group.wordEnd, Group.opening, blanks, word, Nat.add_assoc] at high heads ⊢
    exact trail.lead found _ heads spans low high

namespace Resolves

theorem spans (h : Resolves before o edits o') : ∀ e ∈ edits, e.1.headEnd < e.1.finish := by
  intro e member
  obtain ⟨b, body, _, found, _⟩ := h.mem_edits member
  have ends := Site.recognise_ends found
  omega

/-- Every sub-select a pass leaves was there before. -/
theorem origin (h : Resolves before o edits o') (trail : Trail earlier before before')
    (later : List Edit) (behind : ∀ e ∈ later, size before + size o.text ≤ e.1.offset)
    (spans : ∀ e ∈ later, e.1.headEnd < e.1.finish) (member : g' ∈ o'.groups before')
    (found : g'.site? = some site') :
    ∃ g ∈ o.groups before, ∃ site, Origin (earlier ++ (edits ++ later)) g g' site site' := by
  induction h generalizing earlier before' later with
  | nil => simp [groups] at member
  | leaf _ ih =>
    exact ih (trail.cons _) _ (by simpa [Nat.add_comm, Nat.add_left_comm] using behind) spans member
  | @keep before body inside body' rest edits rest' _ insideResolves restResolves ihBody ihRest =>
    rw [size_text_group] at behind
    have next := restResolves.offset_ge [] (past before body.text) rfl
      fun c head => .inr (Option.some.inj head).symm
    rw [size_past] at next
    have after : ∀ e ∈ edits ++ later, size before + size body.text + 2 ≤ e.1.offset :=
      List.forall_mem_append.mpr ⟨next, fun e member => by have := behind e member; omega⟩
    have spansAfter := List.forall_mem_append.mpr ⟨restResolves.spans, spans⟩
    have spansAll := List.forall_mem_append.mpr ⟨insideResolves.spans, spansAfter⟩
    rw [List.append_assoc]
    rcases List.mem_cons.mp member with rfl | member
    · obtain ⟨site, origin⟩ := trail.origin insideResolves found after spansAll
      exact ⟨_, List.mem_cons_self, site, origin⟩
    rcases List.mem_append.mp member with member | member
    · obtain ⟨g, member, site, origin⟩ := ihBody (trail.cons '(') _
        (fun e member => by have := after e member; simp only [size_cons, utf8Size_opening]; omega)
        spansAfter member
      exact ⟨g, List.mem_cons_of_mem _ (List.mem_append_left _ member), site, origin⟩
    · have crossed := (insideResolves.trail (trail.cons '(')).cons ')'
      obtain ⟨g, member, site, origin⟩ := ihRest crossed _
        (fun e member => by have := behind e member; rw [size_past]; omega) spans member
      rw [List.append_assoc] at origin
      exact ⟨g, List.mem_cons_of_mem _ (List.mem_append_right _ member), site, origin⟩
  | @site before space site rest edits rest' body table first blank _ recognised _ ih =>
    have front := size_beyond before space
    rw [text_leaves, size_append, size_text_group] at behind
    rw [groups, groups_append] at member
    rcases List.mem_append.mp member with member | member
    · have none := (isFilling site table).recognised (' ' :: before')
      rw [← filterMap_site_groups, List.filterMap_eq_nil_iff] at none
      exact absurd (none g' member) (by simp [found])
    · rw [Context.text_literalOutline] at member
      obtain ⟨g, member, site, origin⟩ := ih (trail.beyond_resolve first blank recognised table) _
        (fun e member => by have := behind e member; rw [size_past]; omega) spans member
      refine ⟨g, ?_, site, by simpa using origin⟩
      rw [groups_leaves]
      exact List.mem_cons_of_mem _ (List.mem_append_right _ member)

end Resolves
end Subselect
