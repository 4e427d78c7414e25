import Subselect.Proofs.Detection

/-! The spans of the sub-selects that a pass takes up. They follow one another. Each consists of a
keyword or operator and of a `SELECT` in parentheses, with white space in between, and up to its
opening parenthesis none of it is quoted. -/
namespace Subselect

open Text Outline

namespace Text

/-- No white space stands at either end. -/
structure Trimmed (t : Text) : Prop where
  first : ∀ c, t.head? = some c → isBlank c = false
  last : ∀ c, t.getLast? = some c → isBlank c = false

theorem trimEnd_append_blank (t : Text) :
    ∃ trail, t = trimEnd t ++ trail ∧ ∀ c ∈ trail, isBlank c = true := by
  refine ⟨(t.reverse.takeWhile isBlank).reverse, ?_, ?_⟩
  · rw [trimEnd, ← List.reverse_append, List.takeWhile_append_dropWhile, List.reverse_reverse]
  · intro c member
    exact List.mem_takeWhile_imp (List.mem_reverse.mp member)

/-- Trimming takes white space from both ends. -/
theorem exists_trim (t : Text) : ∃ lead trail, t = lead ++ (trim t ++ trail) ∧
    (∀ c ∈ lead, isBlank c = true) ∧ ∀ c ∈ trail, isBlank c = true := by
  obtain ⟨trail, split, blank⟩ := trimEnd_append_blank (trimStart t)
  refine ⟨t.takeWhile isBlank, trail, ?_, ?_, blank⟩
  · rw [trim, ← split, blank_append_trimStart]
  · exact fun _ member => List.mem_takeWhile_imp member

theorem trimmed_trim (t : Text) : Trimmed (trim t) := by
  obtain ⟨trail, split, _⟩ := trimEnd_append_blank (trimStart t)
  constructor
  · intro c head
    apply head?_dropWhile isBlank t c
    change (trimStart t).head? = some c
    rw [split, List.head?_append]
    exact Option.or_eq_some_iff.mpr (.inl head)
  · intro c last
    rw [trim, trimEnd, List.getLast?_reverse] at last
    exact head?_dropWhile isBlank _ c last

/-- Trimming leaves the first word, if there is one. -/
theorem takeWhile_word_trim (t : Text) :
    (trim t).takeWhile isWordChar = (trimStart t).takeWhile isWordChar := by
  obtain ⟨trail, split, blank⟩ := trimEnd_append_blank (trimStart t)
  conv_rhs => rw [split]
  rw [trim, takeWhile_append_seam]
  intro c head
  exact not_isWordChar_of_isBlank (blank c (List.mem_of_mem_head? head))

theorem spread_plain (t : Text) :
    (t.map Glyph.plain).flatMap Glyph.spread = (octets t).map .plain := by
  induction t with
  | nil => rfl
  | cons c t ih =>
    rw [octets_cons, List.map_append, List.map_cons, List.flatMap_cons, Glyph.spread, ih]

/-- What is not quoted is plain in each of its octets. -/
theorem marks_plain {t : Text} (split : glyphs t = front ++ (plain.map .plain ++ rest))
    (low : size (front.map Glyph.char) ≤ p) (high : p < size (front.map Glyph.char) + size plain) :
    ∃ c, (marks t)[p]? = some (.plain c) := by
  rw [← length_flatMap_spread] at low high
  have inside : p - (front.flatMap Glyph.spread).length < (octets plain).length := by
    rw [length_octets]
    omega
  refine ⟨(octets plain)[p - (front.flatMap Glyph.spread).length], ?_⟩
  rw [marks_eq, split, List.flatMap_append, List.flatMap_append, spread_plain,
    List.getElem?_append_right low, List.getElem?_append_left (by rwa [List.length_map]),
    List.getElem?_map, List.getElem?_eq_getElem inside]
  rfl

/-- Text without quotes that leads up to an unquoted character is not quoted. -/
theorem glyphs_unquoted {t : Text} (split : glyphs t = front ++ (gs ++ .plain c :: rest))
    (other : ∀ g ∈ gs, isQuote g.char = false) : gs = (gs.map Glyph.char).map .plain := by
  obtain ⟨final, reads⟩ := reads_glyphs t
  rw [split] at reads
  obtain ⟨middle, first, second⟩ := reads.split
  obtain ⟨rfl, _⟩ := second.unquoted (first.proper Mode.proper_outside) other fun plain =>
    plain.plain.1
  obtain ⟨_, inner, _⟩ := second.split
  have unquoted : ∀ d ∈ gs.map Glyph.char, isQuote d = false := by simpa using other
  have read := Mode.scan_outside unquoted []
  rwa [List.append_nil, inner.scan_eq, Mode.scan, List.append_nil] at read

end Text

/-- What a query consists of around a sub-select and the white space in it. -/
structure Parts where
  front : Text
  gap : Text
  lead : Text
  trail : Text
  rest : Text

namespace Parts

/-- The span of a sub-select as it is written with this white space. -/
def span (parts : Parts) (site : Site) : Text :=
  site.context.head ++ parts.gap ++ '(' :: (parts.lead ++ site.inner ++ parts.trail ++ [')'])

/-- The query holds the sub-select with these parts around and in it. -/
structure Spells (parts : Parts) (query : Text) (site : Site) : Prop where
  whole : query = parts.front ++ parts.span site ++ parts.rest
  offset : site.offset = size parts.front
  length : site.length = size (parts.span site)
  blank : ∀ c ∈ parts.gap ++ parts.lead ++ parts.trail, isBlank c = true
  select : startsWithWord ['S', 'E', 'L', 'E', 'C', 'T'] site.inner = true
  trimmed : Trimmed site.inner
  unquoted : ∀ p, site.offset ≤ p → p ≤ site.offset + size site.context.head + size parts.gap →
    ∃ c, (marks query)[p]? = some (.plain c)

end Parts

namespace Query

/-- The spans a pass replaces follow one another. -/
theorem sites_apart (query : Text) :
    (sites query).Pairwise fun a b => a.offset < b.offset ∧ a.finish ≤ b.offset := by
  have same : ((sites query).map fun site => site.edit .empty).map Prod.fst = sites query := by
    rw [List.map_map]
    exact List.map_id _
  obtain ⟨o', resolves⟩ := exists_resolves (ofText query) [] [] rfl (by simp)
    ((sites query).map fun site => site.edit .empty) same (by
      intro e member
      obtain ⟨site, _, rfl⟩ := List.mem_map.mp member
      exact ⟨.empty, rfl⟩)
  have ordered := resolves.ordered
  rw [← same, List.pairwise_map]
  refine ordered.apart.imp_of_mem fun {a b} first _ behind => ⟨?_, behind⟩
  have grows := ordered.head a first
  have starts := Ordered.head_le a
  omega

/-- What a group is recognised by stands unquoted in front of its body. -/
theorem exists_head (member : g ∈ (ofText query).groups []) (found : g.site? = some site) :
    ∃ (outer body rest : List Glyph) (gap : Text),
      glyphs query =
        outer ++ ((site.context.head ++ gap ++ ['(']).map .plain ++ (body ++ .plain ')' :: rest)) ∧
      g.body = body.map Glyph.char ∧ (∀ c ∈ gap, isBlank c = true) ∧
      site.offset = size (outer.map Glyph.char) ∧
      site.length = size site.context.head + size gap + size g.body + 2 := by
  obtain ⟨front, body, rest, split, _, rfl⟩ := exists_split_of_mem_groups (fits_ofText query) member
  obtain ⟨far, lead, _, offset, length⟩ := Site.recognise_span found
  have context := (Site.recognise_context found).2
  rw [glyphs_ofText] at split
  dsimp only at lead length context
  have gapBlank : ∀ c ∈ ((beyond [] front).takeWhile isBlank).reverse, isBlank c = true :=
    fun _ member => List.mem_takeWhile_imp (List.mem_reverse.mp member)
  have gapSize := size_reverse ((beyond [] front).takeWhile isBlank)
  have forwards : front.map Glyph.char = far.reverse ++
      (site.context.head ++ ((beyond [] front).takeWhile isBlank).reverse) := by
    have := congrArg List.reverse lead
    simpa [beyond] using this
  generalize ((beyond [] front).takeWhile isBlank).reverse = gap at forwards gapBlank gapSize
  obtain ⟨outer, inner, rfl, outerText, innerText⟩ := List.map_eq_append_iff.mp forwards
  rw [List.append_assoc] at split
  have unquoted : ∀ g ∈ inner, isQuote g.char = false := by
    intro g member
    have inside : g.char ∈ inner.map Glyph.char := List.mem_map_of_mem member
    rw [innerText, List.mem_append] at inside
    rcases inside with head | blank
    · exact Context.head_unquoted context g.char head
    · exact not_isQuote_of_isBlank (gapBlank g.char blank)
  have plain := glyphs_unquoted split unquoted
  rw [plain, innerText] at split
  refine ⟨outer, body, rest, gap, by simpa using split, rfl, gapBlank, ?_, ?_⟩
  · rw [outerText, size_reverse, offset]
  · rw [length, gapSize]

theorem exists_spells (member : site ∈ sites query) : ∃ parts : Parts, parts.Spells query site := by
  obtain ⟨g, inside, found, _⟩ := (mem_innermost_iff (ofText query) [] site).mp member
  obtain ⟨outer, body, rest, gap, split, bodyText, gapBlank, offset, length⟩ :=
    exists_head inside found
  obtain ⟨lead, trail, trimmed, leadBlank, trailBlank⟩ := exists_trim g.body
  have inner := Site.recognise_inner found
  rw [← inner] at trimmed
  refine ⟨⟨outer.map Glyph.char, gap, lead, trail, rest.map Glyph.char⟩, ?_, offset, ?_, ?_, ?_, ?_,
    ?_⟩
  · have whole := congrArg (List.map Glyph.char) split
    simp only [glyphs_char, List.map_append, List.map_map, Function.comp_def, Glyph.char_plain,
      List.map_id', List.map_cons, ← bodyText, trimmed] at whole
    simpa [Parts.span] using whole
  · rw [length, trimmed]
    simp [Parts.span]
    omega
  · intro c member
    simp only [List.mem_append] at member
    rcases member with (member | member) | member
    · exact gapBlank c member
    · exact leadBlank c member
    · exact trailBlank c member
  · rw [startsWithWord, inner, takeWhile_word_trim]
    exact (Site.recognise_context found).1
  · rw [inner]
    exact trimmed_trim g.body
  · intro p low (high : p ≤ site.offset + size site.context.head + size gap)
    apply marks_plain split
    · rwa [← offset]
    · rw [← offset]
      simp
      omega

/-- The spans of a pass are well formed. They stand in the order of their offsets and do not
overlap. Each lies in the text between characters and is written as keyword or operator, opening
parenthesis, body and closing parenthesis with nothing but white space in between, where the body is
a `SELECT` without white space at its ends. The octets from the start of a span through its opening
parenthesis are outside all literals. -/
theorem sites_spelled (query : Text) :
    ((sites query).Pairwise fun a b => a.offset < b.offset ∧ a.finish ≤ b.offset) ∧
      ∀ site ∈ sites query, ∃ parts : Parts, parts.Spells query site :=
  ⟨sites_apart query, fun _ => exists_spells⟩

/-- Behind a string that holds a parenthesis and an octet of no character of its own, with white
space and letters of both kinds. -/
theorem sites_spelled_quoted :
    ∃ first second, sites "a = 'é (' AND b not  in( Select c ) OR d <=(SELECT e)".toList =
        [first, second] ∧ first.offset = 17 ∧ first.finish ≤ second.offset ∧
      ∃ parts : Parts, parts.Spells "a = 'é (' AND b not  in( Select c ) OR d <=(SELECT e)".toList
        first := by
  obtain ⟨apart, spelled⟩ :=
    sites_spelled "a = 'é (' AND b not  in( Select c ) OR d <=(SELECT e)".toList
  have found : sites "a = 'é (' AND b not  in( Select c ) OR d <=(SELECT e)".toList =
      [⟨17, 19, .list "not  in".toList, "Select c".toList⟩,
        ⟨42, 12, .scalar .lessEqual, "SELECT e".toList⟩] := by decide +kernel
  rw [found] at apart
  refine ⟨_, _, found, rfl, ?_, spelled _ (found ▸ List.mem_cons_self)⟩
  exact ((List.pairwise_cons.mp apart).1 _ (by simp)).2

end Query
end Subselect
