import Subselect.Proofs.Completion

/-! Evaluation by recursion. Every outermost sub-select is replaced by the rows of its body, which
is evaluated before it is asked for. A rewrite peels the query layer by layer from the inside, and
comes to the same text. -/
namespace Subselect

open Text Outline Query

/-- Makes all replacements, the rightmost one first. -/
def Query.applied (edits : List Edit) (t : Text) : Text := (splice edits.reverse t).getD t

/-- The edits that evaluate an outline: one for each recognised sub-select that lies in no other
one. Its body is a text of its own, evaluated and trimmed before it is asked for. -/
def Outline.evaluation (answer : Text → Table) (before : Text) : Outline → List Edit
  | nil => []
  | leaf g rest => rest.evaluation answer (g.char :: before)
  | group body rest =>
    (match Site.recognise before body.text with
      | some site => [site.edit (answer (trim (applied (body.evaluation answer []) body.text)))]
      | none => body.evaluation answer ('(' :: before)) ++
      rest.evaluation answer (past before body.text)

/-- A query with every outermost sub-select replaced by what its evaluated body is answered with. -/
def Query.evaluate (answer : Text → Table) (query : Text) : Text :=
  applied ((ofText query).evaluation answer []) query

/-- The sub-selects that lie in no other one, each with its body. -/
def Outline.outermost (before : Text) : Outline → List (Site × Text)
  | nil => []
  | leaf g rest => rest.outermost (g.char :: before)
  | group body rest =>
    (match Site.recognise before body.text with
      | some site => [(site, body.text)]
      | none => body.outermost ('(' :: before)) ++
      rest.outermost (past before body.text)

theorem evaluation_eq_outermost (answer : Text → Table) (o : Outline) (before : Text)
    (fits : Outline.Fits level o) (reads : Mode.Reads m o.glyphs final) :
    o.evaluation answer before = (o.outermost before).map fun (site, body) =>
      site.edit (answer (trim (evaluate answer body))) := by
  induction o generalizing before level m final with
  | nil => rfl
  | leaf g rest ih =>
    cases reads with
    | cons _ reads =>
      cases fits with
      | leaf _ _ fits => exact ih _ fits reads
      | opening _ fits => exact ih _ fits reads
  | group body rest ihBody ihRest =>
    obtain ⟨_, inner, behind⟩ := reads.group
    cases fits with
    | group closed after =>
      have same : ofText body.text = body := ofText_of_reads (closed.weaken rfl) inner
      have right := ihRest (past before body.text) after behind
      cases found : Site.recognise before body.text with
      | none =>
        have left := ihBody ('(' :: before) closed inner
        simp [Outline.evaluation, Outline.outermost, found, left, right]
      | some site => simp [Outline.evaluation, Outline.outermost, found, evaluate, same, right]

/-- A query is evaluated by replacing each outermost sub-select by its keyword or operator and what
its body, evaluated and trimmed, is answered with. -/
theorem evaluate_eq_outermost (answer : Text → Table) (query : Text) :
    evaluate answer query =
      applied (((ofText query).outermost []).map fun (site, body) =>
        site.edit (answer (trim (evaluate answer body)))) query := by
  obtain ⟨final, scan⟩ := reads_ofText query
  rw [evaluate, evaluation_eq_outermost answer _ _ (fits_ofText query) scan]

/-- Two texts, given backwards, that end alike up to a place where no word goes on. -/
def Similar (before before' : Text) : Prop :=
  ∃ common s t, before = common ++ s ∧ before' = common ++ t ∧ Seam s t ∧
    t.head?.any isWordChar = false

namespace Similar

theorem append (w : Text) (h : Similar before before') : Similar (w ++ before) (w ++ before') := by
  obtain ⟨common, s, t, rfl, rfl, seam, ends⟩ := h
  exact ⟨w ++ common, s, t, by simp, by simp, seam, ends⟩

theorem cons (c : Char) (h : Similar before before') : Similar (c :: before) (c :: before') :=
  h.append [c]

theorem past (body : Text) (h : Similar before before') :
    Similar (past before body) (past before' body) := by
  simpa [Outline.past] using h.append (')' :: (body.reverse ++ ['(']))

theorem body (before : Text) : Similar ('(' :: before) [] :=
  ⟨[], '(' :: before, [], rfl, rfl, ⟨fun head => .inl (Option.some.inj head).symm, by simp⟩, rfl⟩

theorem aligned (h : Similar before before') : Aligned before before' := by
  obtain ⟨common, s, t, rfl, rfl, seam, _⟩ := h
  exact ⟨common, s, t, rfl, rfl, seam⟩

theorem kind_eq (h : Similar before before') : Context.kind before' = Context.kind before := by
  obtain ⟨common, s, t, rfl, rfl, seam, ends⟩ := h
  rcases seam.kind_eq common with same | ⟨_, _, word⟩
  · exact same
  · simp [ends] at word

end Similar

namespace Context

/-- Whether a literal is a list or one value is all that a context decides about it. -/
theorem literal_congr {a b : Context} (h : a.operator? = b.operator?) (values : List Text) :
    a.literal values = b.literal values := by
  cases a <;> cases b <;> simp_all [operator?, literal]

end Context

namespace Outline

/-- Evaluation while reading along: `w` is what has been written for the text `before`, both given
backwards. -/
def written (answer : Text → Table) (before w : Text) : Outline → Text
  | nil => w
  | leaf g rest => rest.written answer (g.char :: before) (g.char :: w)
  | group body rest =>
    rest.written answer (past before body.text) <|
      match Site.recognise before body.text with
      | some site =>
        (site.context.literal (Literal.ofTable
          (answer (trim (body.written answer ('(' :: before) []).reverse)))).reverse ++
          ' ' :: w.dropWhile isBlank
      | none => ')' :: body.written answer ('(' :: before) ('(' :: w)

theorem written_group_some (found : Site.recognise before body.text = some site) :
    (group body rest).written answer before w =
      rest.written answer (past before body.text)
        ((site.context.literal (Literal.ofTable
          (answer (trim (body.written answer ('(' :: before) []).reverse)))).reverse ++
          ' ' :: w.dropWhile isBlank) := by
  simp [written, found]

theorem written_group_none (found : Site.recognise before body.text = none) :
    (group body rest).written answer before w =
      rest.written answer (past before body.text)
        (')' :: body.written answer ('(' :: before) ('(' :: w)) := by
  simp [written, found]

@[simp] theorem written_leaves (answer : Text → Table) (before w : Text) (gs : List Glyph)
    (rest : Outline) :
    (leaves gs rest).written answer before w =
      rest.written answer (beyond before gs) (beyond w gs) := by
  induction gs generalizing before w with
  | nil => rfl
  | cons g gs ih => simp [leaves, written, ih]

/-- Where there is no sub-select, everything is copied. -/
theorem written_append (answer : Text → Table) (before w : Text) (a b : Outline)
    (none : a.recognised before = []) :
    (a.append b).written answer before w =
      b.written answer (a.text.reverse ++ before) (a.text.reverse ++ w) := by
  induction a generalizing before w b with
  | nil => rfl
  | leaf g rest ih => simpa [Outline.append, written] using ih _ _ _ none
  | group body rest ihBody ihRest =>
    simp only [recognised, List.append_eq_nil_iff, Option.toList_eq_nil_iff] at none
    have copied := ihBody ('(' :: before) ('(' :: w) nil none.1.2
    rw [append_nil, written] at copied
    rw [Outline.append, written_group_none none.1.1, copied, ihRest _ _ _ none.2]
    simp [past]

theorem written_eq_text (answer : Text → Table) (before w : Text) (o : Outline)
    (none : o.recognised before = []) : o.written answer before w = o.text.reverse ++ w := by
  have copied := written_append answer before w o nil none
  rwa [append_nil, written] at copied

/-- Of the text in front only what gives a context matters. -/
theorem written_congr (answer : Text → Table) (h : Similar before before') (w : Text)
    (o : Outline) : o.written answer before' w = o.written answer before w := by
  induction o generalizing before before' w with
  | nil => rfl
  | leaf g rest ih => exact ih (h.cons _) _
  | group body rest ihBody ihRest =>
    cases found : Site.recognise before body.text with
    | none =>
      have found' : Site.recognise before' body.text = none := by
        rw [← Option.isNone_iff_eq_none, ← Option.not_isSome, Site.recognise_isSome, h.kind_eq,
          ← Site.recognise_isSome, found]
        rfl
      rw [written_group_none found, written_group_none found', ihBody (h.cons '('),
        ihRest (h.past body.text)]
    | some site =>
      obtain ⟨select, kind⟩ := Site.recognise_kind found
      obtain ⟨site', found'⟩ : ∃ site', Site.recognise before' body.text = some site' := by
        apply Option.isSome_iff_exists.mp
        rw [Site.recognise_isSome, select, h.kind_eq, kind]
        rfl
      have same : site'.context.operator? = site.context.operator? := by
        have kind' := (Site.recognise_kind found').2
        rw [h.kind_eq, kind] at kind'
        exact (Option.some.inj kind').symm
      rw [written_group_some found, written_group_some found', ihBody (h.cons '('),
        Context.literal_congr same, ihRest (h.past body.text)]

theorem applied_of_trail (h : Trail edits t.reverse t'.reverse) : applied edits t = t' := by
  obtain ⟨_, _, _, _, _, _, spliced⟩ := h.splice
  simp [applied, spliced]

/-- Replacing the outermost sub-selects writes what is written while reading along. -/
theorem evaluation_trail (answer : Text → Table) (o : Outline) (trail : Trail edits before w) :
    Trail (edits ++ o.evaluation answer before) (o.text.reverse ++ before)
      (o.written answer before w) := by
  induction o generalizing edits before w with
  | nil => simpa [evaluation, written] using trail
  | leaf g rest ih => simpa [evaluation, written] using ih (trail.cons g.char)
  | group body rest ihBody ihRest =>
    cases found : Site.recognise before body.text with
    | none =>
      have next := ihRest ((ihBody (trail.cons '(')).cons ')')
      rw [written_group_none found]
      simpa [evaluation, found, past] using next
    | some site =>
      have own : applied (body.evaluation answer []) body.text =
          (body.written answer ('(' :: before) []).reverse := by
        rw [← written_congr answer (.body before)]
        exact applied_of_trail (by simpa using ihBody .start)
      have next := ihRest (trail.resolve found
        (answer (trim (applied (body.evaluation answer []) body.text))))
      rw [written_group_some found, ← own]
      simpa [evaluation, found, past] using next

theorem evaluate_eq (answer : Text → Table) (query : Text) :
    evaluate answer query = ((ofText query).written answer [] []).reverse :=
  applied_of_trail (by simpa using evaluation_trail answer (ofText query) .start)

end Outline

namespace Resolves

/-- A pass that loses nothing and is answered as evaluation is does not change what a query
evaluates to. -/
theorem written_eq (h : Resolves before o edits o') (aligned : Aligned before before')
    (intact : Intact before before' o edits o') (beside : Aligned before w)
    (answered : ∀ e ∈ edits, e = e.1.edit (answer e.1.inner)) :
    o'.written answer before' w = o.written answer before w := by
  induction h generalizing before' w with
  | nil => rfl
  | leaf _ ih => exact ih (aligned.cons _) intact (beside.cons _) answered
  | @keep before body inside body' rest edits rest' _ insideResolves restResolves ihBody ihRest =>
    obtain ⟨here, inner, behind⟩ :=
      (intact_keep_iff insideResolves restResolves aligned).mp intact
    have next := Aligned.past before before' body.text body'.text
    have left := fun e member => answered e (List.mem_append_left _ member)
    have right := fun e member => answered e (List.mem_append_right _ member)
    cases found' : Site.recognise before' body'.text with
    | none =>
      have found : Site.recognise before body.text = none := by
        rw [found'] at here
        exact Option.toList_eq_nil_iff.mp (List.length_eq_zero_iff.mp here.symm)
      rw [written_group_none found, written_group_none found',
        ihBody (aligned.cons '(') inner (beside.cons '(') left,
        ihRest next behind (.turn (.inr rfl) (by decide)) right]
    | some site' =>
      obtain ⟨site, found, same⟩ :=
        Site.recognise_aligned aligned insideResolves.isSelect_body found'
      obtain ⟨e, t, ends, member⟩ := (isFilling site
        (answer (trim (body.written answer ('(' :: before) []).reverse))).ends
      rw [Context.text_literalOutline] at ends
      rw [written_group_some found, written_group_some found', Context.literal_congr same,
        ihBody (aligned.cons '(') inner (Similar.body before).aligned left,
        ihRest next behind ?_ right]
      rw [ends]
      exact .turn (.inr rfl) member
  | @site before space site rest edits rest' body table first blank inner found _ ih =>
    have behind := (intact_site_iff site table inner found).mp intact
    have own : trim (body.written answer ('(' :: beyond before space) []).reverse = site.inner := by
      rw [written_eq_text _ _ _ _ (recognised_eq_nil body _ inner), Site.recognise_inner found]
      simp
    have literal : site.context.literal (Literal.ofTable (answer site.inner)) =
        site.context.literal (Literal.ofTable table) :=
      (Site.literal_eq (answered (site.edit table) (by simp))).symm
    rw [written, written_append _ _ _ _ _ ((isFilling site table).recognised _), written_leaves,
      written_group_some found, own, dropWhile_beyond blank, beside.not_blank first,
      literal, ← Context.text_literalOutline]
    exact ih (aligned_filling _ _ _ site table) behind (aligned_filling _ _ _ site table)
      fun e member => answered e (by simp [member])

end Resolves

namespace Query

theorem evaluate_pass (answer : Text → Table) (h : Resolves [] (ofText query) edits o')
    (safe : loses query = false) (answered : ∀ e ∈ edits, e = e.1.edit (answer e.1.inner)) :
    evaluate answer o'.text = evaluate answer query := by
  rw [evaluate_eq, evaluate_eq, h.ofText_text,
    h.written_eq .start (h.intact (guarded_start _) safe) .start answered]

theorem evaluate_done (answer : Text → Table) (none : recognised query = []) :
    evaluate answer query = query := by
  rw [evaluate_eq, written_eq_text _ _ _ _ none]
  simp

end Query

namespace Outline

/-- An `IN` in front of everything else begins with a letter. -/
theorem ahead_word (seen before : Text) (o : Outline) (h : 0 < o.ahead (seen ++ [c]) before) :
    isWordChar c = true := by
  induction o generalizing seen before with
  | nil => exact absurd h (Nat.lt_irrefl 0)
  | leaf g rest ih => exact ih (g.char :: seen) _ h
  | group body rest _ _ =>
    rw [ahead] at h
    split at h
    · next both =>
      obtain ⟨keyword, _⟩ := Bool.and_eq_true_iff.mp both
      rw [List.dropWhile_append] at keyword
      split at keyword
      · by_cases blank : isBlank c = true
        · rw [List.dropWhile_cons_of_pos blank] at keyword
          exact absurd keyword (by decide)
        · rw [List.dropWhile_cons_of_neg blank] at keyword
          exact (letter_of_toLower (alike_mem keyword (by simp))).1
      · exact (letter_of_toLower (alike_mem keyword (by simp))).1
    · exact absurd h (Nat.lt_irrefl 0)

/-- Where a sub-select can be lost, a letter follows the parenthesis of a scalar one. -/
theorem loses_spot (o : Outline) (before after : Text) (loss : o.loses before = true) :
    ∃ site ∈ o.recognised before, site.context.isList = false ∧
      ∃ t c rest, before.reverse ++ (o.text ++ after) = t ++ c :: rest ∧ size t = site.finish ∧
        isWordChar c = true := by
  induction o generalizing before after with
  | nil => cases loss
  | leaf g rest ih =>
    obtain ⟨site, member, scalar, spot⟩ := ih (g.char :: before) after loss
    exact ⟨site, member, scalar, by simpa using spot⟩
  | group body rest ihBody ihRest =>
    simp only [loses, Bool.or_eq_true, Bool.and_eq_true, decide_eq_true_eq] at loss
    rcases loss with (⟨scalar, deeper⟩ | loss) | loss
    · obtain ⟨site, found, list⟩ := (Option.any_eq_true _ _).mp scalar
      refine ⟨site, by simp [recognised, found], by simpa using list,
        (past before body.text).reverse, ?_⟩
      cases rest with
      | nil => exact absurd deeper (Nat.not_lt_zero _)
      | leaf g rest =>
        refine ⟨g.char, rest.text ++ after, by simp [past], ?_, ?_⟩
        · rw [size_reverse, size_past, (Site.recognise_ends found).1]
        · exact ahead_word [] _ rest (Nat.zero_lt_of_lt deeper)
      | group _ _ => exact absurd deeper (Nat.not_lt_zero _)
    · obtain ⟨site, member, scalar, spot⟩ :=
        ihBody ('(' :: before) (')' :: (rest.text ++ after)) loss
      exact ⟨site, by simp [recognised, member], scalar, by simpa using spot⟩
    · obtain ⟨site, member, scalar, spot⟩ := ihRest (past before body.text) after loss
      exact ⟨site, by simp [recognised, member], scalar, by simpa [past] using spot⟩

end Outline

namespace Query

/-- The character at an offset of a text. -/
def charAt? (offset : Nat) (t : Text) : Option Char := (divide offset t).bind (·.2.head?)

/-- No letter, digit or underscore follows the closing parenthesis of a scalar sub-select. -/
def Apart (query : Text) : Prop :=
  ∀ site ∈ recognised query, site.context.isList = false →
    (charAt? (site.offset + site.length) query).any isWordChar = false

instance (query : Text) : Decidable (Apart query) :=
  inferInstanceAs (Decidable (∀ site ∈ recognised query, site.context.isList = false →
    (charAt? (site.offset + site.length) query).any isWordChar = false))

theorem Apart.not_loses (h : Apart query) : loses query = false := by
  rw [← Bool.not_eq_true]
  intro loss
  obtain ⟨site, member, scalar, t, c, rest, eq, place, word⟩ :=
    loses_spot (ofText query) [] [] loss
  have whole : query = t ++ c :: rest := by simpa using eq
  have next : charAt? (site.offset + site.length) query = some c := by
    rw [charAt?, ← Site.finish, ← place, whole, divide_size]
    rfl
  have none := h site member scalar
  rw [next] at none
  exact absurd word (by simpa using none)

/-- With an engine whose answers depend on the query text alone, a rewrite comes to what evaluation
by recursion comes to, in as many passes as the sub-selects of the query are deep. -/
theorem rewrite_evaluates (answer : Text → Table) (query : Text) (maxPasses : Nat)
    (apart : Apart query) (enough : depth query ≤ maxPasses) :
    ((rewrite maxPasses query).run (.ofFunction fun t => .ok (answer t)) ()).outcome =
      .ok ⟨evaluate answer query, depth query, false⟩ := by
  have answers : (Engine.ofFunction fun t => .ok (answer t)).Answers := fun t _ => ⟨answer t, rfl⟩
  have keeps : ∀ q tables o' state, evaluate answer q = evaluate answer query → loses q = false →
      (Engine.ofFunction fun t => .ok (answer t)).replies ((sites q).reverse.map Site.inner) state =
        tables.reverse.map .ok →
      Resolves [] (ofText q) (editsOf q tables) o' →
      evaluate answer o'.text = evaluate answer query := by
    intro q tables o' _ kept safe replies resolves
    rw [replies_sites] at replies
    obtain rfl : (sites q).map (fun site => answer site.inner) = tables :=
      List.reverse_inj.mp ((List.map_inj_right fun _ _ h => Except.ok.inj h).mp replies)
    rw [evaluate_pass answer resolves safe (editsOf_map q fun site => answer site.inner), kept]
  obtain ⟨done, outcome, kept, none, passes, exhausted, _⟩ :=
    proceed_completes answers (fun t => evaluate answer t = evaluate answer query) keeps maxPasses
      maxPasses 0 query () rfl apart.not_loses enough
  rw [evaluate_done answer none] at kept
  rw [rewrite, outcome]
  obtain ⟨text, passed, left⟩ := done
  simp only at kept passes exhausted
  rw [kept, passes, exhausted, Nat.zero_add]

/-- Siblings of unequal depth, each answered with the query it sends. -/
theorem rewrite_evaluates_siblings :
    ((rewrite 2 "a IN (SELECT b = (SELECT 1)) OR c < (SELECT 2)".toList).run
      (.ofFunction fun t => .ok (.ofRows [[(['v'], .text t)]])) ()).outcome =
      .ok ⟨"a IN ('SELECT b = \\'SELECT 1\\'') OR c < 'SELECT 2'".toList, 2, false⟩ :=
  (rewrite_evaluates (fun t => .ofRows [[(['v'], .text t)]])
    "a IN (SELECT b = (SELECT 1)) OR c < (SELECT 2)".toList 2 (by decide +kernel)
    (by decide +kernel)).trans (by decide +kernel)

end Query
end Subselect
