import Subselect.Proofs.Origin

/-! The rounds of a rewrite. Each one goes on with the text a pass left, so what holds from a query
to the text one pass makes of it holds along the whole run. -/
namespace Subselect

open Text Outline

namespace Outline

theorem recognised_append (a b : Outline) (before : Text) :
    (a.append b).recognised before =
      a.recognised before ++ b.recognised (a.text.reverse ++ before) := by
  rw [← filterMap_site_groups, groups_append, List.filterMap_append, filterMap_site_groups,
    filterMap_site_groups]

theorem innermost_sublist (o : Outline) (before : Text) :
    (o.innermost before).Sublist (o.recognised before) := by
  induction o generalizing before with
  | nil => exact .refl []
  | leaf g rest ih => exact ih _
  | group body rest ihBody ihRest =>
    have inside := ihBody ('(' :: before)
    have behind := ihRest (past before body.text)
    rw [innermost, recognised]
    cases inner : body.innermost ('(' :: before) with
    | nil => exact (List.sublist_append_left _ _).append behind
    | cons site more =>
      rw [inner] at inside
      exact (inside.trans (List.sublist_append_right _ _)).append behind

theorem innermost_length_le (o : Outline) (before : Text) :
    (o.innermost before).length ≤ (o.recognised before).length :=
  (innermost_sublist o before).length_le

end Outline

namespace Resolves

/-- A pass leaves no more sub-selects than it did not run. -/
theorem recognised_le (h : Resolves before o edits o') (aligned : Aligned before before') :
    (o'.recognised before').length + edits.length ≤ (o.recognised before).length := by
  induction h generalizing before' with
  | nil => simp [recognised]
  | leaf _ ih => exact ih (aligned.cons _)
  | @keep before body inside body' rest edits rest' _ insideResolves _ ihBody ihRest =>
    have inside := ihBody (aligned.cons '(')
    have behind := ihRest (.past before before' body.text body'.text)
    have here := Site.toList_recognise_le aligned insideResolves.isSelect_body
    simp only [recognised, List.length_append]
    omega
  | @site before space site rest edits rest' body table _ _ _ found _ ih =>
    have behind := ih (aligned_filling (beyond before space) (' ' :: before') body.text site table)
    simp only [recognised, recognised_append, (isFilling site table).recognised,
      recognised_leaves, found, List.length_append, List.length_cons, Glyph.char_plain,
      Option.toList_some, List.length_nil] at behind ⊢
    omega

end Resolves

namespace Query

theorem length_sites_le (query : Text) : (sites query).length ≤ (recognised query).length :=
  innermost_length_le (ofText query) []

/-- What one pass does to a query: it is resolved, or an error ends the run. -/
theorem pass_cases (engine : Engine σ) (number : Nat) (query : Text) (state : σ) :
    (∃ tables o', engine.replies ((sites query).reverse.map Site.inner) state =
        tables.reverse.map .ok ∧
      Resolves [] (ofText query) (editsOf query tables) o' ∧
      ((pass number query (sites query)).run engine state).outcome = .ok o'.text ∧
      ((pass number query (sites query)).run engine state).calls =
        (sites query).reverse.map Site.inner) ∨
      (∃ report, ((pass number query (sites query)).run engine state).outcome = .error report) ∧
        ((pass number query (sites query)).run engine state).calls.length ≤
          (sites query).length := by
  rcases askAll_error engine number 1 (sites query).reverse state with
    ⟨tables, answers⟩ | ⟨⟨report, error⟩, calls⟩
  · rw [← tables.reverse_reverse] at answers
    obtain ⟨o', resolved⟩ := pass_ok engine number query tables.reverse state answers
    exact .inl ⟨_, o', answers, resolved⟩
  · exact .inr ⟨⟨report.inPass number, by simp [pass, error]⟩, by simpa [pass] using calls⟩

theorem recognised_le (h : Resolves [] (ofText query) edits o') :
    (recognised o'.text).length + edits.length ≤ (recognised query).length := by
  rw [recognised, h.ofText_text]
  exact h.recognised_le .start

theorem proceed_done (found : sites query = []) :
    proceed limit left passes query = .done (.ok ⟨query, passes, false⟩) := by
  rw [proceed.eq_def]
  simp only [found]

theorem proceed_exhausted (found : sites query ≠ []) :
    proceed limit 0 passes query =
      .report (.passesExhausted limit query) (.done (.ok ⟨query, passes, true⟩)) := by
  obtain ⟨site, more, eq⟩ := List.exists_cons_of_ne_nil found
  rw [proceed.eq_def]
  simp only [eq]

theorem proceed_succ (found : sites query ≠ []) :
    proceed limit (left + 1) passes query =
      .report (.passStarted (passes + 1) query (sites query))
        ((pass (passes + 1) query (sites query)).andThen (proceed limit left (passes + 1))) := by
  obtain ⟨site, more, eq⟩ := List.exists_cons_of_ne_nil found
  rw [proceed.eq_def]
  simp only [eq]

/-- The calls of a run are those of its first pass and those of the rest. -/
theorem length_calls_proceed (found : sites query ≠ [])
    (outcome : ((pass (passes + 1) query (sites query)).run engine state).outcome = .ok result)
    (calls : ((pass (passes + 1) query (sites query)).run engine state).calls =
      (sites query).reverse.map Site.inner) :
    ((proceed limit (left + 1) passes query).run engine state).calls.length =
      (sites query).length +
        ((proceed limit left (passes + 1) result).run engine
          ((pass (passes + 1) query (sites query)).run engine state).state).calls.length := by
  rw [proceed_succ found, Dialogue.run_report, Run.calls_event,
    Dialogue.calls_andThen _ _ _ _ outcome, List.length_append, calls, List.length_map,
    List.length_reverse]

/-- A run makes at most as many calls as its query holds sub-selects. -/
theorem calls_proceed_le (engine : Engine σ) (limit left passes : Nat) (query : Text) (state : σ) :
    ((proceed limit left passes query).run engine state).calls.length ≤
      (recognised query).length := by
  induction left generalizing passes query state with
  | zero =>
    by_cases found : sites query = []
    · simp [proceed_done found]
    · simp [proceed_exhausted found]
  | succ left ih =>
    by_cases found : sites query = []
    · simp [proceed_done found]
    · rcases pass_cases engine (passes + 1) query state with
        ⟨tables, o', answers, resolves, outcome, calls⟩ | ⟨⟨report, error⟩, calls⟩
      · have rest := ih (passes + 1) o'.text
          ((pass (passes + 1) query (sites query)).run engine state).state
        have fewer := recognised_le resolves
        have count := length_editsOf engine query tables state answers
        rw [length_calls_proceed found outcome calls]
        omega
      · rw [proceed_succ found, Dialogue.run_report, Run.calls_event,
          Dialogue.calls_andThen_error _ _ _ _ error]
        exact Nat.le_trans calls (length_sites_le query)

/-- Of every sub-select a pass leaves there is an origin in the query. -/
theorem exists_origin (h : Resolves [] (ofText query) edits o') (g' : Group)
    (member : g' ∈ subselects o'.text) :
    ∃ g ∈ subselects query, ∃ site site', Origin edits g g' site site' := by
  rw [subselects, h.ofText_text, List.mem_filter] at member
  obtain ⟨site', found⟩ := Option.isSome_iff_exists.mp member.2
  obtain ⟨g, here, site, origin⟩ :=
    h.origin .start [] (by simp) (by simp) member.1 found
  refine ⟨g, List.mem_filter.mpr ⟨here, by simp [origin.before]⟩, site, site', ?_⟩
  simpa using origin

/-- No text an engine returns becomes a sub-select. The sub-selects of what a pass leaves are among
those of its query that it did not run, in the same order and with the same nesting, and nothing
that makes them sub-selects was inserted. So a run makes at most as many calls as its query holds
sub-selects. -/
theorem no_second_order_injection (engine : Engine σ) (query : Text) (state : σ) :
    (∀ number tables, engine.replies ((sites query).reverse.map Site.inner) state =
        tables.reverse.map .ok →
      ∃ (result : Text) (origin : Group → Group),
        ((pass number query (sites query)).run engine state).outcome = .ok result ∧
        (∀ g' ∈ subselects result, origin g' ∈ subselects query ∧ ∃ site site',
          Origin (editsOf query tables) (origin g') g' site site' ∧ site ∉ sites query ∧
          ∀ p', site'.offset ≤ p' ∧ p' < g'.wordEnd ∨ p' = g'.closing →
            ¬Inserted (editsOf query tables) p') ∧
        (∀ g' ∈ subselects result, ∀ h' ∈ subselects result,
          (origin g' = origin h' → g' = h') ∧
          (g'.opening < h'.opening ↔ (origin g').opening < (origin h').opening) ∧
          (g'.Contains h' ↔ (origin g').Contains (origin h')))) ∧
      ∀ maxPasses, ((rewrite maxPasses query).run engine state).calls.length ≤
        (recognised query).length := by
  refine ⟨?_, fun maxPasses => calls_proceed_le engine maxPasses maxPasses 0 query state⟩
  intro number tables answers
  obtain ⟨o', resolves, outcome, _⟩ := pass_ok engine number query tables state answers
  have ordered := resolves.ordered
  have total : ∀ g', ∃ g, g' ∈ subselects o'.text → g ∈ subselects query ∧
      ∃ site site', Origin (editsOf query tables) g g' site site' := by
    intro g'
    by_cases member : g' ∈ subselects o'.text
    · obtain ⟨g, here, origin⟩ := exists_origin resolves g' member
      exact ⟨g, fun _ => ⟨here, origin⟩⟩
    · exact ⟨g', fun h => absurd h member⟩
  obtain ⟨origin, from_⟩ := Classical.skolem.mp total
  refine ⟨o'.text, origin, outcome, ?_, ?_⟩
  · intro g' member
    obtain ⟨here, site, site', known⟩ := from_ g' member
    have unmatched := known.unmatched
    rw [editsOf, (zipWith_edit _ _ (length_answers engine query tables state answers)).1]
      at unmatched
    refine ⟨here, site, site', known, unmatched, ?_⟩
    intro p' place
    rcases place with ⟨low, high⟩ | rfl
    · obtain ⟨p, _, stays⟩ := known.lead p' low high
      exact stays.not_inserted ordered
    · exact known.closing.not_inserted ordered
  · intro g' first h' second
    obtain ⟨_, _, _, left⟩ := from_ g' first
    obtain ⟨_, _, _, right⟩ := from_ h' second
    have order := left.opening.lt_iff ordered right.opening
    have reverse := right.opening.lt_iff ordered left.opening
    refine ⟨?_, order, and_congr order (right.closing.lt_iff ordered left.closing)⟩
    intro same
    rw [same] at order reverse
    rw [subselects, List.mem_filter] at first second
    exact groups_eq_of_opening first.1 second.1 (by omega)

/-- An answer that reads like a sub-select is quoted; the one sub-select left is the outer one. -/
theorem no_second_order_injection_quoted :
    (subselects "a IN (SELECT b = '\\') = (SELECT c')".toList).length = 1 ∧
      ∃ origin : Group → Group, ∀ g' ∈ subselects "a IN (SELECT b = '\\') = (SELECT c')".toList,
        origin g' ∈ subselects "a IN (SELECT b = (SELECT c))".toList := by
  obtain ⟨result, origin, outcome, known, _⟩ :=
    (no_second_order_injection
      (fun _ _ => (.ok (.ofRows [[(['v'], .text "') = (SELECT c".toList)]]), ()))
      "a IN (SELECT b = (SELECT c))".toList ()).1 1
      [.ofRows [[(['v'], .text "') = (SELECT c".toList)]]] (by decide +kernel)
  have same : ((pass 1 "a IN (SELECT b = (SELECT c))".toList
      (sites "a IN (SELECT b = (SELECT c))".toList)).run
      (fun _ _ => (.ok (.ofRows [[(['v'], .text "') = (SELECT c".toList)]]), ())) ()).outcome =
        .ok "a IN (SELECT b = '\\') = (SELECT c')".toList := by decide +kernel
  obtain rfl := Except.ok.inj (outcome.symm.trans same)
  exact ⟨by decide +kernel, origin, fun g' member => (known g' member).1⟩

end Query
end Subselect
