import Subselect.Proofs.Loss

/-! Runs that leave nothing behind. If every answer is a success, a query that loses no sub-select
is done after as many passes as its sub-selects are deep, and each of them is run once. A query that
does lose one leaves it behind where the answers are empty. -/
namespace Subselect

open Text Outline

/-- An engine that never fails. -/
def Engine.Answers (engine : Engine σ) : Prop :=
  ∀ query state, ∃ table, (engine query state).1 = .ok table

theorem Engine.Answers.replies {engine : Engine σ} (answers : engine.Answers) (queries : List Text)
    (state : σ) : ∃ tables : List Table, engine.replies queries state = tables.map .ok := by
  induction queries generalizing state with
  | nil => exact ⟨[], rfl⟩
  | cons query more ih =>
    obtain ⟨table, first⟩ := answers query state
    obtain ⟨tables, rest⟩ := ih (engine query state).2
    exact ⟨table :: tables, by simp [Engine.replies, first, rest]⟩

theorem depth_le_recognised (o : Outline) (before : Text) :
    o.depth before ≤ (o.recognised before).length := by
  induction o generalizing before with
  | nil => exact Nat.le_refl 0
  | leaf g rest ih => exact ih _
  | group body rest ihBody ihRest =>
    have inside := ihBody ('(' :: before)
    have behind := ihRest (past before body.text)
    simp only [Outline.depth, Outline.recognised, List.length_append]
    omega

namespace Query

def depth (query : Text) : Nat := (ofText query).depth []

/-- Whether a sub-select of a query can be lost: a scalar one is directly followed by the `IN` of a
list sub-select that is nested deeper. -/
def loses (query : Text) : Bool := (ofText query).loses []

theorem recognised_eq_nil (none : sites query = []) : recognised query = [] :=
  Outline.recognised_eq_nil _ _ none

theorem guarded_start (o : Outline) : Resolves.Guarded [] [] o :=
  ⟨[], [], [], rfl, rfl, .start, fun word => by simp at word⟩

/-- What a pass leaves of a query that loses nothing. -/
theorem safe_pass (h : Resolves [] (ofText query) edits o') (safe : loses query = false) :
    loses o'.text = false ∧ depth o'.text = depth query - 1 ∧
      (recognised o'.text).length + edits.length = (recognised query).length := by
  have intact := h.intact (guarded_start _) safe
  rw [loses, depth, recognised, h.ofText_text]
  refine ⟨?_, h.depth .start intact, intact⟩
  rw [← Bool.not_eq_true]
  intro loss
  have := h.loses .start intact loss
  exact absurd this (by simpa [loses] using safe)

/-- A run over a query that loses nothing, with something that every pass preserves. -/
theorem proceed_completes {engine : Engine σ} (answers : engine.Answers) (Kept : Text → Prop)
    (keeps : ∀ query tables o' state, Kept query → loses query = false →
      engine.replies ((sites query).reverse.map Site.inner) state = tables.reverse.map .ok →
      Resolves [] (ofText query) (editsOf query tables) o' → Kept o'.text)
    (limit left passes : Nat) (query : Text) (state : σ) (kept : Kept query)
    (safe : loses query = false) (enough : depth query ≤ left) :
    ∃ done, ((proceed limit left passes query).run engine state).outcome = .ok done ∧
      Kept done.query ∧ recognised done.query = [] ∧ done.passes = passes + depth query ∧
      done.exhausted = false ∧
      ((proceed limit left passes query).run engine state).calls.length =
        (recognised query).length := by
  induction left generalizing passes query state with
  | zero =>
    have none : sites query = [] := innermost_eq_nil_of_depth _ _ (Nat.le_zero.mp enough)
    rw [proceed_done none, recognised_eq_nil none]
    exact ⟨⟨query, passes, false⟩, rfl, kept, recognised_eq_nil none, by simp; omega, rfl, rfl⟩
  | succ left ih =>
    by_cases found : sites query = []
    · have flat : depth query = 0 := depth_eq_zero _ _ (recognised_eq_nil found)
      rw [proceed_done found, recognised_eq_nil found, flat]
      exact ⟨⟨query, passes, false⟩, rfl, kept, recognised_eq_nil found, rfl, rfl, rfl⟩
    · obtain ⟨tables, replies⟩ := answers.replies ((sites query).reverse.map Site.inner) state
      rw [← tables.reverse_reverse] at replies
      obtain ⟨o', resolves, outcome, calls⟩ :=
        pass_ok engine (passes + 1) query tables.reverse state replies
      obtain ⟨safe', layer, count⟩ := safe_pass resolves safe
      have nested : depth query ≠ 0 := fun flat => found (innermost_eq_nil_of_depth _ _ flat)
      obtain ⟨done, result, kept', none, passed, exhausted, rest⟩ :=
        ih (passes + 1) o'.text ((pass (passes + 1) query (sites query)).run engine state).state
          (keeps query tables.reverse o' state kept safe replies resolves) safe' (by omega)
      have run := length_editsOf engine query tables.reverse state replies
      refine ⟨done, ?_, kept', none, by omega, exhausted, ?_⟩
      · rw [proceed_succ found, Dialogue.run_report, Run.outcome_before,
          Dialogue.outcome_andThen _ _ _ _ outcome, result]
      · rw [length_calls_proceed found outcome calls, rest]
        omega

/-- The engine that answers everything with no rows. -/
def emptyEngine : Engine Unit := .ofFunction fun _ => .ok .empty

theorem replies_ofFunction (answer : Text → Table) (queries : List Text) :
    (Engine.ofFunction fun t => .ok (answer t)).replies queries () =
      (queries.map answer).map .ok := by
  induction queries with
  | nil => rfl
  | cons query more ih =>
    rw [Engine.replies, List.map_cons, List.map_cons]
    exact congrArg (_ :: ·) ih

theorem replies_sites (answer : Text → Table) (query : Text) :
    (Engine.ofFunction fun t => .ok (answer t)).replies ((sites query).reverse.map Site.inner) () =
      ((sites query).map fun site => answer site.inner).reverse.map .ok := by
  rw [replies_ofFunction, ← List.map_reverse, List.map_map, List.map_map, List.map_map]
  rfl

theorem editsOf_map (query : Text) (answer : Site → Table) :
    ∀ e ∈ editsOf query ((sites query).map answer), e = e.1.edit (answer e.1) := by
  rw [editsOf, List.zipWith_map_right, List.zipWith_self]
  intro e member
  obtain ⟨site, _, rfl⟩ := List.mem_map.mp member
  rfl

/-- A query that loses a sub-select makes fewer calls than it has sub-selects if every answer is
empty. -/
theorem proceed_loses (limit left passes : Nat) (query : Text) (loss : loses query = true) :
    ((proceed limit left passes query).run emptyEngine ()).calls.length <
      (recognised query).length := by
  induction left generalizing passes query with
  | zero =>
    have some : recognised query ≠ [] := fun none => by
      rw [loses, loses_eq_false _ _ none] at loss
      cases loss
    by_cases found : sites query = []
    · exact absurd (recognised_eq_nil found) some
    · simpa [proceed_exhausted found] using List.length_pos_iff.mpr some
  | succ left ih =>
    by_cases found : sites query = []
    · rw [loses, loses_eq_false _ _ (recognised_eq_nil found)] at loss
      cases loss
    · obtain ⟨o', resolves, outcome, calls⟩ := pass_ok emptyEngine (passes + 1) query _ ()
        (replies_sites (fun _ => .empty) query)
      have nulls := editsOf_map query fun _ => .empty
      have fewer := recognised_le resolves
      have run := length_editsOf emptyEngine query _ () (replies_sites (fun _ => .empty) query)
      rw [length_calls_proceed found outcome calls]
      by_cases intact : Intact [] [] (ofText query)
          (editsOf query ((sites query).map fun _ => .empty)) o'
      · have still : loses o'.text = true := by
          rw [loses, resolves.ofText_text]
          exact resolves.still_loses .start nulls intact loss
        have rest := ih (passes + 1) o'.text still
        exact Nat.lt_of_lt_of_le (Nat.add_lt_add_left rest _) (by omega)
      · have rest := calls_proceed_le emptyEngine limit left (passes + 1) o'.text ()
        have lost : (recognised o'.text).length + (sites query).length ≠
            (recognised query).length := by
          rw [recognised, resolves.ofText_text, ← run]
          exact intact
        exact Nat.lt_of_le_of_lt (Nat.add_le_add_left rest _) (by omega)

theorem emptyEngine_answers : emptyEngine.Answers := fun _ _ => ⟨.empty, rfl⟩

/-- Every sub-select of a query is run once and none is left, whatever an engine that never fails
answers, exactly if the query can lose none. -/
theorem runs_all_iff (query : Text) :
    (∀ (σ : Type) (engine : Engine σ) (state : σ) (maxPasses : Nat), engine.Answers →
      (recognised query).length ≤ maxPasses →
      ((rewrite maxPasses query).run engine state).calls.length = (recognised query).length ∧
        ∃ done, ((rewrite maxPasses query).run engine state).outcome = .ok done ∧
          done.exhausted = false ∧ recognised done.query = []) ↔
      loses query = false := by
  constructor
  · intro all
    rw [← Bool.not_eq_true]
    intro loss
    have fewer := proceed_loses (recognised query).length (recognised query).length 0 query loss
    exact Nat.ne_of_lt fewer
      (all Unit emptyEngine () (recognised query).length emptyEngine_answers (Nat.le_refl _)).1
  · intro safe σ engine state maxPasses answers enough
    have deep := depth_le_recognised (ofText query) []
    obtain ⟨done, outcome, _, none, _, exhausted, calls⟩ :=
      proceed_completes answers (fun _ => True) (fun _ _ _ _ _ _ _ _ => trivial) maxPasses
        maxPasses 0 query state trivial safe (Nat.le_trans deep enough)
    exact ⟨calls, done, outcome, exhausted, none⟩

/-- The number runs into the `IN`, and the list sub-select behind it is not run. -/
theorem runs_two_of_three :
    (recognised
      "SELECT * FROM t WHERE a = (SELECT 5)IN (SELECT b FROM u WHERE c = (SELECT d))".toList
      ).length = 3 ∧
      ((rewrite 3
        "SELECT * FROM t WHERE a = (SELECT 5)IN (SELECT b FROM u WHERE c = (SELECT d))".toList).run
        (.ofFunction fun _ => .ok (.ofRows [[(['v'], .integer 5)]])) ()).calls =
          ["SELECT d".toList, "SELECT 5".toList] ∧
      ((rewrite 3
        "SELECT * FROM t WHERE a = (SELECT 5)IN (SELECT b FROM u WHERE c = (SELECT d))".toList).run
        (.ofFunction fun _ => .ok (.ofRows [[(['v'], .integer 5)]])) ()).outcome =
          .ok ⟨"SELECT * FROM t WHERE a = 5IN (SELECT b FROM u WHERE c = 5)".toList, 1, false⟩ := by
  decide +kernel

end Query
end Subselect
