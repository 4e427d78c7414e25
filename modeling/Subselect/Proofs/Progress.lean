import Mathlib.Order.Bounds.Defs
import Subselect.Proofs.Completion

/-! Progress. The depth of a query is the length of its longest chain of sub-selects that lie within
each other. Every pass brings the depth down, whatever the engine answers, so a run makes no more
passes than its query is deep. -/
namespace Subselect

open Text Outline

namespace Outline

/-- Recognised sub-selects that lie within each other, the outermost one first. -/
structure Chain (before : Text) (o : Outline) (chain : List Group) : Prop where
  member : ∀ g ∈ chain, g ∈ o.groups before
  recognised : ∀ g ∈ chain, g.site?.isSome = true
  within : chain.Pairwise Group.Contains

theorem Chain.tail (h : Chain before o (g :: chain)) : Chain before o chain :=
  ⟨fun k member => h.member k (by simp [member]), fun k member => h.recognised k (by simp [member]),
    (List.pairwise_cons.mp h.within).2⟩

/-- A chain lies where all its members do. -/
theorem Chain.move (h : Chain before o chain) (member : ∀ g ∈ chain, g ∈ o'.groups before') :
    Chain before' o' chain :=
  ⟨member, h.recognised, h.within⟩

theorem Chain.length_le (h : Chain before o chain) : chain.length ≤ o.depth before := by
  induction o generalizing before chain with
  | nil =>
    cases chain with
    | nil => exact Nat.le_refl 0
    | cons g chain => exact absurd (h.member g (by simp)) List.not_mem_nil
  | leaf c rest ih => exact ih (h.move h.member)
  | group body rest ihBody ihRest =>
    cases chain with
    | nil => exact Nat.zero_le _
    | cons g chain =>
      have holds := (List.pairwise_cons.mp h.within).1
      have parts := fun k member => groups_of_contains (h.tail.member k member) (holds k member)
      have here := h.member g (by simp)
      rw [groups, List.mem_cons, List.mem_append] at here
      rw [Outline.depth]
      rcases here with rfl | here | here
      · have inner := ihBody (h.tail.move fun k member => (parts k member).1 (.inl rfl))
        have itself := h.recognised _ List.mem_cons_self
        obtain ⟨site, found⟩ := Option.isSome_iff_exists.mp itself
        rw [Group.site?] at found
        simp only [found, Option.toList_some, List.length_cons, List.length_nil]
        omega
      · have inner := ihBody (h.move fun k member => by
          rcases List.mem_cons.mp member with rfl | member
          · exact here
          · exact (parts k member).1 (.inr here))
        omega
      · have behind := ihRest (h.move fun k member => by
          rcases List.mem_cons.mp member with rfl | member
          · exact here
          · exact (parts k member).2 here)
        omega

theorem exists_chain (o : Outline) (before : Text) :
    ∃ chain, Chain before o chain ∧ chain.length = o.depth before := by
  induction o generalizing before with
  | nil => exact ⟨[], ⟨by simp, by simp, .nil⟩, rfl⟩
  | leaf c rest ih =>
    obtain ⟨chain, nested, length⟩ := ih (c.char :: before)
    exact ⟨chain, nested.move nested.member, length⟩
  | group body rest ihBody ihRest =>
    obtain ⟨inside, nested, length⟩ := ihBody ('(' :: before)
    obtain ⟨behind, nested', length'⟩ := ihRest (past before body.text)
    rw [Outline.depth]
    by_cases deeper : (Site.recognise before body.text).toList.length +
        body.depth ('(' :: before) ≤ rest.depth (past before body.text)
    · refine ⟨behind, nested'.move fun g member => ?_, by omega⟩
      exact List.mem_cons_of_mem _ (List.mem_append_right _ (nested'.member g member))
    · have whole : Chain before (group body rest) inside := nested.move fun g member =>
        List.mem_cons_of_mem _ (List.mem_append_left _ (nested.member g member))
      cases found : Site.recognise before body.text with
      | none =>
        simp only [found, Option.toList_none, List.length_nil] at deeper ⊢
        exact ⟨inside, whole, by omega⟩
      | some site =>
        simp only [found, Option.toList_some, List.length_cons, List.length_nil] at deeper ⊢
        refine ⟨⟨before, body.text⟩ :: inside, ⟨?_, ?_, ?_⟩, by simp only [List.length_cons]; omega⟩
        · exact List.forall_mem_cons.mpr ⟨List.mem_cons_self, whole.member⟩
        · exact List.forall_mem_cons.mpr ⟨by simp [Group.site?, found], whole.recognised⟩
        · exact .cons (fun g member => contains_of_mem_body (nested.member g member)) whole.within

end Outline

/-- A pass leaves one layer less at every place, and loses more only by losing sub-selects. -/
theorem Resolves.depth_le (h : Resolves before o edits o') (aligned : Aligned before before') :
    o'.depth before' ≤ o.depth before - 1 := by
  induction h generalizing before' with
  | nil => exact Nat.le_refl 0
  | leaf _ ih => exact ih (aligned.cons _)
  | @keep before body _ body' _ _ _ kept insideResolves _ ihBody ihRest =>
    have here := Site.toList_recognise_le aligned insideResolves.isSelect_body
    have left := ihBody (aligned.cons '(')
    have right := ihRest (.past before before' body.text body'.text)
    rw [Outline.depth, Outline.depth]
    by_cases none : body.innermost ('(' :: before) = []
    · simp only [kept none, Option.toList_none, List.length_nil] at here ⊢
      omega
    · have := mt (innermost_eq_nil_of_depth body _) none
      omega
  | @site before space site rest edits rest' body table _ _ _ found _ ih =>
    have right := ih (aligned_filling _ (' ' :: before') _ site table)
    rw [Outline.depth, depth_append, depth_eq_zero _ _ ((isFilling site table).recognised _),
      Glyph.char_plain, depth_leaves, Outline.depth]
    omega

namespace Query

theorem sites_ne_nil_iff (query : Text) : sites query ≠ [] ↔ 0 < depth query := by
  rw [Nat.pos_iff_ne_zero]
  constructor
  · exact mt fun flat => innermost_eq_nil_of_depth _ _ flat
  · exact mt fun none => depth_eq_zero_of_innermost _ _ none

theorem depth_lt (h : Resolves [] (ofText query) edits o') (some : sites query ≠ []) :
    depth o'.text < depth query := by
  have layer := h.depth_le .start
  have nested := (sites_ne_nil_iff query).mp some
  rw [depth, h.ofText_text]
  rw [depth] at nested ⊢
  omega

/-- How a rewrite succeeds: nothing is left to do, or the limit is reached, or a pass succeeds and
the rest of the run too. -/
theorem proceed_ok_cases
    (ok : ((proceed limit left passes query).run engine state).outcome = .ok done) :
    sites query = [] ∧ done = ⟨query, passes, false⟩ ∨
      sites query ≠ [] ∧ left = 0 ∧ done = ⟨query, passes, true⟩ ∨
      sites query ≠ [] ∧ ∃ fewer edits o' state', left = fewer + 1 ∧
        Resolves [] (ofText query) edits o' ∧
        ((proceed limit fewer (passes + 1) o'.text).run engine state').outcome = .ok done := by
  by_cases found : sites query = []
  · rw [proceed_done found] at ok
    exact .inl ⟨found, (Except.ok.inj ok).symm⟩
  · right
    cases left with
    | zero =>
      rw [proceed_exhausted found] at ok
      exact .inl ⟨found, rfl, (Except.ok.inj ok).symm⟩
    | succ fewer =>
      rw [proceed_succ found, Dialogue.run_report, Run.outcome_before] at ok
      rcases pass_cases engine (passes + 1) query state with
        ⟨tables, o', _, resolves, outcome, _⟩ | ⟨⟨report, error⟩, _⟩
      · rw [Dialogue.outcome_andThen _ _ _ _ outcome] at ok
        exact .inr ⟨found, fewer, _, o', _, rfl, resolves, ok⟩
      · simp [Dialogue.andThen, Dialogue.run_bind, error] at ok

/-- Passes done and layers left together do not grow along a run. -/
theorem proceed_progress
    (ok : ((proceed limit left passes query).run engine state).outcome = .ok done) :
    done.passes ≤ passes + left ∧ done.passes + depth done.query ≤ passes + depth query ∧
      (done.exhausted = true ↔ sites done.query ≠ []) ∧
      (done.exhausted = true → done.passes = passes + left) := by
  induction left generalizing passes query state with
  | zero =>
    rcases proceed_ok_cases ok with ⟨none, rfl⟩ | ⟨some, _, rfl⟩ | ⟨_, fewer, _, _, _, left, _⟩
    · simp [none]
    · simp [some]
    · cases left
  | succ left ih =>
    rcases proceed_ok_cases ok with ⟨none, rfl⟩ | ⟨_, zero, _⟩ |
      ⟨some, fewer, edits, o', state', more, resolves, rest⟩
    · simp [none]
    · cases zero
    · obtain rfl := Nat.succ.inj more
      obtain ⟨limited, layers, exhausted, all⟩ := ih rest
      have layer := depth_lt resolves some
      exact ⟨by omega, by omega, exhausted, fun h => by have := all h; omega⟩

/-- The depth of a query bounds the passes of a run. It is the length of the longest chain of
sub-selects within each other, and every pass brings it down. A run is exhausted exactly if its last
text still holds sub-selects; then it has made all the passes it may, and they were fewer than the
query is deep. -/
theorem passes_le_depth (engine : Engine σ) (query : Text) (state : σ) :
    IsGreatest {n | ∃ chain, (ofText query).Chain [] chain ∧ chain.length = n} (depth query) ∧
      (sites query ≠ [] ↔ 0 < depth query) ∧
      (∀ number result, sites query ≠ [] →
        ((pass number query (sites query)).run engine state).outcome = .ok result →
        depth result < depth query) ∧
      ∀ maxPasses done, ((rewrite maxPasses query).run engine state).outcome = .ok done →
        done.passes ≤ min maxPasses (depth query) ∧
        (done.exhausted = true ↔ sites done.query ≠ []) ∧
        (done.exhausted = true → done.passes = maxPasses) ∧
        (depth query ≤ maxPasses → done.exhausted = false) := by
  refine ⟨⟨exists_chain _ _, ?_⟩, sites_ne_nil_iff query, ?_, ?_⟩
  · rintro n ⟨chain, nested, rfl⟩
    exact nested.length_le
  · intro number result some ok
    rcases pass_cases engine number query state with
      ⟨tables, o', _, resolves, outcome, _⟩ | ⟨⟨report, error⟩, _⟩
    · rw [outcome] at ok
      obtain rfl := Except.ok.inj ok
      exact depth_lt resolves some
    · rw [error] at ok
      cases ok
  · intro maxPasses done ok
    obtain ⟨limited, layers, exhausted, all⟩ := proceed_progress ok
    refine ⟨by omega, exhausted, fun h => by have := all h; omega, fun enough => ?_⟩
    rw [← Bool.not_eq_true]
    intro still
    have left := (sites_ne_nil_iff done.query).mp (exhausted.mp still)
    have := all still
    omega

/-- Two layers and one pass: a sub-select is left, and it is no longer nested. -/
theorem passes_le_depth_exhausted :
    depth "a IN (SELECT b = (SELECT c))".toList = 2 ∧
      ((rewrite 1 "a IN (SELECT b = (SELECT c))".toList).run emptyEngine ()).outcome =
        .ok ⟨"a IN (SELECT b = NULL)".toList, 1, true⟩ ∧
      sites "a IN (SELECT b = NULL)".toList ≠ [] ∧ depth "a IN (SELECT b = NULL)".toList < 2 := by
  obtain ⟨_, _, lower, run⟩ := passes_le_depth emptyEngine "a IN (SELECT b = (SELECT c))".toList ()
  have two : depth "a IN (SELECT b = (SELECT c))".toList = 2 := by decide +kernel
  have ok : ((rewrite 1 "a IN (SELECT b = (SELECT c))".toList).run emptyEngine ()).outcome =
      .ok ⟨"a IN (SELECT b = NULL)".toList, 1, true⟩ := by decide +kernel
  have left := (run 1 _ ok).2.1.mp rfl
  have less := lower 1 "a IN (SELECT b = NULL)".toList (by decide +kernel) (by decide +kernel)
  rw [two] at less
  exact ⟨two, ok, left, less⟩

end Query
end Subselect
