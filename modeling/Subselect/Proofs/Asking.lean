import Subselect.Proofs.Pass

/-! The dialogue of one pass. It asks for the bodies of its sub-selects until a reply is an error,
and with no error its outcome is decided by the answers alone. -/
namespace Subselect

open Text

namespace Run

@[simp] theorem calls_done (a : α) (state : σ) : Run.calls ⟨a, [], state⟩ = [] := rfl

@[simp] theorem calls_call (query : Text) (run : Run σ α) :
    (run.before [.call query]).calls = query :: run.calls := rfl

@[simp] theorem calls_event (event : Event) (run : Run σ α) :
    (run.before [.event event]).calls = run.calls := rfl

@[simp] theorem outcome_before (steps : List Step) (run : Run σ α) :
    (run.before steps).outcome = run.outcome := rfl

end Run

namespace Dialogue

@[simp] theorem outcome_map (engine : Engine σ) (f : α → β) (d : Dialogue α) (state : σ) :
    ((d.map f).run engine state).outcome = f (d.run engine state).outcome := by
  simp [map, run_bind]

@[simp] theorem calls_map (engine : Engine σ) (f : α → β) (d : Dialogue α) (state : σ) :
    ((d.map f).run engine state).calls = (d.run engine state).calls := by
  simp [map, run_bind, Run.calls, Run.before]

theorem calls_andThen (engine : Engine σ) (d : Dialogue (Except ε α))
    (k : α → Dialogue (Except ε β)) (state : σ) (ok : (d.run engine state).outcome = .ok a) :
    ((d.andThen k).run engine state).calls =
      (d.run engine state).calls ++ ((k a).run engine (d.run engine state).state).calls := by
  simp [andThen, run_bind, ok, Run.calls, Run.before]

theorem outcome_andThen (engine : Engine σ) (d : Dialogue (Except ε α))
    (k : α → Dialogue (Except ε β)) (state : σ) (ok : (d.run engine state).outcome = .ok a) :
    ((d.andThen k).run engine state).outcome =
      ((k a).run engine (d.run engine state).state).outcome := by
  simp [andThen, run_bind, ok]

theorem calls_andThen_error (engine : Engine σ) (d : Dialogue (Except ε α))
    (k : α → Dialogue (Except ε β)) (state : σ) (error : (d.run engine state).outcome = .error e) :
    ((d.andThen k).run engine state).calls = (d.run engine state).calls := by
  simp [andThen, run_bind, error, Run.calls, Run.before]

theorem state_andThen (engine : Engine σ) (d : Dialogue (Except ε α))
    (k : α → Dialogue (Except ε β)) (state : σ) (ok : (d.run engine state).outcome = .ok a) :
    ((d.andThen k).run engine state).state =
      ((k a).run engine (d.run engine state).state).state := by
  simp [andThen, run_bind, ok, Run.before]

theorem outcome_andThen_error (engine : Engine σ) (d : Dialogue (Except ε α))
    (k : α → Dialogue (Except ε β)) (state : σ) (error : (d.run engine state).outcome = .error e) :
    ((d.andThen k).run engine state).outcome = .error e := by
  simp [andThen, run_bind, error, Run.before]

end Dialogue

/-- The replies to queries asked one after another. -/
def Engine.replies (engine : Engine σ) : List Text → σ → List Reply
  | [], _ => []
  | query :: more, state =>
    (engine query state).1 :: engine.replies more (engine query state).2

namespace Query

theorem askAll_ok (engine : Engine σ) (number ordinal : Nat) (sites : List Site)
    (tables : List Table) (state : σ)
    (answers : engine.replies (sites.map Site.inner) state = tables.map .ok) :
    ((askAll number ordinal sites).run engine state).outcome =
        .ok (sites.zipWith Site.edit tables) ∧
      ((askAll number ordinal sites).run engine state).calls = sites.map Site.inner := by
  induction sites generalizing ordinal tables state with
  | nil => exact ⟨rfl, rfl⟩
  | cons site more ih =>
    cases tables with
    | nil => simp [Engine.replies] at answers
    | cons table tables =>
      obtain ⟨first, rest⟩ := List.cons.inj answers
      obtain ⟨outcome, calls⟩ := ih (ordinal + 1) tables _ rest
      simp [askAll, first, outcome, calls, Site.edit]

theorem askAll_error (engine : Engine σ) (number ordinal : Nat) (sites : List Site) (state : σ) :
    (∃ tables : List Table, engine.replies (sites.map Site.inner) state = tables.map .ok) ∨
      (∃ report, ((askAll number ordinal sites).run engine state).outcome = .error report) ∧
        ((askAll number ordinal sites).run engine state).calls.length ≤ sites.length := by
  induction sites generalizing ordinal state with
  | nil => exact .inl ⟨[], rfl⟩
  | cons site more ih =>
    cases reply : (engine site.inner state).1 with
    | error error => exact .inr (by simp [askAll, reply])
    | ok table =>
      rcases ih (ordinal + 1) (engine site.inner state).2 with
        ⟨tables, answers⟩ | ⟨⟨report, error⟩, calls⟩
      · exact .inl ⟨table :: tables, by simp [Engine.replies, reply, answers]⟩
      · refine .inr ⟨⟨report, by simp [askAll, reply, error]⟩, ?_⟩
        simpa [askAll, reply] using calls

/-- The table of a result is what the engine answers the rewritten query with. -/
theorem resolve_answered (engine : Engine σ) (maxPasses : Nat) (query : Text) (state : σ)
    (ok : ((resolve maxPasses query).run engine state).outcome = .ok resolution) :
    (engine resolution.rewrite.query ((rewrite maxPasses query).run engine state).state).1 =
      .ok resolution.table := by
  cases rewritten : ((rewrite maxPasses query).run engine state).outcome with
  | error report =>
    rw [resolve, Dialogue.outcome_andThen_error _ _ _ _ rewritten] at ok
    cases ok
  | ok done =>
    rw [resolve, Dialogue.outcome_andThen _ _ _ _ rewritten, finish, Dialogue.run_report,
      Dialogue.run_ask] at ok
    cases reply : (engine done.query ((rewrite maxPasses query).run engine state).state).1 with
    | error error =>
      rw [reply] at ok
      cases ok
    | ok table =>
      rw [reply] at ok
      cases ok
      exact reply

end Query
end Subselect
