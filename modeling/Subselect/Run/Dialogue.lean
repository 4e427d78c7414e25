import Subselect.Engine.Basic
import Subselect.Query.Site

/-! A run as a dialogue with an engine: a tree of questions, each of whose answers decides what
comes next, with the events reported in between. Running it against an engine gives the outcome,
the questions and events in their order, and the engine's last state. -/
namespace Subselect

inductive Event where
  | passStarted (pass : Nat) (query : Text) (sites : List Site)
  | subqueryResolved (pass ordinal : Nat) (site : Site) (replacement : Text) (values : Nat)
  | subqueryFailed (pass ordinal : Nat) (site : Site) (error : EngineError)
  | passesExhausted (maxPasses : Nat) (query : Text)
  | queryResolved (query : Text) (passes : Nat)
  | finalQueryFailed (query : Text) (error : EngineError)
  deriving DecidableEq, Repr

inductive Step where
  | call (query : Text)
  | event (event : Event)
  deriving DecidableEq, Repr

def Step.call? : Step → Option Text
  | call query => some query
  | event _ => none

def Step.event? : Step → Option Event
  | call _ => none
  | event e => some e

inductive Dialogue (α : Type) where
  | done (value : α)
  | report (event : Event) (next : Dialogue α)
  | ask (query : Text) (next : Reply → Dialogue α)

/-- What came of a dialogue with one engine. -/
structure Run (σ α : Type) where
  outcome : α
  trace : List Step
  state : σ

namespace Run

def before (steps : List Step) (run : Run σ α) : Run σ α := { run with trace := steps ++ run.trace }

def calls (run : Run σ α) : List Text := run.trace.filterMap Step.call?

def events (run : Run σ α) : List Event := run.trace.filterMap Step.event?

end Run

namespace Dialogue

def bind : Dialogue α → (α → Dialogue β) → Dialogue β
  | done a, k => k a
  | report event next, k => report event (next.bind k)
  | ask query next, k => ask query fun reply => (next reply).bind k

def map (f : α → β) (d : Dialogue α) : Dialogue β := d.bind fun a => done (f a)

/-- Goes on after a success; a failure ends the dialogue. -/
def andThen (d : Dialogue (Except ε α)) (k : α → Dialogue (Except ε β)) : Dialogue (Except ε β) :=
  d.bind fun
    | .ok a => k a
    | .error e => done (.error e)

def run (engine : Engine σ) : Dialogue α → σ → Run σ α
  | done a, state => ⟨a, [], state⟩
  | report event next, state => (next.run engine state).before [.event event]
  | ask query next, state =>
    let (reply, state) := engine query state
    ((next reply).run engine state).before [.call query]

@[simp] theorem run_done (engine : Engine σ) (a : α) (state : σ) :
    (done a).run engine state = ⟨a, [], state⟩ := rfl

@[simp] theorem run_report (engine : Engine σ) (event : Event) (next : Dialogue α) (state : σ) :
    (report event next).run engine state = (next.run engine state).before [.event event] := rfl

@[simp] theorem run_ask (engine : Engine σ) (query : Text) (next : Reply → Dialogue α) (state : σ) :
    (ask query next).run engine state =
      ((next (engine query state).1).run engine (engine query state).2).before [.call query] := rfl

theorem run_bind (engine : Engine σ) (d : Dialogue α) (k : α → Dialogue β) (state : σ) :
    (d.bind k).run engine state =
      ((k (d.run engine state).outcome).run engine (d.run engine state).state).before
        (d.run engine state).trace := by
  induction d generalizing state with
  | done a => simp [bind, Run.before]
  | report event next ih => simp [bind, ih, Run.before]
  | ask query next ih => simp [bind, ih, Run.before]

end Dialogue
end Subselect
