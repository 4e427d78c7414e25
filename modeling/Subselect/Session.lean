import Subselect.Run.Log
import Subselect.Run.Metrics

/-! A session: queries rewritten or resolved one after another against one engine, with counters
that run on. -/
namespace Subselect

/-- Who hears of the events of a run. -/
inductive Observer where
  /-- Keeps the events, and counts and logs them. -/
  | recording
  /-- Counts and logs. -/
  | counting
  | silent
  deriving DecidableEq, Repr

namespace Observer

def heard (observer : Observer) (events : List Event) : List Event :=
  match observer with
  | silent => []
  | _ => events

def kept (observer : Observer) (events : List Event) : Option (List Event) :=
  match observer with
  | recording => some events
  | _ => none

end Observer

structure Session (σ : Type) where
  engine : Engine σ
  state : σ
  metrics : Metrics
  maxPasses : Nat

inductive Task where
  | rewrite (query : Text)
  | resolve (query : Text)
  deriving DecidableEq, Repr

/-- What came of a task: the rewritten query, and the rows if it was resolved. -/
inductive Done where
  | rewritten (rewrite : Rewrite)
  | resolved (resolution : Resolution)
  deriving DecidableEq, Repr

namespace Task

def dialogue (maxPasses : Nat) : Task → Dialogue (Outcome Done)
  | rewrite query => (Query.rewrite maxPasses query).map (·.map .rewritten)
  | resolve query => (Query.resolve maxPasses query).map (·.map .resolved)

/-- The name of the span a task runs in. -/
def span (format : Log.Format) : Task → Text
  | rewrite _ => []
  | resolve _ => format.resolving

def count (task : Task) (events : List Event) (outcome : Outcome Done) (m : Metrics) : Metrics :=
  match task with
  | rewrite _ => m.afterRewrite events
  | resolve _ => m.afterResolve events outcome.isOk

end Task

namespace Session

/-- Performs a task: its run, and the session afterwards. -/
def perform (observer : Observer) (task : Task) (s : Session σ) :
    Run σ (Outcome Done) × Session σ :=
  let run := (task.dialogue s.maxPasses).run s.engine s.state
  let metrics := task.count (observer.heard run.events) run.outcome s.metrics
  (run, { s with state := run.state, metrics })

end Session
end Subselect
