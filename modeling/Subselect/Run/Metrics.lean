import Subselect.Run.Rewrite

/-! Counters over the runs of a program. -/
namespace Subselect

/-- `values` and `latencies` keep one sample each time; a latency's amount is not kept. -/
structure Metrics where
  rewrites : Nat
  passes : Nat
  passesExhausted : Nat
  executed : Nat
  failed : Nat
  finalFailed : Nat
  values : List Nat
  latencies : Nat
  deriving DecidableEq, Repr

namespace Metrics

def zero : Metrics := ⟨0, 0, 0, 0, 0, 0, [], 0⟩

def observe (m : Metrics) : Event → Metrics
  | .passStarted .. => { m with passes := m.passes + 1 }
  | .subqueryResolved _ _ _ _ n =>
    { m with executed := m.executed + 1, values := m.values ++ [n] }
  | .subqueryFailed .. => { m with failed := m.failed + 1 }
  | .passesExhausted .. => { m with passesExhausted := m.passesExhausted + 1 }
  | .queryResolved .. => m
  | .finalQueryFailed .. => { m with finalFailed := m.finalFailed + 1 }

def observeAll (m : Metrics) (events : List Event) : Metrics := events.foldl observe m

/-- Counts a run that rewrites a query, by the events heard of it. -/
def afterRewrite (m : Metrics) (events : List Event) : Metrics := m.observeAll events

/-- Counts a run that resolves a query: the run itself, whoever observes it, the events heard of
it, and a latency sample if it succeeds. -/
def afterResolve (m : Metrics) (events : List Event) (succeeded : Bool) : Metrics :=
  let m := { m with rewrites := m.rewrites + 1 }.observeAll events
  if succeeded then { m with latencies := m.latencies + 1 } else m

inductive Reading where
  | count (n : Nat)
  | samples (values : List Nat)
  deriving DecidableEq, Repr

/-- What has been touched, by name in alphabetical order. -/
def readings (m : Metrics) : List (String × Reading) :=
  count "subquery_resolver.final_queries.failed" m.finalFailed ++
  count "subquery_resolver.rewrite.latency_seconds" m.latencies ++
  count "subquery_resolver.rewrite.passes" m.passes ++
  count "subquery_resolver.rewrite.passes_exhausted" m.passesExhausted ++
  count "subquery_resolver.rewrites.total" m.rewrites ++
  count "subquery_resolver.subqueries.executed" m.executed ++
  count "subquery_resolver.subqueries.failed" m.failed ++
  (if m.values.isEmpty then [] else [("subquery_resolver.subquery.values", .samples m.values)])
where
  count (name : String) (n : Nat) : List (String × Reading) :=
    if n = 0 then [] else [(name, .count n)]

end Metrics
end Subselect
