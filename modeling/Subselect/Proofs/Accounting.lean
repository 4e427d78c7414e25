import Mathlib.Algebra.GroupWithZero.Nat
import Subselect.Proofs.Limits
import Subselect.Session

/-! What the counters say about a session. Whatever is rewritten or resolved, with whatever limits
and engines, every call an engine got is found in one of four counters, and the counters of passes,
values and exhausted runs agree with the outcomes of the runs, from which they are not taken. -/
namespace Subselect

namespace Metrics

/-- Counters add up, and samples are appended. -/
def plus (m n : Metrics) : Metrics where
  rewrites := m.rewrites + n.rewrites
  passes := m.passes + n.passes
  passesExhausted := m.passesExhausted + n.passesExhausted
  executed := m.executed + n.executed
  failed := m.failed + n.failed
  finalFailed := m.finalFailed + n.finalFailed
  values := m.values ++ n.values
  latencies := m.latencies + n.latencies

@[simp] theorem plus_zero (m : Metrics) : m.plus zero = m := by
  simp [plus, zero]

@[simp] theorem zero_plus (m : Metrics) : zero.plus m = m := by
  simp [plus, zero]

theorem plus_assoc (a b c : Metrics) : (a.plus b).plus c = a.plus (b.plus c) := by
  simp [plus, Nat.add_assoc]

/-- What an event adds does not depend on the counters so far. -/
theorem observe_eq (m : Metrics) (event : Event) :
    m.observe event = m.plus (zero.observe event) := by
  cases event <;> simp [observe, plus, zero]

/-- What events add. -/
def tally (events : List Event) : Metrics := zero.observeAll events

theorem observeAll_eq (m : Metrics) (events : List Event) :
    m.observeAll events = m.plus (tally events) := by
  induction events generalizing m with
  | nil => exact m.plus_zero.symm
  | cons event more ih =>
    have rest := ih (zero.observe event)
    simp only [tally, observeAll, List.foldl_cons] at ih rest ⊢
    rw [ih, rest, observe_eq m, plus_assoc]

@[simp] theorem tally_nil : tally [] = zero := rfl

theorem tally_append (first second : List Event) :
    tally (first ++ second) = (tally first).plus (tally second) := by
  rw [tally, observeAll, List.foldl_append]
  exact observeAll_eq (tally first) second

theorem tally_cons (event : Event) (more : List Event) :
    tally (event :: more) = (zero.observe event).plus (tally more) :=
  tally_append [event] more

/-- No event counts a run or its time. -/
theorem tally_runs (events : List Event) :
    (tally events).rewrites = 0 ∧ (tally events).latencies = 0 := by
  induction events with
  | nil => exact ⟨rfl, rfl⟩
  | cons event more ih => cases event <;> simpa [tally_cons, plus, observe, zero] using ih

/-- What the events among some steps add. -/
def ofSteps (steps : List Step) : Metrics := tally (steps.filterMap Step.event?)

theorem ofSteps_append (first second : List Step) :
    ofSteps (first ++ second) = (ofSteps first).plus (ofSteps second) := by
  rw [ofSteps, List.filterMap_append]
  exact tally_append _ _

theorem ofSteps_event (event : Event) (steps : List Step) :
    ofSteps (.event event :: steps) = (zero.observe event).plus (ofSteps steps) :=
  ofSteps_append [.event event] steps

theorem count_eq (task : Task) (events : List Event) (outcome : Outcome Done) (m : Metrics) :
    task.count events outcome m = m.plus (task.count events outcome zero) := by
  cases task with
  | rewrite query => exact observeAll_eq m events
  | resolve query =>
    simp only [Task.count, afterResolve]
    rw [observeAll_eq, observeAll_eq { zero with rewrites := _ }]
    split <;> simp [plus, zero, Nat.add_assoc]

end Metrics

open Metrics

/-- The numbers of values that were collected from replies. -/
def collected (replies : List Reply) : List Nat :=
  replies.filterMap fun
    | .ok table => some (Literal.ofTable table).length
    | .error _ => none

namespace Query

/-- How many passes a rewrite began, the one it failed in included. -/
def begun : Outcome Rewrite → Nat
  | .ok done => done.passes
  | .error ⟨.subquery pass .., _⟩ => pass
  | .error ⟨.finalQuery _, _⟩ => 0

def endsExhausted : Outcome Rewrite → Bool
  | .ok done => done.exhausted
  | .error _ => false

/-- The events among the steps of a rewrite that goes on after some passes agree with its calls,
the replies to them and its outcome. -/
structure Tallies (before : Nat) (steps : List Step) (replies : List Reply)
    (outcome : Outcome Rewrite) : Prop where
  calls : (steps.filterMap Step.call?).length = (ofSteps steps).executed + (ofSteps steps).failed
  samples : (ofSteps steps).values.length = (ofSteps steps).executed
  values : (ofSteps steps).values = collected replies
  passes : before + (ofSteps steps).passes = begun outcome
  exhausted : (ofSteps steps).passesExhausted = (endsExhausted outcome).toNat
  failed : (ofSteps steps).failed = (!outcome.isOk).toNat
  final : (ofSteps steps).finalFailed = 0

/-- What answers add that came with so many values. -/
def answered (counts : List Nat) : Metrics :=
  { zero with executed := counts.length, values := counts }

theorem answered_append (counts more : List Nat) :
    answered (counts ++ more) = (answered counts).plus (answered more) := by
  simp [answered, plus, zero]

theorem ofSteps_answers (pass ordinal : Nat) (answers : List Answer) :
    ofSteps (Answer.allSteps pass ordinal answers) =
      answered (collected (answers.map Answer.reply)) := by
  induction answers generalizing ordinal with
  | nil => rfl
  | cons answer more ih =>
    have here : ofSteps (answer.steps pass ordinal) =
        answered [(Literal.ofTable answer.2).length] := rfl
    rw [Answer.allSteps_cons, ofSteps_append, here, ih, ← answered_append]
    rfl

theorem length_collected (answers : List Answer) :
    (collected (answers.map Answer.reply)).length = answers.length := by
  induction answers with
  | nil => rfl
  | cons answer more ih => exact congrArg (· + 1) ih

theorem collected_append (replies more : List Reply) :
    collected (replies ++ more) = collected replies ++ collected more := List.filterMap_append ..

/-- With no pass ahead the one event there may be is that of sub-selects left over. -/
theorem Tallies.settled (limit before : Nat) (last : Text) :
    Tallies before (Ending.leftover limit last) [] (.ok ⟨last, before, !(sites last).isEmpty⟩) := by
  by_cases found : sites last = []
  · rw [Ending.leftover, if_pos found, found]
    exact ⟨rfl, rfl, rfl, rfl, rfl, rfl, rfl⟩
  · have more : (sites last).isEmpty = false := by simpa using found
    rw [Ending.leftover, if_neg found, more]
    exact ⟨rfl, rfl, rfl, rfl, rfl, rfl, rfl⟩

/-- A call that fails ends the run in the pass it is made in. -/
theorem Tallies.broken (before ordinal : Nat) (site : Site) (error : EngineError) (message : Text)
    (notes : List Text) :
    Tallies before [.call site.inner, .event (.subqueryFailed before ordinal site error)]
      [.error error] (.error ⟨.subquery before ordinal message, notes⟩) :=
  ⟨rfl, rfl, rfl, rfl, rfl, rfl, rfl⟩

theorem ofSteps_pass (pass : Nat) (query : Text) (answers : List Answer) (steps : List Step) :
    ofSteps (.event (.passStarted pass query (sites query)) ::
        (Answer.allSteps pass 1 answers ++ steps)) =
      (zero.observe (.passStarted pass query (sites query))).plus
        ((answered (collected (answers.map Answer.reply))).plus (ofSteps steps)) := by
  rw [ofSteps_event, ofSteps_append, ofSteps_answers]

/-- A pass adds itself and its calls. -/
theorem Tallies.round (rest : Tallies (before + 1) steps replies outcome) (query : Text)
    (answers : List Answer) :
    Tallies before (.event (.passStarted (before + 1) query (sites query)) ::
        (Answer.allSteps (before + 1) 1 answers ++ steps))
      (answers.map Answer.reply ++ replies) outcome := by
  have length := length_collected answers
  have called := congrArg List.length (Answer.calls_allSteps (before + 1) 1 answers)
  rw [List.length_map] at called
  obtain ⟨calls, samples, values, passes, exhausted, failed, final⟩ := rest
  constructor
  all_goals rw [ofSteps_pass]
  all_goals simp only [plus, answered, observe, zero, Nat.zero_add, List.nil_append]
  · simp only [List.filterMap_cons, Step.call?, List.filterMap_append, List.length_append, called,
      calls, length]
    omega
  · rw [List.length_append, samples]
  · rw [collected_append, values]
  · omega
  · exact exhausted
  · exact failed
  · exact final

/-- The counters of a rewrite agree with its calls, their replies and its outcome. -/
theorem proceed_tallies (engine : Engine σ) (limit left before : Nat) (query : Text) (state : σ) :
    ∃ (steps : List Step) (replies : List Reply) (outcome : Outcome Rewrite) (final : σ),
      (proceed limit left before query).Course engine state steps replies outcome final ∧
      Tallies before steps replies outcome := by
  induction left generalizing before query state with
  | zero =>
    have course := proceed_settled engine limit 0 before query state (.inr rfl)
    exact ⟨_, _, _, _, course, .settled limit before query⟩
  | succ left ih =>
    by_cases found : sites query = []
    · have course := proceed_settled engine limit (left + 1) before query state (.inl found)
      exact ⟨_, _, _, _, course, .settled limit before query⟩
    · rw [proceed_succ found]
      rcases pass_course engine (before + 1) query state with
        ⟨answers, result, middle, _, _, course⟩ | ⟨answers, site, rest, error, final, _, course⟩
      · obtain ⟨steps, replies, outcome, final, more, tallies⟩ := ih (before + 1) result middle
        exact ⟨_, _, _, _, .report (course.andThen more) _, tallies.round query answers⟩
      · exact ⟨_, _, _, _, .report (course.andThen_error _) _,
          (Tallies.broken (before + 1) _ site error _ _).round query answers⟩

end Query

/-! Sessions. -/

def Task.query : Task → Text
  | rewrite query => query
  | resolve query => query

def Task.isResolve : Task → Bool
  | rewrite _ => false
  | resolve _ => true

/-- A task with the engine and the limit it is performed with. -/
structure Job (σ : Type) where
  engine : Engine σ
  maxPasses : Nat
  task : Task

/-- A job that was performed, from a state of its engine. -/
structure Served (σ : Type) where
  job : Job σ
  state : σ
  run : Run σ (Outcome Done)

namespace Served

/-- The rewriting of the query, which comes first in every job. -/
def rewriting (x : Served σ) : Run σ (Outcome Rewrite) :=
  (Query.rewrite x.job.maxPasses x.job.task.query).run x.job.engine x.state

/-- The number of values collected from the replies to its sub-selects. -/
def values (x : Served σ) : Nat :=
  (collected (x.job.engine.replies x.rewriting.calls x.state)).sum

def passes (x : Served σ) : Nat := Query.begun x.rewriting.outcome

def exhausted (x : Served σ) : Bool := Query.endsExhausted x.rewriting.outcome

end Served

/-- Performs jobs one after another, all of them counted. -/
def Session.serve : List (Job σ) → Session σ → List (Served σ) × Session σ
  | [], s => ([], s)
  | job :: more, s =>
    let (run, next) :=
      { s with engine := job.engine, maxPasses := job.maxPasses }.perform .counting job.task
    let (served, last) := next.serve more
    (⟨job, s.state, run⟩ :: served, last)

/-- Counters agree with the jobs that were performed. -/
structure Balance (served : List (Served σ)) (m : Metrics) : Prop where
  calls : (served.map fun x => x.run.calls.length).sum =
    m.executed + m.failed + m.finalFailed + m.latencies
  samples : m.values.length = m.executed
  values : m.values.sum = (served.map Served.values).sum
  passes : m.passes = (served.map Served.passes).sum
  exhausted : m.passesExhausted = served.countP Served.exhausted
  resolved : (∀ x ∈ served, x.job.task.isResolve = true) →
    m.rewrites = m.latencies + m.finalFailed + m.failed

namespace Balance

theorem nil : Balance ([] : List (Served σ)) zero :=
  ⟨rfl, rfl, rfl, rfl, rfl, fun _ => rfl⟩

theorem append (first : Balance a m) (second : Balance b n) : Balance (a ++ b) (m.plus n) := by
  have calls := first.calls
  have more := second.calls
  constructor
  · simp only [List.map_append, List.sum_append, plus]
    omega
  · simp only [plus, List.length_append, first.samples, second.samples]
  · simp only [plus, List.map_append, List.sum_append, first.values, second.values]
  · simp only [plus, List.map_append, List.sum_append, first.passes, second.passes]
  · simp only [plus, List.countP_append, first.exhausted, second.exhausted]
  · intro all
    have left := first.resolved fun x member => all x (List.mem_append_left _ member)
    have right := second.resolved fun x member => all x (List.mem_append_right _ member)
    simp only [plus]
    omega

end Balance

/-- What a job adds besides the events of its rewriting: itself, a final query that failed, a time
that was taken. -/
def finished (runs final times : Nat) : Metrics :=
  { zero with rewrites := runs, finalFailed := final, latencies := times }

theorem finished_plus (a b c a' b' c' : Nat) :
    (finished a b c).plus (finished a' b' c') = finished (a + a') (b + b') (c + c') := rfl

theorem count_resolve (query : Text) (events : List Event) (outcome : Outcome Done) :
    (Task.resolve query).count events outcome zero =
      (tally events).plus (finished 1 0 outcome.isOk.toNat) := by
  obtain ⟨runs, times⟩ := tally_runs events
  simp only [Task.count, afterResolve]
  rw [observeAll_eq]
  cases outcome.isOk <;> simp [plus, zero, finished, runs, times]

/-- A job that agrees with its rewriting in everything but the final query. -/
theorem Served.balance {x : Served σ} (runs final times : Nat)
    (course : (Query.rewrite x.job.maxPasses x.job.task.query).Course x.job.engine x.state steps
      replies outcome middle)
    (tallies : Query.Tallies 0 steps replies outcome)
    (calls : x.run.calls.length = (steps.filterMap Step.call?).length + final + times)
    (resolved : x.job.task.isResolve = true → runs = times + final + (!outcome.isOk).toNat) :
    Balance [x] ((ofSteps steps).plus (finished runs final times)) := by
  obtain ⟨called, samples, values, passes, exhausted, failed, none⟩ := tallies
  obtain ⟨noRuns, noTimes⟩ := tally_runs (steps.filterMap Step.event?)
  rw [← ofSteps] at noRuns noTimes
  have rewriting : x.rewriting = ⟨outcome, steps, middle⟩ := course.runs
  have heard : x.job.engine.replies x.rewriting.calls x.state = replies := by
    rw [rewriting]
    exact course.heard
  constructor
  all_goals simp only [plus, finished, zero, List.map_cons, List.map_nil, List.sum_cons,
    List.sum_nil, Nat.add_zero, List.append_nil]
  · omega
  · exact samples
  · rw [values, Served.values, heard]
  · rw [Served.passes, rewriting, ← passes, Nat.zero_add]
  · rw [exhausted, List.countP_singleton, Served.exhausted, rewriting]
    cases Query.endsExhausted outcome <;> rfl
  · intro all
    have := resolved (all x List.mem_cons_self)
    omega

/-- The final query is one call. Its failure is counted. -/
theorem Query.finish_course (engine : Engine σ) (done : Rewrite) (state : σ) :
    ∃ (steps : List Step) (replies : List Reply) (outcome : Outcome Resolution) (last : σ),
      (finish done).Course engine state steps replies outcome last ∧
      (steps.filterMap Step.call?).length = 1 ∧
      ofSteps steps = finished 0 (!outcome.isOk).toNat 0 := by
  obtain ⟨reply, last, asked⟩ : ∃ reply last, engine done.query state = (reply, last) :=
    ⟨_, _, rfl⟩
  cases reply with
  | error error => exact ⟨_, _, _, last, .report (.ask asked (.report (.done ..) _)) _, rfl, rfl⟩
  | ok table =>
    have answered : (finish done).Course engine state
        [.event (.queryResolved done.query done.passes), .call done.query] [.ok table]
        (.ok ⟨done, table⟩) last := by
      refine .report (.ask asked ?_) _
      exact .done ..
    exact ⟨_, _, _, last, answered, rfl, rfl⟩

theorem Job.balance_of (job : Job σ)
    (course : (job.task.dialogue job.maxPasses).Course job.engine state steps replies outcome last)
    (known : Balance [⟨job, state, ⟨outcome, steps, last⟩⟩]
      (job.task.count (steps.filterMap Step.event?) outcome zero)) :
    Balance [⟨job, state, (job.task.dialogue job.maxPasses).run job.engine state⟩]
      (job.task.count ((job.task.dialogue job.maxPasses).run job.engine state).events
        ((job.task.dialogue job.maxPasses).run job.engine state).outcome zero) := by
  rw [course.runs]
  exact known

/-- Every job leaves the counters balanced. -/
theorem Job.balance (job : Job σ) (state : σ) :
    Balance [⟨job, state, (job.task.dialogue job.maxPasses).run job.engine state⟩]
      (job.task.count ((job.task.dialogue job.maxPasses).run job.engine state).events
        ((job.task.dialogue job.maxPasses).run job.engine state).outcome zero) := by
  obtain ⟨engine, maxPasses, task⟩ := job
  obtain ⟨steps, replies, outcome, middle, course, tallies⟩ :=
    Query.proceed_tallies engine maxPasses maxPasses 0 task.query state
  cases task with
  | rewrite query =>
    apply Job.balance_of ⟨engine, maxPasses, .rewrite query⟩
      (course.map (·.map Done.rewritten))
    change Balance _ (ofSteps steps)
    rw [← (ofSteps steps).plus_zero]
    apply Served.balance 0 0 0 course tallies
    · rfl
    · rintro ⟨⟩
  | resolve query =>
    cases outcome with
    | error report =>
      apply Job.balance_of ⟨engine, maxPasses, .resolve query⟩
        ((course.andThen_error Query.finish).map (·.map Done.resolved))
      rw [count_resolve]
      apply Served.balance _ _ _ course tallies
      · rfl
      · exact fun _ => rfl
    | ok done =>
      obtain ⟨tail, _, outcome, last, final, one, counted⟩ := Query.finish_course engine done middle
      apply Job.balance_of ⟨engine, maxPasses, .resolve query⟩
        ((course.andThen final).map (·.map Done.resolved))
      rw [count_resolve, ← ofSteps, ofSteps_append, counted, plus_assoc, finished_plus]
      apply Served.balance _ _ _ course tallies
      · rw [Run.calls, List.filterMap_append, List.length_append, one]
        cases outcome <;> rfl
      · intro _
        cases outcome <;> rfl

namespace Session

theorem serve_balance (jobs : List (Job σ)) (s : Session σ) :
    ∃ m, (s.serve jobs).2.metrics = s.metrics.plus m ∧ Balance (s.serve jobs).1 m := by
  induction jobs generalizing s with
  | nil => exact ⟨zero, s.metrics.plus_zero.symm, .nil⟩
  | cons job more ih =>
    obtain ⟨m, later, balance⟩ :=
      ih ({ s with engine := job.engine, maxPasses := job.maxPasses }.perform .counting job.task).2
    refine ⟨_, ?_, (job.balance s.state).append balance⟩
    rw [serve, ← plus_assoc, ← count_eq]
    exact later

theorem map_job_serve (jobs : List (Job σ)) (s : Session σ) :
    (s.serve jobs).1.map Served.job = jobs := by
  induction jobs generalizing s with
  | nil => rfl
  | cons job more ih => exact congrArg (job :: ·) (ih _)

/-- The counters of a session account for every call of its engines, after any jobs. Each call is an
executed or failed sub-select, a failed final query or one whose time was taken. There is a sample
of values for each executed sub-select, and they add up to the values collected. The passes are
those begun, the exhausted runs those whose rewrite ended so, and where all jobs resolve a query
each of them ended in one of three ways. -/
theorem serve_accounts (jobs : List (Job σ)) (engine : Engine σ) (limit : Nat) (state : σ) :
    let session : Session σ := ⟨engine, state, .zero, limit⟩
    (session.serve jobs).1.map Served.job = jobs ∧
      Balance (session.serve jobs).1 (session.serve jobs).2.metrics := by
  intro session
  obtain ⟨m, metrics, balance⟩ := session.serve_balance jobs
  rw [zero_plus] at metrics
  rw [metrics]
  exact ⟨session.map_job_serve jobs, balance⟩

/-- One run fails in its second pass, one is exhausted and fails with its final query, one
succeeds. -/
def mixedJobs : List (Job (List Reply)) :=
  [⟨Query.replying, 10, .resolve "a IN (SELECT b = (SELECT c))".toList⟩,
    ⟨Query.replying, 1, .resolve "a IN (SELECT b = (SELECT c))".toList⟩,
    ⟨Query.replying, 10, .resolve "a".toList⟩]

def mixedReplies : List Reply :=
  [.ok .empty, .error (.query []), .ok (.ofRows [[(['v'], .text ['1', ',', '2'])]]),
    .error (.query [])]

theorem serve_accounts_mixed :
    let served := Session.serve mixedJobs ⟨Query.replying, mixedReplies, .zero, 10⟩
    served.2.metrics = ⟨3, 3, 1, 2, 1, 1, [0, 2], 1⟩ ∧
      (served.1.map fun x => x.run.calls.length).sum = 2 + 1 + 1 + 1 ∧
      (served.1.map Served.values).sum = 2 ∧ (served.1.map Served.passes).sum = 3 ∧
      served.1.countP Served.exhausted = 1 ∧
      served.2.metrics.rewrites =
        served.2.metrics.latencies + served.2.metrics.finalFailed + served.2.metrics.failed := by
  intro served
  have metrics : served.2.metrics = ⟨3, 3, 1, 2, 1, 1, [0, 2], 1⟩ := by decide +kernel
  obtain ⟨jobs, balance⟩ := serve_accounts mixedJobs Query.replying 10 mixedReplies
  have resolves : ∀ job ∈ mixedJobs, job.task.isResolve = true := by
    simp [mixedJobs, Task.isResolve]
  have total := balance.resolved fun x member => resolves x.job (jobs ▸ List.mem_map_of_mem member)
  have counted : Balance served.1 ⟨3, 3, 1, 2, 1, 1, [0, 2], 1⟩ := metrics ▸ balance
  exact ⟨metrics, counted.calls, counted.values.symm, counted.passes.symm, counted.exhausted.symm,
    total⟩

end Session
end Subselect
