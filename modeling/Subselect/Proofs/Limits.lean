import Subselect.Proofs.Course
import Subselect.Proofs.Progress

/-! Limits add up. A run that stopped at its limit can be taken up again: going on with the text it
left makes the calls, and comes to the outcome, of one run with both limits. Only the numbers of the
passes and the reports in between tell the difference. -/
namespace Subselect

open Text

namespace Dialogue

/-- Dialogues that ask the same whatever is replied, and come to outcomes that are related. What
they report may differ. -/
inductive Alike (related : α → β → Prop) : Dialogue α → Dialogue β → Prop where
  | done : related a b → Alike related (done a) (done b)
  | reportLeft (event : Event) : Alike related d d' → Alike related (report event d) d'
  | reportRight (event : Event) : Alike related d d' → Alike related d (report event d')
  | ask (query : Text) {next : Reply → Dialogue α} {next' : Reply → Dialogue β} :
      (∀ reply, Alike related (next reply) (next' reply)) →
      Alike related (ask query next) (ask query next')

namespace Alike

theorem report (h : Alike related d d') (event event' : Event) :
    Alike related (.report event d) (.report event' d') :=
  .reportLeft event (.reportRight event' h)

theorem refl (d : Dialogue α) : Alike Eq d d := by
  induction d with
  | done a => exact .done rfl
  | report event next ih => exact ih.report event event
  | ask query next ih => exact .ask query ih

theorem bind {related : α → β → Prop} {related' : γ → δ → Prop} {k : α → Dialogue γ}
    {k' : β → Dialogue δ} (h : Alike related d d')
    (next : ∀ a b, related a b → Alike related' (k a) (k' b)) :
    Alike related' (d.bind k) (d'.bind k') := by
  induction h with
  | done same => exact next _ _ same
  | reportLeft event _ ih => exact .reportLeft event ih
  | reportRight event _ ih => exact .reportRight event ih
  | ask query _ ih => exact .ask query ih

theorem map {related : α → β → Prop} {related' : γ → δ → Prop} {f : α → γ} {g : β → δ}
    (h : Alike related d d') (next : ∀ a b, related a b → related' (f a) (g b)) :
    Alike related' (d.map f) (d'.map g) :=
  h.bind fun a b same => .done (next a b same)

theorem run {related : α → β → Prop} (h : Alike related d d') (engine : Engine σ) (state : σ) :
    (d.run engine state).calls = (d'.run engine state).calls ∧
      (d.run engine state).state = (d'.run engine state).state ∧
      related (d.run engine state).outcome (d'.run engine state).outcome := by
  induction h generalizing state with
  | done same => exact ⟨rfl, rfl, same⟩
  | reportLeft event _ ih => exact ih state
  | reportRight event _ ih => exact ih state
  | ask query _ ih =>
    obtain ⟨calls, reached, same⟩ := ih (engine query state).1 (engine query state).2
    exact ⟨congrArg (query :: ·) calls, reached, same⟩

end Alike
end Dialogue

namespace Query

/-- The report of a call that failed in a pass. -/
def failedIn (pass ordinal : Nat) (message : Text) : Report Failure :=
  (Report.of (.subquery pass ordinal message)).inPass pass

/-- The same outcome, but for the report of a failure. -/
inductive Renumbered (failed failed' : Nat → Text → Report Failure) : Outcome α → Outcome α → Prop where
  | ok (a : α) : Renumbered failed failed' (.ok a) (.ok a)
  | error (ordinal : Nat) (message : Text) :
      Renumbered failed failed' (.error (failed ordinal message)) (.error (failed' ordinal message))

theorem askAll_alike (number number' ordinal : Nat) (sites : List Site) :
    (askAll number ordinal sites).Alike
      (Renumbered (fun k message => .of (.subquery number k message))
        fun k message => .of (.subquery number' k message))
      (askAll number' ordinal sites) := by
  induction sites generalizing ordinal with
  | nil => exact .done (.ok [])
  | cons site more ih =>
    apply Dialogue.Alike.ask
    intro reply
    cases reply with
    | error error => exact (Dialogue.Alike.done (.error ordinal error.message)).report _ _
    | ok table =>
      apply Dialogue.Alike.report
      apply (ih (ordinal + 1)).map
      intro a b same
      cases same with
      | ok edits => exact .ok _
      | error k message => exact .error k message

theorem pass_alike (number number' : Nat) (query : Text) (sites : List Site) :
    (pass number query sites).Alike (Renumbered (failedIn number) (failedIn number'))
      (pass number' query sites) := by
  apply (askAll_alike number number' 1 sites.reverse).map
  intro a b same
  cases same with
  | ok edits => exact .ok _
  | error k message => exact .error k message

/-- The outcome of a rewrite that started `k` passes later. -/
inductive Later (k : Nat) : Outcome Rewrite → Outcome Rewrite → Prop where
  | ok (query : Text) (passes : Nat) (exhausted : Bool) :
      Later k (.ok ⟨query, passes, exhausted⟩) (.ok ⟨query, k + passes, exhausted⟩)
  | error (pass ordinal : Nat) (message : Text) :
      Later k (.error (failedIn pass ordinal message)) (.error (failedIn (k + pass) ordinal message))

theorem Later.of_ok (h : Later k (.ok done) outcome) :
    outcome = .ok ⟨done.query, k + done.passes, done.exhausted⟩ := by
  cases h
  rfl

theorem Later.of_error (h : Later k (.error report) outcome) : ∃ pass ordinal message,
    report = failedIn pass ordinal message ∧
      outcome = .error (failedIn (k + pass) ordinal message) := by
  cases h with
  | error pass ordinal message => exact ⟨pass, ordinal, message, rfl, rfl⟩

/-- The number of the first pass makes no difference to the calls, and neither does the limit that
is reported. -/
theorem proceed_later (k limit limit' left passes : Nat) (query : Text) :
    (proceed limit left passes query).Alike (Later k) (proceed limit' left (k + passes) query) := by
  induction left generalizing passes query with
  | zero =>
    by_cases found : sites query = []
    · rw [proceed_done found, proceed_done found]
      exact .done (.ok query passes false)
    · rw [proceed_exhausted found, proceed_exhausted found]
      exact (Dialogue.Alike.done (.ok query passes true)).report _ _
  | succ left ih =>
    by_cases found : sites query = []
    · rw [proceed_done found, proceed_done found]
      exact .done (.ok query passes false)
    · rw [proceed_succ found, proceed_succ found]
      apply Dialogue.Alike.report
      apply (pass_alike (passes + 1) (k + passes + 1) query (sites query)).bind
      intro a b same
      cases same with
      | ok text => exact ih (passes + 1) text
      | error ordinal message => exact .done (.error (passes + 1) ordinal message)

/-- A run goes on where one with a lower limit stops. -/
theorem proceed_split (limit limit' n m passes : Nat) (query : Text) :
    ((proceed limit n passes query).andThen fun done =>
      proceed limit' m done.passes done.query).Alike Eq
        (proceed limit' (n + m) passes query) := by
  induction n generalizing passes query with
  | zero =>
    rw [Nat.zero_add]
    by_cases found : sites query = []
    · rw [proceed_done found]
      exact .refl _
    · rw [proceed_exhausted found]
      exact .reportLeft _ (.refl _)
  | succ n ih =>
    by_cases found : sites query = []
    · rw [proceed_done found, proceed_done found]
      simp only [Dialogue.andThen, Dialogue.bind, proceed_done found]
      exact .refl _
    · rw [Nat.succ_add, proceed_succ found, proceed_succ found, Dialogue.andThen_report,
        Dialogue.andThen_assoc]
      apply Dialogue.Alike.report
      apply (Dialogue.Alike.refl _).bind
      rintro a _ rfl
      cases a with
      | ok text => exact ih (passes + 1) text
      | error report => exact .done rfl

theorem rewrite_split (n m : Nat) (query : Text) :
    ((rewrite n query).andThen fun done => proceed (n + m) m done.passes done.query).Alike Eq
      (rewrite (n + m) query) :=
  proceed_split n (n + m) n m 0 query

theorem rewrite_later (k limit m : Nat) (query : Text) :
    (rewrite m query).Alike (Later k) (proceed limit m k query) :=
  proceed_later k m limit m 0 query

/-- A run that did not stop at its limit left nothing to do. -/
theorem sites_eq_nil (ok : ((rewrite n query).run engine state).outcome = .ok done)
    (settled : done.exhausted = false) : sites done.query = [] := by
  obtain ⟨_, _, exhausted, _⟩ := proceed_progress ok
  by_contra some
  rw [exhausted.mpr some] at settled
  cases settled

/-- Where a second run fails the first one stopped at its limit. -/
theorem passes_eq_limit (ok : ((rewrite n query).run engine state).outcome = .ok done)
    (error : ((rewrite m done.query).run engine state').outcome = .error report) :
    done.passes = n := by
  have some : sites done.query ≠ [] := by
    intro none
    rw [rewrite, proceed_done none] at error
    cases error
  obtain ⟨_, _, exhausted, all⟩ := proceed_progress ok
  exact (all (exhausted.mpr some)).trans (Nat.zero_add n)

/-- Limits of a rewrite add up, against any engine. If the first run fails, so does the run with
both limits. Otherwise the second run goes on with its calls and comes to its outcome, and the
passes of the first one count as well. A text that is not exhausted stays as it is. -/
theorem rewrite_add (engine : Engine σ) (n m : Nat) (query : Text) (state : σ) :
    let first := (rewrite n query).run engine state
    let whole := (rewrite (n + m) query).run engine state
    (∀ report, first.outcome = .error report →
      whole.calls = first.calls ∧ whole.outcome = .error report) ∧
    ∀ done, first.outcome = .ok done →
      let second := (rewrite m done.query).run engine first.state
      whole.calls = first.calls ++ second.calls ∧ whole.state = second.state ∧
      (∀ done', second.outcome = .ok done' →
        whole.outcome = .ok ⟨done'.query, done.passes + done'.passes, done'.exhausted⟩) ∧
      (∀ report, second.outcome = .error report → ∃ pass ordinal message,
        report = failedIn pass ordinal message ∧
        whole.outcome = .error (failedIn (n + pass) ordinal message)) ∧
      (done.exhausted = false → ∀ limit,
        rewrite limit done.query = .done (.ok ⟨done.query, 0, false⟩)) := by
  intro first whole
  obtain ⟨calls, reached, outcome⟩ := (rewrite_split n m query).run engine state
  constructor
  · intro report error
    rw [Dialogue.calls_andThen_error _ _ _ _ error] at calls
    rw [Dialogue.outcome_andThen_error _ _ _ _ error] at outcome
    exact ⟨calls.symm, outcome.symm⟩
  · intro done ok second
    rw [Dialogue.calls_andThen _ _ _ _ ok] at calls
    rw [Dialogue.state_andThen _ _ _ _ ok] at reached
    rw [Dialogue.outcome_andThen _ _ _ _ ok] at outcome
    -- the second run counts its passes from zero
    obtain ⟨calls', reached', later⟩ :=
      (rewrite_later done.passes (n + m) m done.query).run engine first.state
    rw [outcome] at later
    refine ⟨?_, ?_, ?_, ?_, ?_⟩
    · exact calls.symm.trans (congrArg (first.calls ++ ·) calls'.symm)
    · exact reached.symm.trans reached'.symm
    · intro done' ok'
      rw [ok'] at later
      exact later.of_ok
    · intro report error
      rw [error] at later
      obtain ⟨pass, ordinal, message, first, failed⟩ := later.of_error
      rw [passes_eq_limit ok error] at failed
      exact ⟨pass, ordinal, message, first, failed⟩
    · exact fun settled limit => proceed_done (sites_eq_nil ok settled)

/-- Two layers with a limit of one: the first call fails, or the second one, or none. -/
theorem rewrite_add_nested :
    ((rewrite 2 "a IN (SELECT b = (SELECT c))".toList).run replying
        [.error (.query [])]).outcome = .error (failedIn 1 1 "Query engine error: ".toList) ∧
      ((rewrite 2 "a IN (SELECT b = (SELECT c))".toList).run replying
        [.ok .empty, .error (.query [])]).outcome =
          .error (failedIn 2 1 "Query engine error: ".toList) ∧
      ((rewrite 2 "a IN (SELECT b = (SELECT c))".toList).run replying []).outcome =
        .ok ⟨"a IN (NULL)".toList, 2, false⟩ ∧
      rewrite 7 "a IN (NULL)".toList = .done (.ok ⟨"a IN (NULL)".toList, 0, false⟩) := by
  have broken := (rewrite_add replying 1 1 "a IN (SELECT b = (SELECT c))".toList
    [.error (.query [])]).1
  have later := (rewrite_add replying 1 1 "a IN (SELECT b = (SELECT c))".toList
    [.ok .empty, .error (.query [])]).2 ⟨"a IN (SELECT b = NULL)".toList, 1, true⟩ (by decide +kernel)
  have whole := (rewrite_add replying 1 1 "a IN (SELECT b = (SELECT c))".toList []).2
    ⟨"a IN (SELECT b = NULL)".toList, 1, true⟩ (by decide +kernel)
  have settled := (rewrite_add replying 2 0 "a IN (SELECT b = (SELECT c))".toList []).2
    ⟨"a IN (NULL)".toList, 2, false⟩ (by decide +kernel)
  obtain ⟨_, _, _, failed, _⟩ := later
  obtain ⟨pass, ordinal, message, same, outcome⟩ :=
    failed (failedIn 1 1 "Query engine error: ".toList) (by decide +kernel)
  refine ⟨?_, ?_, ?_, ?_⟩
  · exact (broken _ (by decide +kernel)).2
  · cases same
    exact outcome
  · exact whole.2.2.1 ⟨"a IN (NULL)".toList, 1, false⟩ (by decide +kernel)
  · exact settled.2.2.2.2 rfl 7

end Query
end Subselect
