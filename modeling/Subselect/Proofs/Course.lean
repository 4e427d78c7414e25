import Subselect.Proofs.Rounds

/-! The course of a run: which calls it makes and which events it reports, in their order, whatever
the engine replies. The replies alone decide how far it goes and how it ends. -/
namespace Subselect

open Text Outline

namespace Engine

/-- The state behind queries asked one after another. -/
def after (engine : Engine σ) : List Text → σ → σ
  | [], state => state
  | query :: more, state => engine.after more (engine query state).2

theorem replies_append (engine : Engine σ) (queries more : List Text) (state : σ) :
    engine.replies (queries ++ more) state =
      engine.replies queries state ++ engine.replies more (engine.after queries state) := by
  induction queries generalizing state with
  | nil => rfl
  | cons query queries ih => simp [replies, after, ih]

end Engine

namespace Dialogue

/-- A dialogue takes just these steps, hears these replies to its calls, and comes to this outcome
and state of the engine. -/
structure Course (engine : Engine σ) (d : Dialogue α) (state : σ) (steps : List Step)
    (replies : List Reply) (outcome : α) (final : σ) : Prop where
  runs : d.run engine state = ⟨outcome, steps, final⟩
  heard : engine.replies (steps.filterMap Step.call?) state = replies

/-- A run leaves the engine in the state behind its calls. -/
theorem state_run (engine : Engine σ) (d : Dialogue α) (state : σ) :
    (d.run engine state).state = engine.after (d.run engine state).calls state := by
  induction d generalizing state with
  | done a => rfl
  | report event next ih => exact ih state
  | ask query next ih => exact ih _ _

theorem andThen_report (event : Event) (next : Dialogue (Except ε α))
    (k : α → Dialogue (Except ε β)) :
    (report event next).andThen k = report event (next.andThen k) := rfl

theorem andThen_assoc (d : Dialogue (Except ε α)) (k : α → Dialogue (Except ε β))
    (l : β → Dialogue (Except ε γ)) :
    (d.andThen k).andThen l = d.andThen fun a => (k a).andThen l := by
  induction d with
  | done a => cases a <;> rfl
  | report event next ih => exact congrArg (report event) ih
  | ask query next ih => exact congrArg (ask query) (funext ih)

namespace Course

theorem done (engine : Engine σ) (a : α) (state : σ) :
    Course engine (.done a) state [] [] a state :=
  ⟨rfl, rfl⟩

theorem report (h : Course engine next state steps replies outcome final) (event : Event) :
    Course engine (.report event next) state (.event event :: steps) replies outcome final :=
  ⟨by simp [h.runs, Run.before], h.heard⟩

theorem ask {engine : Engine σ} {next : Reply → Dialogue α}
    (asked : engine query state = (reply, state'))
    (h : Course engine (next reply) state' steps replies outcome final) :
    Course engine (.ask query next) state (.call query :: steps) (reply :: replies) outcome
      final := by
  constructor
  · simp [asked, h.runs, Run.before]
  · simp [Step.call?, Engine.replies, asked, h.heard]

theorem bind {k : α → Dialogue β} (first : Course engine d state steps replies a middle)
    (second : Course engine (k a) middle more replies' b final) :
    Course engine (d.bind k) state (steps ++ more) (replies ++ replies') b final := by
  have reached := state_run engine d state
  rw [Run.calls, first.runs] at reached
  constructor
  · simp [run_bind, first.runs, second.runs, Run.before]
  · rw [List.filterMap_append, Engine.replies_append, ← reached, first.heard, second.heard]

theorem map {d : Dialogue α} (h : Course engine d state steps replies a final) (f : α → β) :
    Course engine (d.map f) state steps replies (f a) final := by
  have both : Course engine (d.map f) state (steps ++ []) (replies ++ []) (f a) final :=
    h.bind (done engine (f a) final)
  rwa [List.append_nil, List.append_nil] at both

theorem andThen {d : Dialogue (Except ε α)} {k : α → Dialogue (Except ε β)}
    (first : Course engine d state steps replies (.ok a) middle)
    (second : Course engine (k a) middle more replies' outcome final) :
    Course engine (d.andThen k) state (steps ++ more) (replies ++ replies') outcome final :=
  first.bind second

/-- What should follow a failure is not run. -/
theorem andThen_error {d : Dialogue (Except ε α)}
    (first : Course engine d state steps replies (.error e) final)
    (k : α → Dialogue (Except ε β)) :
    Course engine (d.andThen k) state steps replies (.error e) final := by
  have both : Course engine (d.andThen k) state (steps ++ []) (replies ++ []) (.error e) final :=
    first.bind (done engine (Except.error e) final)
  rwa [List.append_nil, List.append_nil] at both

end Course
end Dialogue

namespace Query

/-- A sub-select and the rows it was answered with. -/
abbrev Answer := Site × Table

namespace Answer

def edit (answer : Answer) : Edit := answer.1.edit answer.2

def reply (answer : Answer) : Reply := .ok answer.2

/-- One call, followed at once by the event of its answer. -/
def steps (pass ordinal : Nat) (answer : Answer) : List Step :=
  [.call answer.1.inner, .event (.subqueryResolved pass ordinal answer.1
    (answer.1.context.replacement (Literal.ofTable answer.2)) (Literal.ofTable answer.2).length)]

/-- The steps of answers in the order in which they came; the first one has the given ordinal. -/
def allSteps (pass ordinal : Nat) (answers : List Answer) : List Step :=
  (answers.zipIdx ordinal).flatMap fun (answer, k) => answer.steps pass k

@[simp] theorem allSteps_nil (pass ordinal : Nat) : allSteps pass ordinal [] = [] := rfl

@[simp] theorem allSteps_cons (pass ordinal : Nat) (answer : Answer) (more : List Answer) :
    allSteps pass ordinal (answer :: more) =
      answer.steps pass ordinal ++ allSteps pass (ordinal + 1) more := rfl

theorem calls_allSteps (pass ordinal : Nat) (answers : List Answer) :
    (allSteps pass ordinal answers).filterMap Step.call? = answers.map (·.1.inner) := by
  induction answers generalizing ordinal with
  | nil => rfl
  | cons answer more ih =>
    simp only [allSteps_cons, steps, List.cons_append, List.nil_append, List.filterMap_cons,
      Step.call?, ih, List.map_cons]

end Answer

/-- Sub-selects are asked for one after another until one fails. -/
theorem askAll_course (engine : Engine σ) (pass ordinal : Nat) (sites : List Site) (state : σ) :
    (∃ (answers : List Answer) (final : σ), answers.map Prod.fst = sites ∧
      (askAll pass ordinal sites).Course engine state (Answer.allSteps pass ordinal answers)
        (answers.map Answer.reply) (.ok (answers.map Answer.edit)) final) ∨
    ∃ (answers : List Answer) (site : Site) (rest : List Site) (error : EngineError) (final : σ),
      sites = answers.map Prod.fst ++ site :: rest ∧
      (askAll pass ordinal sites).Course engine state
        (Answer.allSteps pass ordinal answers ++ [.call site.inner,
          .event (.subqueryFailed pass (ordinal + answers.length) site error)])
        (answers.map Answer.reply ++ [.error error])
        (.error (.of (.subquery pass (ordinal + answers.length) error.message))) final := by
  induction sites generalizing ordinal state with
  | nil => exact .inl ⟨[], state, rfl, .done engine _ state⟩
  | cons site more ih =>
    obtain ⟨reply, state', asked⟩ : ∃ reply state', engine site.inner state = (reply, state') :=
      ⟨_, _, rfl⟩
    cases reply with
    | error error =>
      exact .inr ⟨[], site, more, error, state', rfl, .ask asked (.report (.done ..) _)⟩
    | ok table =>
      rcases ih (ordinal + 1) state' with
        ⟨answers, final, rfl, course⟩ | ⟨answers, failed, rest, error, final, rfl, course⟩
      · refine .inl ⟨(site, table) :: answers, final, rfl, ?_⟩
        exact .ask asked (.report (course.map _) _)
      · refine .inr ⟨(site, table) :: answers, failed, rest, error, final, rfl, ?_⟩
        have next : ordinal + ((site, table) :: answers).length = ordinal + 1 + answers.length := by
          rw [List.length_cons]
          omega
        rw [next]
        exact .ask asked (.report (course.map _) _)

theorem editsOf_answers {answers : List Answer}
    (all : answers.map Prod.fst = (sites query).reverse) :
    editsOf query (answers.map Prod.snd).reverse = (answers.map Answer.edit).reverse := by
  have forwards : sites query = (answers.map Prod.fst).reverse := by rw [all, List.reverse_reverse]
  rw [editsOf, forwards, ← List.reverse_zipWith (by simp), List.zipWith_map, List.zipWith_self]
  rfl

end Query

theorem Resolves.substituted (h : Resolves [] (ofText query) edits o') :
    Substituted edits query o'.text := by
  obtain ⟨t, t', last, weave, rfl, written, _⟩ := h.splice
  rw [written]
  exact weave.substituted last

namespace Query

/-- A pass that was answered in full. Its answers came for the rightmost sub-select first. -/
structure Round where
  query : Text
  answers : List Answer

namespace Round

/-- What the pass replaces, from left to right. -/
def edits (round : Round) : List Edit := (round.answers.map Answer.edit).reverse

def steps (number : Nat) (round : Round) : List Step :=
  .event (.passStarted number round.query (sites round.query)) ::
    Answer.allSteps number 1 round.answers

def replies (round : Round) : List Reply := round.answers.map Answer.reply

/-- The steps of rounds that follow one another; the first one has the given number. -/
def allSteps (number : Nat) (rounds : List Round) : List Step :=
  (rounds.zipIdx number).flatMap fun (round, p) => round.steps p

@[simp] theorem allSteps_nil (number : Nat) : allSteps number [] = [] := rfl

@[simp] theorem allSteps_cons (number : Nat) (round : Round) (more : List Round) :
    allSteps number (round :: more) = round.steps number ++ allSteps (number + 1) more := rfl

/-- Rounds that lead from one text to another: each has something to do, answers all of it from
right to left, and hands on its text with the answers put in. -/
inductive Lead : Text → List Round → Text → Prop where
  | nil : Lead first [] first
  | cons {round : Round} : sites round.query ≠ [] →
      round.answers.map Prod.fst = (sites round.query).reverse →
      Substituted round.edits round.query next → Lead next more last →
      Lead round.query (round :: more) last

end Round

theorem pass_course (engine : Engine σ) (number : Nat) (query : Text) (state : σ) :
    (∃ (answers : List Answer) (result : Text) (final : σ),
      answers.map Prod.fst = (sites query).reverse ∧
      Substituted (Round.edits ⟨query, answers⟩) query result ∧
      (pass number query (sites query)).Course engine state (Answer.allSteps number 1 answers)
        (answers.map Answer.reply) (.ok result) final) ∨
    ∃ (answers : List Answer) (site : Site) (rest : List Site) (error : EngineError) (final : σ),
      (sites query).reverse = answers.map Prod.fst ++ site :: rest ∧
      (pass number query (sites query)).Course engine state
        (Answer.allSteps number 1 answers ++ [.call site.inner,
          .event (.subqueryFailed number (answers.length + 1) site error)])
        (answers.map Answer.reply ++ [.error error])
        (.error ⟨.subquery number (answers.length + 1) error.message,
          ["in pass ".toList ++ Decimal.ofNat number]⟩) final := by
  rcases askAll_course engine number 1 (sites query).reverse state with
    ⟨answers, final, all, course⟩ | ⟨answers, site, rest, error, final, all, course⟩
  · have called : (Answer.allSteps number 1 answers).filterMap Step.call? =
        (sites query).reverse.map Site.inner := by
      rw [Answer.calls_allSteps, ← all, List.map_map]
      rfl
    obtain ⟨o', resolves, _⟩ := pass_ok engine number query (answers.map Prod.snd).reverse state (by
      rw [← called, course.heard, List.reverse_reverse, List.map_map]
      rfl)
    rw [editsOf_answers all] at resolves
    obtain ⟨_, _, _, _, _, _, spliced⟩ := resolves.splice
    rw [List.reverse_reverse] at spliced
    have whole : (pass number query (sites query)).Course engine state
        (Answer.allSteps number 1 answers) (answers.map Answer.reply)
        (.ok ((splice (answers.map Answer.edit) query).getD query)) final := course.map _
    rw [spliced] at whole
    exact .inl ⟨answers, o'.text, final, all, resolves.substituted, whole⟩
  · right
    refine ⟨answers, site, rest, error, final, all, ?_⟩
    rw [Nat.add_comm answers.length]
    exact course.map _

/-- How a run ends behind its rounds. -/
inductive Ending where
  /-- A sub-select of the next pass fails. Those in front of it in the order of the calls were
  answered. -/
  | broken (answers : List Answer) (site : Site) (error : EngineError)
  /-- The rewritten query fails. -/
  | refused (error : EngineError)
  | answered (table : Table)

namespace Ending

/-- When a run can end so at the text `last`: in a pass there is still room for, or because nothing
is left to do or no pass is. -/
def Ends (left : Nat) (last : Text) : Ending → Prop
  | broken answers site _ =>
    left ≠ 0 ∧ ∃ rest, (sites last).reverse = answers.map Prod.fst ++ site :: rest
  | refused _ => sites last = [] ∨ left = 0
  | answered _ => sites last = [] ∨ left = 0

/-- Sub-selects that are left over are reported. -/
def leftover (limit : Nat) (last : Text) : List Step :=
  if sites last = [] then [] else [.event (.passesExhausted limit last)]

/-- The steps of an ending after the given number of passes. -/
def steps (limit passes : Nat) (last : Text) : Ending → List Step
  | broken answers site error =>
    .event (.passStarted (passes + 1) last (sites last)) ::
      (Answer.allSteps (passes + 1) 1 answers ++ [.call site.inner,
        .event (.subqueryFailed (passes + 1) (answers.length + 1) site error)])
  | refused error => leftover limit last ++
      [.event (.queryResolved last passes), .call last, .event (.finalQueryFailed last error)]
  | answered _ => leftover limit last ++ [.event (.queryResolved last passes), .call last]

def replies : Ending → List Reply
  | broken answers _ error => answers.map Answer.reply ++ [.error error]
  | refused error => [.error error]
  | answered table => [.ok table]

/-- A failure carries the text of the engine's error and one note. -/
def outcome (passes : Nat) (last : Text) : Ending → Outcome Resolution
  | broken answers _ error => .error ⟨.subquery (passes + 1) (answers.length + 1) error.message,
      ["in pass ".toList ++ Decimal.ofNat (passes + 1)]⟩
  | refused error => .error ⟨.finalQuery error.message, ["executing resolved query".toList]⟩
  | answered table => .ok ⟨⟨last, passes, !(sites last).isEmpty⟩, table⟩

end Ending

theorem proceed_settled (engine : Engine σ) (limit left passes : Nat) (last : Text) (state : σ)
    (settled : sites last = [] ∨ left = 0) :
    (proceed limit left passes last).Course engine state (Ending.leftover limit last) []
      (.ok ⟨last, passes, !(sites last).isEmpty⟩) state := by
  by_cases found : sites last = []
  · rw [proceed_done found, Ending.leftover, if_pos found, found]
    exact .done ..
  · obtain rfl := settled.resolve_left found
    have more : (sites last).isEmpty = false := by simpa using found
    rw [proceed_exhausted found, Ending.leftover, if_neg found, more]
    exact .report (.done ..) _

/-- With no pass ahead the text itself is run. -/
theorem settle_course (engine : Engine σ) (limit left passes : Nat) (last : Text) (state : σ)
    (settled : sites last = [] ∨ left = 0) :
    ∃ (ending : Ending) (final : σ), ending.Ends left last ∧
      ((proceed limit left passes last).andThen finish).Course engine state
        (ending.steps limit passes last) ending.replies (ending.outcome passes last) final := by
  have reached := proceed_settled engine limit left passes last state settled
  obtain ⟨reply, state', asked⟩ : ∃ reply state', engine last state = (reply, state') :=
    ⟨_, _, rfl⟩
  cases reply with
  | error error =>
    refine ⟨.refused error, state', settled, reached.andThen ?_⟩
    exact .report (.ask asked (.report (.done ..) _)) _
  | ok table =>
    refine ⟨.answered table, state', settled, reached.andThen ?_⟩
    refine .report (.ask asked ?_) _
    exact .done ..

theorem proceed_course (engine : Engine σ) (limit left passes : Nat) (query : Text) (state : σ) :
    ∃ (rounds : List Round) (last : Text) (ending : Ending) (final : σ),
      Round.Lead query rounds last ∧ rounds.length ≤ left ∧
      ending.Ends (left - rounds.length) last ∧
      ((proceed limit left passes query).andThen finish).Course engine state
        (Round.allSteps (passes + 1) rounds ++ ending.steps limit (passes + rounds.length) last)
        (rounds.flatMap Round.replies ++ ending.replies)
        (ending.outcome (passes + rounds.length) last) final := by
  induction left generalizing passes query state with
  | zero =>
    obtain ⟨ending, final, ends, course⟩ :=
      settle_course engine limit 0 passes query state (.inr rfl)
    exact ⟨[], query, ending, final, .nil, Nat.le_refl 0, ends, course⟩
  | succ left ih =>
    by_cases found : sites query = []
    · obtain ⟨ending, final, ends, course⟩ :=
        settle_course engine limit (left + 1) passes query state (.inl found)
      exact ⟨[], query, ending, final, .nil, Nat.zero_le _, ends, course⟩
    · rw [proceed_succ found]
      rcases pass_course engine (passes + 1) query state with
        ⟨answers, result, middle, all, substituted, course⟩ |
        ⟨answers, site, rest, error, final, all, course⟩
      · obtain ⟨rounds, last, ending, final, lead, bound, ends, rest⟩ :=
          ih (passes + 1) result middle
        refine ⟨⟨query, answers⟩ :: rounds, last, ending, final, .cons found all substituted lead,
          Nat.succ_le_succ bound, by simpa using ends, ?_⟩
        have count : passes + (⟨query, answers⟩ :: rounds).length = passes + 1 + rounds.length := by
          rw [List.length_cons]
          omega
        rw [count, Dialogue.andThen_report, Dialogue.andThen_assoc, Round.allSteps_cons,
          Round.steps, List.cons_append, List.cons_append, List.append_assoc, List.flatMap_cons,
          List.append_assoc]
        exact .report (course.andThen rest) _
      · refine ⟨[], query, .broken answers site error, final, .nil, Nat.zero_le _,
          ⟨Nat.succ_ne_zero _, rest, all⟩, ?_⟩
        exact .report ((course.andThen_error _).andThen_error _) _

/-- The course of a run that resolves a query, against any engine. Round after round answers all
sub-selects of the text, each call followed at once by the event of its answer, from right to left.
Behind the rounds there is one ending: a call of the next pass fails and is the last one, or
sub-selects that are left over are reported, the text is run, and its reply is the outcome. -/
theorem resolve_course (engine : Engine σ) (maxPasses : Nat) (query : Text) (state : σ) :
    ∃ (rounds : List Round) (last : Text) (ending : Ending) (final : σ),
      Round.Lead query rounds last ∧ rounds.length ≤ maxPasses ∧
      ending.Ends (maxPasses - rounds.length) last ∧
      (resolve maxPasses query).Course engine state
        (Round.allSteps 1 rounds ++ ending.steps maxPasses rounds.length last)
        (rounds.flatMap Round.replies ++ ending.replies)
        (ending.outcome rounds.length last) final := by
  have whole := proceed_course engine maxPasses maxPasses 0 query state
  simp only [Nat.zero_add] at whole
  exact whole

/-- Gives its replies one after another, and empty tables behind them. -/
def replying : Engine (List Reply) := fun _ replies => (replies.headD (.ok .empty), replies.tail)

def threefold : Text := "a IN (SELECT 1) AND b = (SELECT 2) AND c > (SELECT 3)".toList

def layered : Text := "a IN (SELECT b FROM t WHERE c = (SELECT 1))".toList

/-- What is left of it behind one pass. -/
def outermost : Text := "a IN (SELECT b FROM t WHERE c = 7)".toList

def seven : Table := .ofRows [[(['n'], .integer 7)]]

def refusal : EngineError := .query "no".toList

/-- The second call of a pass fails, and the first sub-select is never asked for. With a limit of
one a layer is left over, and the last call fails. -/
theorem resolve_course_failing :
    (∃ rounds last ending, Round.Lead threefold rounds last ∧
      Ending.Ends (10 - rounds.length) last ending ∧
      Round.allSteps 1 rounds ++ ending.steps 10 rounds.length last = [
        .event (.passStarted 1 threefold [⟨2, 13, .list "IN".toList, "SELECT 1".toList⟩,
          ⟨22, 12, .scalar .equal, "SELECT 2".toList⟩,
          ⟨41, 12, .scalar .greater, "SELECT 3".toList⟩]),
        .call "SELECT 3".toList,
        .event (.subqueryResolved 1 1 ⟨41, 12, .scalar .greater, "SELECT 3".toList⟩
          "> 7".toList 1),
        .call "SELECT 2".toList,
        .event (.subqueryFailed 1 2 ⟨22, 12, .scalar .equal, "SELECT 2".toList⟩ refusal)] ∧
      ending.outcome rounds.length last =
        .error ⟨.subquery 1 2 "Query engine error: no".toList, ["in pass 1".toList]⟩) ∧
    ∃ rounds last ending, Round.Lead layered rounds last ∧
      Ending.Ends (1 - rounds.length) last ending ∧
      Round.allSteps 1 rounds ++ ending.steps 1 rounds.length last = [
        .event (.passStarted 1 layered [⟨30, 12, .scalar .equal, "SELECT 1".toList⟩]),
        .call "SELECT 1".toList,
        .event (.subqueryResolved 1 1 ⟨30, 12, .scalar .equal, "SELECT 1".toList⟩
          "= 7".toList 1),
        .event (.passesExhausted 1 outermost), .event (.queryResolved outermost 1),
        .call outermost, .event (.finalQueryFailed outermost refusal)] ∧
      ending.outcome rounds.length last =
        .error ⟨.finalQuery "Query engine error: no".toList,
          ["executing resolved query".toList]⟩ := by
  constructor
  · obtain ⟨rounds, last, ending, _, lead, _, ends, course⟩ :=
      resolve_course replying 10 threefold [.ok seven, .error refusal]
    refine ⟨rounds, last, ending, lead, ends, ?_, ?_⟩
    · exact (congrArg Run.trace course.runs).symm.trans (by decide +kernel)
    · exact (congrArg Run.outcome course.runs).symm.trans (by decide +kernel)
  · obtain ⟨rounds, last, ending, _, lead, _, ends, course⟩ :=
      resolve_course replying 1 layered [.ok seven, .error refusal]
    refine ⟨rounds, last, ending, lead, ends, ?_, ?_⟩
    · exact (congrArg Run.trace course.runs).symm.trans (by decide +kernel)
    · exact (congrArg Run.outcome course.runs).symm.trans (by decide +kernel)

end Query
end Subselect
