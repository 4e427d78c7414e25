import Subselect.Proofs.Progress

/-! Whether a query holds a list sub-select decides what a run over it can come to. If it does, there
is something to do. If it does not, no pass ever finds one, whatever the engine answers. -/
namespace Subselect

open Text Outline

namespace Run

@[simp] theorem events_event (event : Event) (run : Run σ α) :
    (run.before [.event event]).events = event :: run.events := rfl

@[simp] theorem events_call (query : Text) (run : Run σ α) :
    (run.before [.call query]).events = run.events := rfl

end Run

namespace Dialogue

/-- Every event that a dialogue may report has a property, whatever is replied. -/
def Reports (property : Event → Prop) : Dialogue α → Prop
  | done _ => True
  | report event next => property event ∧ next.Reports property
  | ask _ next => ∀ reply, (next reply).Reports property

namespace Reports

theorem bind {d : Dialogue α} {k : α → Dialogue β} (h : d.Reports property)
    (next : ∀ a, (k a).Reports property) : (d.bind k).Reports property := by
  induction d with
  | done a => exact next a
  | report event rest ih => exact ⟨h.1, ih h.2⟩
  | ask query rest ih => exact fun reply => ih reply (h reply)

theorem map {d : Dialogue α} (h : d.Reports property) (f : α → β) : (d.map f).Reports property :=
  h.bind fun _ => trivial

theorem run {d : Dialogue α} (h : d.Reports property) (engine : Engine σ) (state : σ) :
    ∀ event ∈ (d.run engine state).events, property event := by
  induction d generalizing state with
  | done a => exact fun _ member => absurd member List.not_mem_nil
  | report event rest ih => exact List.forall_mem_cons.mpr ⟨h.1, ih h.2 state⟩
  | ask query rest ih => exact ih _ (h _) _

end Reports

/-- What is reported is reported by the first part, or by the second one after a success. -/
theorem mem_events_andThen {d : Dialogue (Except ε α)} {k : α → Dialogue (Except ε β)}
    (member : event ∈ ((d.andThen k).run engine state).events) :
    event ∈ (d.run engine state).events ∨ ∃ a, (d.run engine state).outcome = .ok a ∧
      event ∈ ((k a).run engine (d.run engine state).state).events := by
  rw [andThen, run_bind, Run.events, Run.before, List.filterMap_append, List.mem_append] at member
  rcases member with first | second
  · exact .inl first
  · cases outcome : (d.run engine state).outcome with
    | ok a =>
      rw [outcome] at second
      exact .inr ⟨a, rfl, second⟩
    | error e =>
      rw [outcome] at second
      exact absurd second List.not_mem_nil

end Dialogue

namespace Query

def startsPass : Event → Bool
  | .passStarted .. => true
  | _ => false

/-- Within a pass no other one starts. -/
theorem askAll_reports (number ordinal : Nat) (sites : List Site) :
    (askAll number ordinal sites).Reports (startsPass · = false) := by
  induction sites generalizing ordinal with
  | nil => trivial
  | cons site more ih =>
    intro reply
    cases reply with
    | error error => exact ⟨rfl, trivial⟩
    | ok table => exact ⟨rfl, (ih (ordinal + 1)).map _⟩

theorem pass_reports (number : Nat) (query : Text) (sites : List Site) :
    (pass number query sites).Reports (startsPass · = false) :=
  (askAll_reports number 1 sites.reverse).map _

/-- A pass that succeeds has resolved its query. -/
theorem pass_resolves (ok : ((pass number query (sites query)).run engine state).outcome = .ok result) :
    ∃ edits o', Resolves [] (ofText query) edits o' ∧ o'.text = result := by
  rcases pass_cases engine number query state with
    ⟨tables, o', _, resolves, outcome, _⟩ | ⟨⟨report, error⟩, _⟩
  · rw [outcome] at ok
    exact ⟨_, o', resolves, Except.ok.inj ok⟩
  · rw [error] at ok
    cases ok

section
variable {Kept : Text → Prop}
  (keeps : ∀ query edits o', Kept query → Resolves [] (ofText query) edits o' → Kept o'.text)
include keeps

/-- What every pass preserves holds of each text that a pass of a run starts from. -/
theorem proceed_starts (kept : Kept query) (member : .passStarted number start found ∈
      ((proceed limit left passes query).run engine state).events) :
    found = sites start ∧ Kept start := by
  induction left generalizing passes query state with
  | zero =>
    by_cases some : sites query = []
    · rw [proceed_done some] at member
      cases member
    · rw [proceed_exhausted some] at member
      cases List.mem_singleton.mp member
  | succ left ih =>
    by_cases some : sites query = []
    · rw [proceed_done some] at member
      cases member
    · rw [proceed_succ some, Dialogue.run_report, Run.events_event, List.mem_cons] at member
      rcases member with first | member
      · cases first
        exact ⟨rfl, kept⟩
      · rcases Dialogue.mem_events_andThen member with inside | ⟨result, ok, behind⟩
        · have other := (pass_reports _ _ _).run engine state _ inside
          cases other
        · obtain ⟨edits, o', resolves, rfl⟩ := pass_resolves ok
          exact ih (keeps query edits o' kept resolves) behind

/-- What every pass preserves holds of the text a run ends with. -/
theorem proceed_ends (kept : Kept query)
    (ok : ((proceed limit left passes query).run engine state).outcome = .ok done) :
    Kept done.query := by
  induction left generalizing passes query state with
  | zero =>
    rcases proceed_ok_cases ok with ⟨_, rfl⟩ | ⟨_, _, rfl⟩ | ⟨_, fewer, _, _, _, left, _⟩
    · exact kept
    · exact kept
    · cases left
  | succ left ih =>
    rcases proceed_ok_cases ok with ⟨_, rfl⟩ | ⟨_, zero, _⟩ |
      ⟨_, fewer, edits, o', state', more, resolves, rest⟩
    · exact kept
    · cases zero
    · obtain rfl := Nat.succ.inj more
      exact ih (keeps query edits o' kept resolves) rest

end

/-- A pass makes no list sub-select. -/
theorem hasList_of_resolves (h : Resolves [] (ofText query) edits o')
    (found : hasList o'.text = true) : hasList query = true := by
  obtain ⟨site', member, list⟩ := List.any_eq_true.mp found
  rw [← filterMap_site_subselects] at member
  obtain ⟨g', member, recognised'⟩ := List.mem_filterMap.mp member
  obtain ⟨g, here, site, site'', origin⟩ := exists_origin h g' member
  obtain rfl := Option.some.inj (origin.after.symm.trans recognised')
  apply List.any_eq_true.mpr
  refine ⟨site, ?_, ?_⟩
  · rw [← filterMap_site_subselects]
    exact List.mem_filterMap.mpr ⟨g, here, origin.before⟩
  · rw [Context.isList_eq, ← origin.operator, ← Context.isList_eq]
    exact list

theorem sites_ne_nil (found : hasList query = true) : sites query ≠ [] := by
  intro none
  rw [hasList, recognised_eq_nil none] at found
  cases found

/-- A query without list sub-selects has none to run. -/
theorem isList_sites (none : hasList query = false) :
    ∀ site ∈ sites query, site.context.isList = false := by
  intro site member
  have inside : site ∈ recognised query := (innermost_sublist (ofText query) []).mem member
  rw [← Bool.not_eq_true] at none ⊢
  exact fun list => none (List.any_eq_true.mpr ⟨site, inside, list⟩)

/-- Whether a query holds a list sub-select, at any depth, agrees with what a rewrite does, against
any engine and with any limit. If it holds one, the first pass has something to run. If it holds
none, no pass runs a list sub-select, and none is left in the text the run ends with. -/
theorem hasList_decides (engine : Engine σ) (maxPasses : Nat) (query : Text) (state : σ) :
    let run := (rewrite maxPasses query).run engine state
    (hasList query = true → sites query ≠ [] ∧ (maxPasses ≠ 0 →
      ∃ rest, run.trace = .event (.passStarted 1 query (sites query)) :: rest)) ∧
    (hasList query = false →
      (∀ number start found, .passStarted number start found ∈ run.events →
        found = sites start ∧ ∀ site ∈ found, site.context.isList = false) ∧
      ∀ done, run.outcome = .ok done → ∀ site ∈ sites done.query, site.context.isList = false) := by
  intro run
  constructor
  · intro list
    refine ⟨sites_ne_nil list, fun positive => ?_⟩
    obtain ⟨left, rfl⟩ := Nat.exists_eq_succ_of_ne_zero positive
    simp only [run, rewrite, proceed_succ (sites_ne_nil list), Dialogue.run_report, Nat.zero_add]
    exact ⟨_, rfl⟩
  · intro none
    have keeps : ∀ query edits o', hasList query = false → Resolves [] (ofText query) edits o' →
        hasList o'.text = false := by
      intro query edits o' none resolves
      rw [← Bool.not_eq_true] at none ⊢
      exact mt (hasList_of_resolves resolves) none
    constructor
    · intro number start found member
      obtain ⟨rfl, kept⟩ := proceed_starts keeps none member
      exact ⟨rfl, isList_sites kept⟩
    · exact fun done ok => isList_sites (proceed_ends keeps none ok)

/-- An answer that reads like a list sub-select is not run as one, neither in the pass behind it nor
later. -/
theorem hasList_decides_quoted :
    (∃ rest, ((rewrite 1 "a IN (SELECT b = (SELECT c))".toList).run emptyEngine ()).trace =
        .event (.passStarted 1 "a IN (SELECT b = (SELECT c))".toList
          (sites "a IN (SELECT b = (SELECT c))".toList)) :: rest) ∧
      (∀ site ∈ sites "a = (SELECT b = 'd IN (SELECT e)')".toList, site.context.isList = false) ∧
      ∀ site ∈ sites "a = 'd IN (SELECT e)'".toList, site.context.isList = false := by
  have some := (hasList_decides emptyEngine 1 "a IN (SELECT b = (SELECT c))".toList ()).1
  have none := (hasList_decides
    (.ofFunction fun _ => .ok (.ofRows [[(['c'], .text "d IN (SELECT e)".toList)]])) 9
    "a = (SELECT b = (SELECT c))".toList ()).2
  obtain ⟨_, starts⟩ := some (by decide +kernel)
  obtain ⟨passes, ends⟩ := none (by decide +kernel)
  refine ⟨starts (by decide), ?_, ?_⟩
  · exact (passes 2 "a = (SELECT b = 'd IN (SELECT e)')".toList
      (sites "a = (SELECT b = 'd IN (SELECT e)')".toList) (by decide +kernel)).2
  · exact ends ⟨"a = 'd IN (SELECT e)'".toList, 2, false⟩ (by decide +kernel)

end Query
end Subselect
