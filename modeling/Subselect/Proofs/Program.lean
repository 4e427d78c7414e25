import Subselect.Command
import Subselect.Proofs.Asking
import Subselect.Proofs.Printing

/-! The program as a whole. It resolves a query once the settings are read, the exporter runs if it
was asked for and the query has some text; otherwise it ends with an error before any exchange. Its
output is the result of that run or nothing. -/
namespace Subselect

namespace Http

open Net

/-- The requests that put queries to the endpoint at an address; none if it cannot be requested. -/
def posted (base : Text) (queries : List Text) : List Request :=
  queries.filterMap fun query => (request base query).toOption

theorem posted_ok (put : request base query = .ok sent) (more : List Text) :
    posted base (query :: more) = sent :: posted base more := by
  rw [posted, List.filterMap_cons, put]
  rfl

theorem posted_error (put : request base query = .error error) (more : List Text) :
    posted base (query :: more) = posted base more := by
  rw [posted, List.filterMap_cons, put]
  rfl

/-- Requests can be made to an address. -/
def Reaches (base : Text) : Prop := (Url.parse? (endpoint base)).any Url.isSendable = true

/-- An address takes a request for every query or for none, and the request carries the query. -/
theorem body_posted (reaches : Reaches base) (queries : List Text) :
    (posted base queries).map Request.body = queries.map Form.ofQuery := by
  cases parsed : Url.parse? (endpoint base) with
  | none => simp [Reaches, parsed] at reaches
  | some url =>
    have sendable : url.isSendable = true := by simpa [Reaches, parsed] using reaches
    have put (query : Text) : request base query =
        .ok ⟨url.scheme, url.place, url.target, Form.contentType, Form.ofQuery query⟩ := by
      simp only [request, parsed, sendable, if_true]
    induction queries with
    | nil => rfl
    | cons query more ih => rw [posted_ok (put query), List.map_cons, List.map_cons, ih]

theorem posted_unreached (unreached : ¬Reaches base) (queries : List Text) :
    posted base queries = [] := by
  have refused (query : Text) : ∃ error, request base query = .error error := by
    cases parsed : Url.parse? (endpoint base) with
    | none => exact ⟨.transport none, by simp only [request, parsed]⟩
    | some url =>
      have unsendable : ¬url.isSendable = true := by simpa [Reaches, parsed] using unreached
      exact ⟨.transport (some url.text), by simp only [request, parsed, if_neg unsendable]⟩
  induction queries with
  | nil => rfl
  | cons query more ih =>
    obtain ⟨error, put⟩ := refused query
    rw [posted_error put, ih]

/-- The engine at an address, without the record of its exchanges. -/
def client (base : Text) (transport : Transport σ) : Engine σ := fun query state =>
  match request base query with
  | .error error => (.error error, state)
  | .ok request =>
    let (answer, state) := transport request state
    (Exchange.reply { request, answer }, state)

theorem applyStatus_ok (known : applyStatus status reply = .ok table) : reply = .ok table := by
  unfold applyStatus at known
  split at known
  · split at known
    · cases known
    · cases known
  · exact known

/-- Every double in a table that comes from an endpoint is finite. -/
theorem finite_reply {exchange : Exchange} (replied : exchange.reply = .ok table) :
    table.Finite := by
  obtain ⟨request, answer⟩ := exchange
  cases answer with
  | error reason => cases replied
  | ok answer => exact Response.finite_decode (applyStatus_ok replied)

theorem finite_client (base : Text) (transport : Transport σ) (query : Text) (state : σ)
    (replied : (client base transport query state).1 = .ok table) : table.Finite := by
  unfold client at replied
  split at replied
  · cases replied
  · exact finite_reply replied

/-- The record changes nothing, and grows by the requests for the calls. -/
theorem run_engine (base : Text) (transport : Transport σ) (d : Dialogue α) (state : σ)
    (exchanges : List Exchange) : ∃ made : List Exchange,
      d.run (engine base transport) (state, exchanges) =
        { outcome := (d.run (client base transport) state).outcome
          trace := (d.run (client base transport) state).trace
          state := ((d.run (client base transport) state).state, exchanges ++ made) } ∧
      made.map Exchange.request = posted base (d.run (client base transport) state).calls := by
  induction d generalizing state exchanges with
  | done a => exact ⟨[], by simp, rfl⟩
  | report event next ih =>
    obtain ⟨made, same, requests⟩ := ih state exchanges
    refine ⟨made, ?_, requests⟩
    rw [Dialogue.run_report, same]
    rfl
  | ask query next ih =>
    rw [Dialogue.run_ask, Dialogue.run_ask, Run.calls_call]
    cases put : request base query with
    | error error =>
      have refused : engine base transport query (state, exchanges) =
          (.error error, state, exchanges) := by simp only [engine, put]
      have refused' : client base transport query state = (.error error, state) := by
        simp only [client, put]
      obtain ⟨made, same, requests⟩ := ih (.error error) state exchanges
      rw [refused, refused', same]
      exact ⟨made, rfl, requests.trans (posted_error put _).symm⟩
    | ok sent =>
      cases carried : transport sent state with | mk answer state' =>
      have recorded : engine base transport query (state, exchanges) =
          (Exchange.reply ⟨sent, answer⟩, state', exchanges ++ [⟨sent, answer⟩]) := by
        simp only [engine, put, carried]
      have replied : client base transport query state =
          (Exchange.reply ⟨sent, answer⟩, state') := by simp only [client, put, carried]
      obtain ⟨made, same, requests⟩ :=
        ih (Exchange.reply ⟨sent, answer⟩) state' (exchanges ++ [⟨sent, answer⟩])
      rw [recorded, replied, same]
      refine ⟨⟨sent, answer⟩ :: made, ?_, ?_⟩
      · rw [List.append_assoc]
        rfl
      · rw [List.map_cons, requests, posted_ok put]

end Http

namespace Command

variable {listen : Net.SocketAddress → Except ExporterError Unit} {transport : Http.Transport σ}

/-- The settings are read, the exporter runs if they ask for it, and the query they or the input
carry has some text. -/
structure Ready (arguments : List Text) (input : Text)
    (listen : Net.SocketAddress → Except ExporterError Unit) (settings : Settings) (query : Text) :
    Prop where
  parsed : Settings.parse arguments = .ok (.run settings)
  listening : ∀ address, settings.metricsSocket = some address → listen address = .ok ()
  carried : (Payload.parse (settings.query.getD input)).query = query
  some : query ≠ []

theorem startExporter_isOk_iff : (∃ log, startExporter listen settings = .ok log) ↔
    ∀ address, settings.metricsSocket = some address → listen address = .ok () := by
  cases asked : settings.metricsSocket with
  | none => simp [startExporter, asked]
  | some address =>
    cases heard : listen address with
    | error e => simp [startExporter, asked, heard, Except.map]
    | ok => simp [startExporter, asked, heard, Except.map]

theorem queryOf_eq_some_iff :
    queryOf input = some query ↔ (Payload.parse input).query = query ∧ query ≠ [] := by
  simp only [queryOf, List.isEmpty_iff, Option.ite_none_left_eq_some, Option.some.injEq]
  constructor
  · rintro ⟨present, rfl⟩
    exact ⟨rfl, present⟩
  · rintro ⟨rfl, present⟩
    exact ⟨present, rfl⟩

theorem run_ready (ready : Ready arguments input listen settings query) (state : σ) :
    ∃ log, run arguments input listen transport state =
      resolve settings query log transport state := by
  obtain ⟨log, started⟩ := startExporter_isOk_iff.mpr ready.listening
  have carried := queryOf_eq_some_iff.mpr ⟨ready.carried, ready.some⟩
  refine ⟨log, ?_⟩
  simp only [run, ready.parsed, started, carried]

theorem run_unready (transport : Http.Transport σ) (wished : Settings.parse arguments ≠ .ok .help)
    (unready : ∀ settings query, ¬Ready arguments input listen settings query) (state : σ) :
    ∃ log error, run arguments input listen transport state =
      ⟨false, [], log, some error, [], state⟩ := by
  cases parsed : Settings.parse arguments with
  | error e => exact ⟨[], .settings e, by simp only [run, parsed]⟩
  | ok wish =>
    cases wish with
    | help => exact absurd parsed wished
    | run settings =>
      cases started : startExporter listen settings with
      | error e => exact ⟨[], .exporter e, by simp only [run, parsed, started]⟩
      | ok log =>
        cases carried : queryOf (settings.query.getD input) with
        | none => exact ⟨log, .noQuery, by simp only [run, parsed, started, carried]⟩
        | some query =>
          obtain ⟨same, present⟩ := queryOf_eq_some_iff.mp carried
          have listening := startExporter_isOk_iff.mp ⟨log, started⟩
          exact absurd ⟨parsed, listening, same, present⟩ (unready settings query)

/-- The run of the resolver that settings ask for. -/
def resolved (settings : Settings) (query : Text) (transport : Http.Transport σ) (state : σ) :
    Run σ (Outcome Resolution) :=
  (Query.resolve settings.maxPasses query).run (Http.client settings.url transport) state

/-- The program ends as a run of the resolver does: with the text of its table on the output and a
line end behind it, or with a failure and nothing on the output. Nothing else of the result enters,
not even whether its rewriting was exhausted. The requests are those for the calls of the run, and
each call has one unless the address cannot be requested at all. -/
structure Ends (done : Finished σ) (base : Text) (run : Run σ (Outcome Resolution)) : Prop where
  success : done.success = run.outcome.isOk
  printed : ∀ resolution, run.outcome = .ok resolution →
    ∃ text, done.printed = text ++ ['\n'] ∧ Shows text resolution.table
  silent : ∀ report, run.outcome = .error report → done.printed = []
  requests : done.exchanges.map Http.Exchange.request = Http.posted base run.calls
  bodies : Http.Reaches base →
    done.exchanges.map (·.request.body) = run.calls.map Net.Form.ofQuery
  unreached : ¬Http.Reaches base → done.exchanges = []
  state : done.state = run.state

theorem resolve_ends (settings : Settings) (query log : Text) (state : σ) :
    Ends (resolve settings query log transport state) settings.url
      (resolved settings query transport state) := by
  obtain ⟨made, same, requests⟩ := Http.run_engine settings.url transport
    (Query.resolve settings.maxPasses query) state []
  rw [← resolved, List.nil_append] at same
  rw [← resolved] at requests
  have bodies (reaches : Http.Reaches settings.url) : made.map (·.request.body) =
      (resolved settings query transport state).calls.map Net.Form.ofQuery := by
    rw [← Http.body_posted reaches, ← requests, List.map_map]
    rfl
  have unreached (unreached : ¬Http.Reaches settings.url) : made = [] := by
    rw [Http.posted_unreached unreached] at requests
    exact List.map_eq_nil_iff.mp requests
  unfold resolve
  rw [same]
  cases outcome : (resolved settings query transport state).outcome with
  | error report =>
    refine ⟨?_, ?_, fun _ _ => rfl, requests, bodies, unreached, rfl⟩
    · rw [outcome]
      rfl
    · rw [outcome]
      rintro _ ⟨⟩
  | ok resolution =>
    have answered := Query.resolve_answered _ _ _ _ outcome
    have shows := (Http.finite_client _ _ _ _ answered).shows
    refine ⟨?_, ?_, ?_, requests, bodies, unreached, rfl⟩
    · rw [outcome]
      rfl
    · rw [outcome]
      rintro _ ⟨⟩
      exact ⟨_, rfl, shows⟩
    · rw [outcome]
      rintro _ ⟨⟩

/-- Unless help is asked for, the program prints the result of a query or nothing. It succeeds if
and only if all is ready and the query is resolved. Once all is ready it ends as that run does,
whether or not the query qualifies; otherwise it asks for nothing. -/
theorem run_ends (input : Text) (listen : Net.SocketAddress → Except ExporterError Unit)
    (transport : Http.Transport σ) (state : σ) (wished : Settings.parse arguments ≠ .ok .help) :
    ((run arguments input listen transport state).success = true ↔
      ∃ settings query resolution, Ready arguments input listen settings query ∧
        (resolved settings query transport state).outcome = .ok resolution) ∧
    (∀ settings query, Ready arguments input listen settings query →
      Ends (run arguments input listen transport state) settings.url
        (resolved settings query transport state)) ∧
    ((∀ settings query, ¬Ready arguments input listen settings query) →
      (run arguments input listen transport state).printed = [] ∧
        (run arguments input listen transport state).exchanges = [] ∧
        (run arguments input listen transport state).state = state) := by
  have ends : ∀ settings query, Ready arguments input listen settings query →
      Ends (run arguments input listen transport state) settings.url
        (resolved settings query transport state) := by
    intro settings query ready
    obtain ⟨log, same⟩ := run_ready ready state
    rw [same]
    exact resolve_ends settings query log state
  refine ⟨⟨fun success => ?_, ?_⟩, ends, fun unready => ?_⟩
  · by_cases ready : ∃ settings query, Ready arguments input listen settings query
    · obtain ⟨settings, query, ready⟩ := ready
      have agrees := (ends settings query ready).success
      cases outcome : (resolved settings query transport state).outcome with
      | ok resolution => exact ⟨settings, query, resolution, ready, outcome⟩
      | error report =>
        rw [success, outcome] at agrees
        cases agrees
    · obtain ⟨_, _, same⟩ := run_unready transport wished
        (fun settings query other => ready ⟨settings, query, other⟩) state
      rw [same] at success
      cases success
  · rintro ⟨settings, query, resolution, ready, outcome⟩
    rw [(ends settings query ready).success, outcome]
    rfl
  · obtain ⟨_, _, same⟩ := run_unready transport wished unready state
    rw [same]
    exact ⟨rfl, rfl, rfl⟩

/-- Gives the answers in their order; when they are used up, nothing comes back. -/
def answering : Http.Transport (List Http.Answer) := fun _ answers =>
  match answers with
  | [] => (.error "error sending request".toList, [])
  | answer :: more => (.ok answer, more)

/-- A query without a list, which takes two passes. -/
def scalarQuery : Text := "SELECT a FROM t WHERE b = (SELECT c FROM u WHERE d > (SELECT 1))".toList

/-- What one pass leaves of it. -/
def partialQuery : Text := "SELECT a FROM t WHERE b = (SELECT c FROM u WHERE d > 7)".toList

def onePass : Settings where
  url := "https://h".toList
  timeoutMs := none
  maxPasses := 1
  metricsSocket := none
  query := some scalarQuery

def onePassArguments : List Text :=
  ["--engine_url".toList, onePass.url, "--max_passes=1".toList, "--query".toList, scalarQuery]

def sevenAnswer : Http.Answer where
  status := 200
  body := Text.encodeUtf8 "[\x7b\"data\":[\x7b\"n\":7,\"x\":0.5\x7d],\"total\":1\x7d]".toList

def sevenTable : Table :=
  { Table.ofRows [[(['n'], .integer 7), (['x'], .float (.finite false 4503599627370496 1021))]] with
    total := some 1 }

def sevenText : Text :=
  ("\x7b\n  \"columns\": [\n    \"n\",\n    \"x\"\n  ],\n  \"rows\": [\n    \x7b\n" ++
    "      \"n\": 7,\n      \"x\": 0.5\n    \x7d\n  ],\n  \"total\": 1\n\x7d\n").toList

def onePassRun : Finished (List Http.Answer) :=
  run onePassArguments [] (fun _ => .ok ()) answering [sevenAnswer, sevenAnswer]

/-- The request that carries a form to the endpoint. -/
def formRequest (body : String) : Http.Request :=
  ⟨.https, ['h'], "/sql?mode=raw".toList, Net.Form.contentType, body.toList⟩

/-- The query does not qualify and its rewriting is exhausted, but its result is printed. -/
theorem run_ends_one_pass :
    Settings.parse onePassArguments ≠ .ok .help ∧ Query.qualifies scalarQuery = false ∧
      (resolved onePass scalarQuery answering [sevenAnswer, sevenAnswer]).outcome =
        .ok ⟨⟨partialQuery, 1, true⟩, sevenTable⟩ ∧
      onePassRun.success = true ∧ onePassRun.printed = sevenText ∧
      onePassRun.exchanges.map Http.Exchange.request = [
        formRequest "query=SELECT+1",
        formRequest "query=SELECT+a+FROM+t+WHERE+b+%3D+%28SELECT+c+FROM+u+WHERE+d+%3E+7%29"] := by
  have parsed : Settings.parse onePassArguments = .ok (.run onePass) :=
    toOption_eq_some_iff.mp (by decide +kernel)
  have wished : Settings.parse onePassArguments ≠ .ok .help := by
    rw [parsed]
    rintro ⟨⟩
  have ready : Ready onePassArguments [] (fun _ => .ok ()) onePass scalarQuery :=
    ⟨parsed, nofun, by decide +kernel, List.cons_ne_nil _ _⟩
  have both : ((resolved onePass scalarQuery answering [sevenAnswer, sevenAnswer]).outcome.toOption,
      (resolved onePass scalarQuery answering [sevenAnswer, sevenAnswer]).calls) =
        (some ⟨⟨partialQuery, 1, true⟩, sevenTable⟩, ["SELECT 1".toList, partialQuery]) := by
    decide +kernel
  obtain ⟨outcome, calls⟩ := Prod.mk.inj both
  have outcome := toOption_eq_some_iff.mp outcome
  obtain ⟨success, ends, _⟩ :=
    run_ends [] (fun _ => .ok ()) answering [sevenAnswer, sevenAnswer] wished
  have ended := ends onePass scalarQuery ready
  obtain ⟨text, printed, shows⟩ := ended.printed _ outcome
  refine ⟨wished, by decide, outcome, success.mpr ⟨onePass, scalarQuery, _, ready, outcome⟩, ?_, ?_⟩
  · rw [onePassRun, printed, shows.laid]
    decide +kernel
  · rw [onePassRun, ended.requests, calls]
    decide +kernel

end Command
end Subselect
