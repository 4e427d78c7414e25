import Subselect.Engine.Http
import Subselect.Payload
import Subselect.Run.Exporter
import Subselect.Run.Log
import Subselect.Settings.Basic

/-! The command line program: reads its settings, starts the exporter if asked to, takes a query
and resolves it, and prints the rows as JSON text. The log goes to a stream of its own. -/
namespace Subselect.Command

open Text

def programName : Text := "subquery-resolver".toList

def usage : Text :=
  "Usage: ".toList ++ programName ++
    (" --engine_url URL [--max_passes N] [--timeout_ms MS]" ++
      " [--metrics_socket ADDR] [--query SQL]\n").toList

/-- The log shows everything but traces, and its field names are styled. -/
def format : Log.Format := ⟨.debug, true⟩

inductive Error where
  | settings (error : SettingsError)
  | exporter (error : ExporterError)
  | noQuery
  | run (report : Report Failure)
  deriving DecidableEq, Repr

def fieldText (name : String) (value : Text) : Text := name.toList ++ ": ".toList ++ shown value

def settingsErrorText : SettingsError → Text
  | .argument message => "ArgumentError \x7b ".toList ++ fieldText "message" message ++ " \x7d".toList
  | .missing name => "ArgumentMissing \x7b ".toList ++ fieldText "name" name ++ " \x7d".toList
  | .invalid name value =>
    "ArgumentInvalid \x7b ".toList ++ fieldText "name" name ++ ", ".toList ++
      fieldText "value" value ++ " \x7d".toList

/-- The text an error ends the program with; `place` is the text of a place in the program. -/
def Error.text (place : Text) : Error → Text
  | settings error => settingsErrorText error
  | exporter error => shown ((Report.of error).render ExporterError.message place)
  | noQuery => shown "no query given".toList
  | run report => shown (report.render Failure.message place)

/-- What is left of a run of the program. -/
structure Finished (σ : Type) where
  success : Bool
  printed : Text
  log : Text
  error : Option Error
  exchanges : List Http.Exchange
  state : σ

def note (level : Log.Level) (message : Text) : Text := format.line [] ⟨level, message, []⟩

/-- The line about an answer, in the span of the query that is resolved. -/
def respondedText (exchange : Http.Exchange) : Text :=
  match exchange.answer with
  | .error _ => []
  | .ok answer =>
    let message := "engine responded ".toList ++ Net.Status.text answer.status ++
      " (".toList ++ Decimal.ofNat (size answer.text) ++ " bytes)".toList
    format.line format.resolving ⟨.debug, message, []⟩

/-- The log of a trace; an answer to a call leaves a line in its place. -/
def traceText : List Step → List Http.Exchange → Text
  | [], _ => []
  | .event e :: steps, exchanges => format.events format.resolving [e] ++ traceText steps exchanges
  | .call _ :: steps, exchange :: more => respondedText exchange ++ traceText steps more
  | .call _ :: steps, [] => traceText steps []

/-- The query of the input, if it holds one. -/
def queryOf (input : Text) : Option Text :=
  let query := (Payload.parse input).query
  if query.isEmpty then none else some query

/-- What is logged before the query is resolved. -/
def announceText (settings : Settings) (query : Text) : Text :=
  (if Query.qualifies query then []
    else note .warn "query has no IN (SELECT ...) sub-selects, resolving anyway".toList) ++
  note .info ("engine endpoint ".toList ++ Http.endpoint settings.url)

/-- What is logged after it. -/
def partialText (rewrite : Rewrite) : Text :=
  if rewrite.exhausted then
    note .warn ("returned result of a partially resolved query after ".toList ++
      Decimal.ofNat rewrite.passes ++ " passes".toList)
  else []

def resultText (table : Table) : Text := table.toJson.pretty 0 ++ ['\n']

/-- Starts the exporter if the settings name an address, and gives the log line for it. -/
def startExporter (listen : Net.SocketAddress → Except ExporterError Unit) (settings : Settings) :
    Except ExporterError Text :=
  match settings.metricsSocket with
  | none => .ok []
  | some address =>
    (listen address).map fun () => note .info ("serving metrics on ".toList ++ address.text)

/-- Resolves a query and prints its rows; the log so far is `log`. -/
def resolve (settings : Settings) (query log : Text) (transport : Http.Transport σ) (state : σ) :
    Finished σ :=
  let run := (Query.resolve settings.maxPasses query).run (Http.engine settings.url transport)
    (state, [])
  let (state, exchanges) := run.state
  let log := log ++ announceText settings query ++ traceText run.trace exchanges
  match run.outcome with
  | .error report => ⟨false, [], log, some (.run report), exchanges, state⟩
  | .ok resolution =>
    ⟨true, resultText resolution.table, log ++ partialText resolution.rewrite, none, exchanges,
      state⟩

/-- Runs the program with the arguments behind its name and the text on its standard input. -/
def run (arguments : List Text) (input : Text)
    (listen : Net.SocketAddress → Except ExporterError Unit) (transport : Http.Transport σ)
    (state : σ) : Finished σ :=
  let failed := fun log error => ⟨false, [], log, some error, [], state⟩
  match Settings.parse arguments with
  | .error error => failed [] (.settings error)
  | .ok .help => ⟨false, usage, [], none, [], state⟩
  | .ok (.run settings) =>
    match startExporter listen settings with
    | .error error => failed [] (.exporter error)
    | .ok log =>
      match queryOf (settings.query.getD input) with
      | none => failed log .noQuery
      | some query => resolve settings query log transport state

end Subselect.Command
