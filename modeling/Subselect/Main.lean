import Subselect.Command
import Subselect.Net.Wire

/-! The program. It has no sockets of its own: requests are written to descriptor 3 and answers are
read from descriptor 4, which the caller connects to the endpoint. -/
namespace Subselect.Main

open Text

structure Connection where
  requests : IO.FS.Handle
  answers : IO.FS.Handle

def connect : IO Connection := do
  let requests ← IO.FS.Handle.mk "/dev/fd/3" .write
  let answers ← IO.FS.Handle.mk "/dev/fd/4" .read
  pure { requests, answers }

def print (stream : IO.FS.Stream) (t : Text) : IO Unit := do
  stream.putStr (String.ofList t)
  stream.flush

def log (t : Text) : IO Unit := do print (← IO.getStderr) t

/-- Reads header lines up to the empty one; the last length given for the body counts. -/
partial def readHead (answers : IO.FS.Handle) (length : Nat) : IO Nat := do
  let line := trimEnd (← answers.getLine).toList
  if line.isEmpty then pure length
  else readHead answers ((Net.Wire.contentLength? line).getD length)

/-- Reads a body of a given length, or what there is of it. -/
partial def readBody (answers : IO.FS.Handle) (left : Nat) (read : ByteArray) : IO ByteArray := do
  if left = 0 then pure read
  else
    let more ← answers.read (USize.ofNat left)
    if more.isEmpty then pure read else readBody answers (left - more.size) (read ++ more)

def receive (connection : Connection) (request : Http.Request) : IO Http.Answer := do
  connection.requests.putStr (String.ofList (Net.Wire.requestText request))
  connection.requests.flush
  let status := Net.Wire.status (← connection.answers.getLine).toList
  let length ← readHead connection.answers 0
  let body ← readBody connection.answers length .empty
  pure { status, body := body.toList }

/-- Without a connection there is no answer. -/
def exchange (request : Http.Request) : IO Http.Exchange := do
  match ← (do receive (← connect) request).toBaseIO with
  | .ok answer => pure { request, answer := .ok answer }
  | .error failure => pure { request, answer := .error (toString failure).toList }

/-- Holds a dialogue with the endpoint at an address, and logs it as it goes. -/
def converse (base : Text) : Dialogue α → IO α
  | .done a => pure a
  | .report event next => do
    log (Command.format.events Command.format.resolving [event])
    converse base next
  | .ask query next => do
    match Http.request base query with
    | .error error => converse base (next (.error error))
    | .ok request =>
      let exchange ← exchange request
      log (Command.respondedText exchange)
      converse base (next exchange.reply)

/-- The exporter needs a listener, which this program cannot open. -/
def listen (_ : Net.SocketAddress) : Except ExporterError Unit := .error .threadStart

def fail (error : Command.Error) : IO UInt32 := do
  log ("Error: ".toList ++ error.text "Subselect".toList ++ ['\n'])
  pure 1

partial def readAll (stream : IO.FS.Stream) (read : String) : IO String := do
  let line ← stream.getLine
  if line.isEmpty then pure read else readAll stream (read ++ line)

def input (settings : Settings) : IO Text := do
  match settings.query with
  | some query => pure query
  | none => return (← readAll (← IO.getStdin) "").toList

def resolve (settings : Settings) (query : Text) : IO UInt32 := do
  log (Command.announceText settings query)
  match ← converse settings.url (Query.resolve settings.maxPasses query) with
  | .error report => fail (.run report)
  | .ok resolution =>
    log (Command.partialText resolution.rewrite)
    print (← IO.getStdout) (Command.resultText resolution.table)
    pure 0

def run (settings : Settings) : IO UInt32 := do
  match Command.startExporter listen settings with
  | .error error => fail (.exporter error)
  | .ok line =>
    log line
    match Command.queryOf (← input settings) with
    | none => fail .noQuery
    | some query => resolve settings query

end Subselect.Main

def main (arguments : List String) : IO UInt32 := do
  match Subselect.Settings.parse (arguments.map String.toList) with
  | .error error => Subselect.Main.fail (.settings error)
  | .ok .help => do
    Subselect.Main.print (← IO.getStdout) Subselect.Command.usage
    pure 1
  | .ok (.run settings) => Subselect.Main.run settings
