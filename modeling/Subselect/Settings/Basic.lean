import Subselect.Settings.Argument
import Subselect.Run.Rewrite

/-! The settings of a run, read from the command line. A later option overrides an earlier one;
what is missing or out of range is found once all arguments are read. -/
namespace Subselect

structure Settings where
  url : Text
  timeoutMs : Option Nat
  maxPasses : Nat
  metricsSocket : Option Net.SocketAddress
  query : Option Text
  deriving DecidableEq, Repr

inductive SettingsError where
  | argument (message : Text)
  | missing (name : Text)
  | invalid (name value : Text)
  deriving DecidableEq, Repr

def SettingsError.message : SettingsError → Text
  | argument message => "Argument error: ".toList ++ message
  | missing name => "Missing argument: ".toList ++ name
  | invalid name value => "Invalid value for ".toList ++ name ++ ": ".toList ++ value

namespace Settings

inductive Key where
  | url
  | timeout
  | passes
  | socket
  | query
  deriving DecidableEq, Repr

def Key.name : Key → String
  | url => "engine_url"
  | timeout => "timeout_ms"
  | passes => "max_passes"
  | socket => "metrics_socket"
  | query => "query"

def Key.all : List Key := [url, timeout, passes, socket, query]

def Key.ofName? (name : Text) : Option Key := all.find? (·.name.toList == name)

/-- The last value of each option so far. -/
structure Given where
  url : Option Text := none
  timeoutMs : Option Nat := none
  maxPasses : Option Nat := none
  metricsSocket : Option Net.SocketAddress := none
  query : Option Text := none
  deriving DecidableEq, Repr

/-- Gives an option the value that a text stands for. -/
def Given.set (given : Given) (key : Key) (value : Text) : Except ParseError Given :=
  match key with
  | .url => .ok { given with url := some value }
  | .timeout => (parseWord value).map fun n => { given with timeoutMs := some n }
  | .passes => (parseWord value).map fun n => { given with maxPasses := some n }
  | .socket => (parseAddress value).map fun a => { given with metricsSocket := some a }
  | .query => .ok { given with query := some value }

def Given.accept (given : Given) (key : Key) (value : Text) : Except ArgumentError Given :=
  match given.set key value with
  | .ok given => .ok given
  | .error reason => .error (.unreadable value reason)

/-- What a command line asks for. -/
inductive Wish (α : Type) where
  | help
  | run (value : α)
  deriving DecidableEq, Repr

/-- An option's value stands behind `=` or is the next argument, whatever that is. -/
def readArguments (given : Given) : List Text → Except ArgumentError (Wish Given)
  | [] => .ok (.run given)
  | argument :: rest =>
    match Argument.ofText argument with
    | .positional t => .error (.unexpected t)
    | .short c => .error (.invalidOption ['-', c])
    | .separator =>
      match rest with
      | [] => .ok (.run given)
      | t :: _ => .error (.unexpected t)
    | .long name value =>
      let option := '-' :: '-' :: name
      if name = "help".toList then .ok .help
      else
        match Key.ofName? name with
        | none => .error (.invalidOption option)
        | some key =>
          match value with
          | some value =>
            match given.accept key value with
            | .ok given => readArguments given rest
            | .error e => .error e
          | none =>
            match rest with
            | [] => .error (.missingValue option)
            | value :: rest =>
              match given.accept key value with
              | .ok given => readArguments given rest
              | .error e => .error e

/-- The pass limit is looked at before the address. -/
def ofGiven (given : Given) : Except SettingsError Settings :=
  let maxPasses := given.maxPasses.getD Query.defaultMaxPasses
  if maxPasses = 0 then .error (.invalid Key.passes.name.toList ['0'])
  else
    match given.url with
    | none => .error (.missing Key.url.name.toList)
    | some url =>
      .ok { url, timeoutMs := given.timeoutMs, maxPasses, metricsSocket := given.metricsSocket,
            query := given.query }

/-- Reads the arguments behind the program's name. -/
def parse (arguments : List Text) : Except SettingsError (Wish Settings) :=
  match readArguments {} arguments with
  | .error e => .error (.argument e.message)
  | .ok .help => .ok .help
  | .ok (.run given) => (ofGiven given).map .run

/-- Reads a whole command line, which the program's name comes first on. -/
def ofCommandLine (line : List Text) : Except SettingsError (Wish Settings) := parse line.tail

end Settings
end Subselect
