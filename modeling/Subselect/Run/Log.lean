import Subselect.Run.Rewrite
import Subselect.Text.Preview

/-! Log lines: the level, the thread, the spans the event lies in, the message and its fields. -/
namespace Subselect.Log

open Text

inductive Level where
  | error
  | warn
  | info
  | debug
  | trace
  deriving DecidableEq, Repr

namespace Level

def rank : Level → Nat
  | error => 0
  | warn => 1
  | info => 2
  | debug => 3
  | trace => 4

def name : Level → String
  | error => "ERROR"
  | warn => "WARN"
  | info => "INFO"
  | debug => "DEBUG"
  | trace => "TRACE"

/-- The terminal colour a level is shown in. -/
def color : Level → String
  | error => "31"
  | warn => "33"
  | info => "32"
  | debug => "34"
  | trace => "35"

/-- Whether a log that goes down to `most` shows this level. -/
def isShown (level most : Level) : Bool := level.rank ≤ most.rank

end Level

structure Record where
  level : Level
  message : Text
  fields : List (String × Text)
  deriving DecidableEq, Repr

def previewed (t : Text) : Text := preview 200 t

/-- The records an event leaves. -/
def ofEvent : Event → List Record
  | .passStarted pass query sites =>
    [⟨.debug, "pass started".toList, [("pass", Decimal.ofNat pass),
      ("subqueries", Decimal.ofNat sites.length), ("query", previewed query)]⟩]
  | .subqueryResolved pass ordinal site replacement values =>
    [⟨.trace, "subquery executed".toList, [("pass", Decimal.ofNat pass),
      ("ordinal", Decimal.ofNat ordinal), ("offset", Decimal.ofNat site.offset),
      ("subquery", previewed site.inner)]⟩,
     ⟨.debug, "subquery resolved".toList, [("pass", Decimal.ofNat pass),
      ("ordinal", Decimal.ofNat ordinal), ("values", Decimal.ofNat values),
      ("replacement", previewed replacement)]⟩]
  | .subqueryFailed pass ordinal site error =>
    [⟨.error, "subquery failed: ".toList ++ error.message, [("pass", Decimal.ofNat pass),
      ("ordinal", Decimal.ofNat ordinal), ("subquery", previewed site.inner)]⟩]
  | .passesExhausted maxPasses query =>
    [⟨.warn, "max passes reached with sub-selects remaining".toList,
      [("max_passes", Decimal.ofNat maxPasses), ("query", previewed query)]⟩]
  | .queryResolved query passes =>
    [⟨.info, "query resolved".toList,
      [("passes", Decimal.ofNat passes), ("query", previewed query)]⟩]
  | .finalQueryFailed query error =>
    [⟨.error, "final query failed: ".toList ++ error.message, [("query", previewed query)]⟩]

/-- Text in a terminal style. -/
def styled (style : String) (t : Text) : Text :=
  '\x1b' :: '[' :: (style.toList ++ 'm' :: (t ++ "\x1b[0m".toList))

/-- How lines are written: the most verbose level shown, and whether field names are styled. -/
structure Format where
  most : Level
  ansi : Bool

/-- A message cannot carry control characters that a terminal would act on. -/
def harmless (t : Text) : Text :=
  t.flatMap fun c =>
    if c = '\x1b' then "\\x1b".toList
    else if c = '\x07' then "\\x07".toList
    else if c = '\x08' then "\\x08".toList
    else if c = '\x0c' then "\\x0c".toList
    else if c = '\x7f' then "\\x7f".toList
    else if 0x80 ≤ c.toNat ∧ c.toNat ≤ 0x9F then
      "\\u\x7b".toList ++ Nat.toDigits 16 c.toNat ++ ['\x7d']
    else [c]

def Format.field (format : Format) (name : String) (value : Text) : Text :=
  if format.ansi then styled "3" name.toList ++ styled "2" ['='] ++ value
  else name.toList ++ '=' :: value

/-- The line of a record, or nothing if its level is not shown. -/
def Format.line (format : Format) (span : Text) (record : Record) : Text :=
  if record.level.isShown format.most then
    '[' :: (styled record.level.color record.level.name.toList ++ "]\t".toList ++
      styled "1" "main".toList ++ ' ' :: (styled "38;5;12" span ++ ": ".toList ++
        harmless record.message ++
        record.fields.flatMap (fun (name, value) => ' ' :: format.field name value) ++ ['\n']))
  else []

/-- The span around the resolving of a query has the level of information, and is not recorded
where that level is not shown. -/
def Format.resolving (format : Format) : Text :=
  if Level.info.isShown format.most then "resolve".toList else []

def Format.events (format : Format) (span : Text) (events : List Event) : Text :=
  (events.flatMap ofEvent).flatMap (format.line span)

end Subselect.Log
