import Subselect.Engine.Basic
import Subselect.Json.Reader

/-! The JSON text an engine answers with: an array of result sets, of which the first one counts,
or an object with an `error`. -/
namespace Subselect.Response

abbrev Entries := List (Text × Json)

/-- A result set as received. The header names a column in each object; data rows are keyed by
column name. -/
structure ResultSet where
  columns : List Entries
  data : List Entries
  total : Option UInt64
  error : Text
  warning : Text

inductive Shape where
  | sets (sets : List ResultSet)
  | failure (error : Json)

/-- The value of a known key: none if it is absent, refused if it is repeated. -/
def field (key : Text) (entries : Entries) : Option (Option Json) :=
  match entries.filter (·.1 == key) with
  | [] => some none
  | [entry] => some (some entry.2)
  | _ => none

def objects : Option Json → Option (List Entries)
  | none => some []
  | some (.array items) => items.mapM fun
    | .object entries => some (Json.settleEntries [] entries)
    | _ => none
  | some _ => none

def count : Option Json → Option (Option UInt64)
  | none => some none
  | some .null => some none
  | some (.whole n) => if 0 ≤ n then some (some (UInt64.ofNat n.toNat)) else none
  | some _ => none

def text : Option Json → Option Text
  | none => some []
  | some (.string s) => some s
  | some _ => none

def ResultSet.ofFields (columns data total error warning : Option Json) : Option ResultSet := do
  let columns ← objects columns
  let data ← objects data
  let total ← count total
  let error ← text error
  let warning ← text warning
  pure { columns, data, total, error, warning }

/-- A result set is an object, whose unknown keys are passed over, or an array of the first few
of its five members in order. -/
def ResultSet.ofJson : Json → Option ResultSet
  | .object entries => do
    let columns ← field "columns".toList entries
    let data ← field "data".toList entries
    let total ← field "total".toList entries
    let error ← field "error".toList entries
    let warning ← field "warning".toList entries
    ofFields columns data total error warning
  | .array items =>
    if items.length ≤ 5 then ofFields items[0]? items[1]? items[2]? items[3]? items[4]? else none
  | _ => none

def Shape.ofJson : Json → Option Shape
  | .array items => (items.mapM ResultSet.ofJson).map .sets
  | .object entries =>
    match field "error".toList entries with
    | some (some error) => some (.failure error.settle)
    | _ => none
  | _ => none

/-- Truth values are numbers. A number too great for a signed word keeps its digits as text;
arrays and objects become their compact text. -/
def cell : Json → Cell
  | .null => .null
  | .bool b => .integer (if b then 1 else 0)
  | .whole n =>
    if n < Decimal.signedLimit then .integer (Int64.ofInt n) else .text (Decimal.ofInt n)
  | .double x => .float x
  | .string s => .text s
  | value => .text value.compact

/-- The message of an error value. What is not a string, nor an object with a string under
`reason`, is shown as compact text. -/
def errorMessage : Json → Text
  | .string s => s
  | .object entries =>
    match Json.swapRemove "reason".toList entries with
    | (some (.string reason), _) => reason
    | (_, others) => (Json.object others).compact
  | value => value.compact

/-- One row: the value under each column name is used up, so a name that is listed again finds
none. -/
def row : List Text → Entries → Row
  | [], _ => []
  | name :: names, entries =>
    let (value, others) := Json.swapRemove name entries
    (name, (value.map cell).getD .null) :: row names others

/-- The names come from the header, or from the first data object if the header has none. -/
def ResultSet.names (set : ResultSet) : List Text :=
  match set.columns.filterMap fun entries => entries.head?.map (·.1) with
  | [] => (set.data.head?.getD []).map (·.1)
  | names => names

def ResultSet.table (set : ResultSet) : Table where
  columns := set.names
  rows := set.data.map (row set.names)
  total := set.total
  warning := if set.warning.isEmpty then none else some set.warning

def Shape.reply : Shape → Reply
  | failure error => .error (.query (errorMessage error))
  | sets [] => .ok .empty
  | sets (set :: _) => if set.error.isEmpty then .ok set.table else .error (.query set.error)

def unknownShape : Text := "data did not match any variant of untagged enum SqlResponse".toList

/-- Reads a body. The shape of the value is judged before what follows it. -/
def decode (body : Text) : Reply :=
  match Json.read body with
  | .error fault => .error (.invalidResponse (fault.message body))
  | .ok (value, rest) =>
    match Shape.ofJson value with
    | none => .error (.invalidResponse unknownShape)
    | some shape =>
      match Json.readEnd rest with
      | .error fault => .error (.invalidResponse (fault.message body))
      | .ok () => shape.reply

end Subselect.Response
