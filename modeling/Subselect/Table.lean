import Subselect.Json.Printer

/-! The rows an engine answers a query with. A row keeps its columns in the order reported; a name
may occur more than once. -/
namespace Subselect

inductive Cell where
  | null
  | integer (value : Int64)
  | float (value : Binary64)
  | text (value : Text)
  deriving DecidableEq, Repr

abbrev Row := List (Text × Cell)

structure Table where
  columns : List Text
  rows : List Row
  total : Option UInt64
  warning : Option Text
  deriving DecidableEq, Repr

def Cell.toJson : Cell → Json
  | null => .null
  | integer n => .whole n.toInt
  | float x => .double x
  | text s => .string s

namespace Row

def first (row : Row) : Option Cell := row.head?.map (·.2)

/-- The first cell under a name. -/
def get? (row : Row) (name : Text) : Option Cell := (row.find? (·.1 == name)).map (·.2)

def toJson (row : Row) : Json := .object (row.map fun (name, cell) => (name, cell.toJson))

end Row

namespace Table

def empty : Table := ⟨[], [], none, none⟩

/-- A table of the given rows, with the names of the first one as its columns. -/
def ofRows (rows : List Row) : Table :=
  ⟨(rows.head?.getD []).map (·.1), rows, none, none⟩

def isEmpty (table : Table) : Bool := table.rows.isEmpty

/-- The total and the warning are members only where there is one. -/
def toJson (table : Table) : Json :=
  .object <|
    [("columns".toList, .array (table.columns.map .string)),
      ("rows".toList, .array (table.rows.map Row.toJson))] ++
    (table.total.map fun n => ("total".toList, .whole n.toNat)).toList ++
    (table.warning.map fun s => ("warning".toList, .string s)).toList

end Table
end Subselect
