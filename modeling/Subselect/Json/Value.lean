import Subselect.Decimal.Layout

/-! JSON values. An object keeps its entries in the order received, repeated keys included. -/
namespace Subselect

inductive Json where
  | null
  | bool (value : Bool)
  | whole (value : Int)
  | double (value : Binary64)
  | string (value : Text)
  | array (items : List Json)
  | object (entries : List (Text × Json))
  deriving Repr

namespace Json

/-- The value under a key that occurs once at most. -/
def lookup (key : Text) (entries : List (Text × Json)) : Option Json :=
  (entries.find? (·.1 == key)).map (·.2)

/-- Sets the value of a key: in its place if it is there, at the end otherwise. -/
def insert (key : Text) (value : Json) : List (Text × Json) → List (Text × Json)
  | [] => [(key, value)]
  | entry :: more =>
    if entry.1 = key then (key, value) :: more else entry :: insert key value more

/-- Takes a key out and moves the last entry into its place. -/
def swapRemove (key : Text) (entries : List (Text × Json)) : Option Json × List (Text × Json) :=
  match entries.findIdx? (·.1 == key) with
  | none => (none, entries)
  | some i =>
    let removed := (entries[i]?).map (·.2)
    match entries.getLast? with
    | none => (removed, [])
    | some last => (removed, (entries.set i last).dropLast)

mutual
/-- Gives every object distinct keys: a repeated key keeps its first place and its last value. -/
def settle : Json → Json
  | array items => array (settleItems items)
  | object entries => object (settleEntries [] entries)
  | null => null
  | bool b => bool b
  | whole n => whole n
  | double x => double x
  | string s => string s

def settleItems : List Json → List Json
  | [] => []
  | item :: more => settle item :: settleItems more

def settleEntry : Text × Json → Text × Json
  | (key, value) => (key, settle value)

def settleEntries (done : List (Text × Json)) : List (Text × Json) → List (Text × Json)
  | [] => done
  | entry :: more =>
    let (key, value) := settleEntry entry
    settleEntries (insert key value done) more
end

end Json
end Subselect
