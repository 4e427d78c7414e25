import Subselect.Net.Percent

/-! The form bodies that queries are sent in. -/
namespace Subselect.Net

open Text

namespace Form

def isKept (c : Char) : Bool := c.isAlphanum || c == '*' || c == '-' || c == '.' || c == '_'

/-- A space becomes a plus sign. -/
def encode (t : Text) : Text :=
  t.flatMap fun c => if c = ' ' then ['+'] else percentEncode isKept [c]

def contentType : Text := "application/x-www-form-urlencoded".toList

/-- The form that holds a query. -/
def ofQuery (query : Text) : Text := "query=".toList ++ encode query

end Form
end Subselect.Net
