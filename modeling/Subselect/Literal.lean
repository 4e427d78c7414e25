import Subselect.Query.Context
import Subselect.Table

/-! The literals that stand for the rows of a sub-select in the query around it. -/
namespace Subselect

open Text

namespace Literal

def isSign (c : Char) : Bool := c == '+' || c == '-'

def dropSign : Text → Text
  | [] => []
  | c :: t => if isSign c then t else c :: t

def isExponentMark (c : Char) : Bool := c == 'e' || c == 'E'

/-- Digits with at most one point among them. -/
def isMantissa (t : Text) : Bool :=
  t.all (fun c => c.isDigit || c == '.') && t.any Char.isDigit && t.count '.' ≤ 1

def isExponent (t : Text) : Bool :=
  let digits := dropSign t
  !digits.isEmpty && digits.all Char.isDigit

/-- Whether a text is a number: an optional sign, digits with at most one point, an optional
exponent. -/
def isNumeral (t : Text) : Bool :=
  let unsigned := dropSign t
  isMantissa (unsigned.takeWhile (!isExponentMark ·)) &&
    match unsigned.dropWhile (!isExponentMark ·) with
    | [] => true
    | _ :: exponent => isExponent exponent

def escape (c : Char) : Text := if c = '\'' ∨ c = '\\' then ['\\', c] else [c]

def quote (t : Text) : Text := '\'' :: (t.flatMap escape ++ ['\''])

/-- A number stays bare, without the white space around it; any other text becomes a quoted
string. -/
def encode (t : Text) : Text := if isNumeral (trim t) then trim t else quote t

/-- Null and numbers that are not finite give no literal. Text with commas holds several values,
of which the blank ones are left out. -/
def ofCell : Cell → List Text
  | .null => []
  | .integer n => [Decimal.ofInt n.toInt]
  | .float x => if x.isFinite then [x.text] else []
  | .text s =>
    if ',' ∈ s then (((pieces ',' s).map trim).filter (!·.isEmpty)).map encode else [encode s]

/-- The literals of the first column. -/
def ofTable (table : Table) : List Text := (table.rows.filterMap Row.first).flatMap ofCell

def null : Text := ['N', 'U', 'L', 'L']

/-- The values in parentheses. With no value the list is `(NULL)`, which no `IN` matches. -/
def list (values : List Text) : Text :=
  if values.isEmpty then '(' :: (null ++ [')'])
  else '(' :: (join [',', ' '] values ++ [')'])

/-- The first value; the others are dropped. -/
def scalar (values : List Text) : Text := values.head?.getD null

end Literal

/-- What takes the place of a whole span: its keyword or operator, a space and the literal. -/
def Context.replacement (values : List Text) : Context → Text
  | .list keyword => keyword ++ ' ' :: Literal.list values
  | .scalar op => op.symbol ++ ' ' :: Literal.scalar values

end Subselect
