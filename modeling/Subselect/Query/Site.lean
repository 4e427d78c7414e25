import Subselect.Query.Context
import Subselect.Query.Outline

/-! The places of a query that hold a sub-select to be run on its own. A group of parentheses is
recognised when its body is a `SELECT` and the text in front of it gives a context. A pass takes
the recognised groups that hold no other one. -/
namespace Subselect

open Text

/-- A recognised sub-select. Its span runs from the keyword or operator through the closing
parenthesis, and is replaced as a whole. -/
structure Site where
  offset : Nat
  length : Nat
  context : Context
  inner : Text
  deriving DecidableEq, Repr

namespace Site

def isSelect (body : Text) : Bool :=
  startsWithWord ['S', 'E', 'L', 'E', 'C', 'T'] (trimStart body)

/-- Recognises the group with the given body behind `before`, which is given from its last
character backwards. -/
def recognise (before body : Text) : Option Site :=
  if isSelect body then
    (Context.ofBackward (before.dropWhile isBlank)).map fun context =>
      let lead := size context.head + size (before.takeWhile isBlank)
      { offset := size before - lead
        length := lead + size body + 2
        context
        inner := trim body }
  else none

end Site

namespace Outline

/-- What lies before the right neighbour of a group, backwards. -/
def past (before body : Text) : Text := ')' :: (body.reverse ++ '(' :: before)

/-- Every recognised sub-select, at any depth. -/
def recognised (before : Text) : Outline → List Site
  | nil => []
  | leaf glyph rest => rest.recognised (glyph.char :: before)
  | group body rest =>
    (Site.recognise before body.text).toList ++ body.recognised ('(' :: before) ++
      rest.recognised (past before body.text)

/-- The recognised sub-selects that hold no other one, from left to right. -/
def innermost (before : Text) : Outline → List Site
  | nil => []
  | leaf glyph rest => rest.innermost (glyph.char :: before)
  | group body rest =>
    (match body.innermost ('(' :: before) with
      | [] => (Site.recognise before body.text).toList
      | inside => inside) ++
      rest.innermost (past before body.text)

end Outline

namespace Query

/-- The sub-selects a pass over `query` runs. -/
def sites (query : Text) : List Site := (Outline.ofText query).innermost []

def recognised (query : Text) : List Site := (Outline.ofText query).recognised []

/-- Whether a query holds an `IN` or `NOT IN` sub-select at any depth. -/
def hasList (query : Text) : Bool := (recognised query).any (·.context.isList)

/-- The white space that may follow the leading keyword; a vertical tab is none. -/
def isGap (c : Char) : Bool :=
  c == ' ' || c == '\t' || c == '\n' || c == '\x0c' || c == '\r'

def isSelect (query : Text) : Bool :=
  let t := trimStart query
  alike (t.take 6) ['S', 'E', 'L', 'E', 'C', 'T'] && (t[6]?).any isGap

/-- Whether a query is worth resolving: a `SELECT` with a list sub-select. -/
def qualifies (query : Text) : Bool := isSelect query && hasList query

end Query
end Subselect
