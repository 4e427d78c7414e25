import Subselect.Text.Blank
import Subselect.Text.Word

/-! How the text in front of a parenthesis uses the rows of the sub-select inside: as a list
after `IN` or `NOT IN`, or as one value after a comparison. -/
namespace Subselect

open Text

inductive Comparison where
  | equal
  | notEqual
  | lessGreater
  | lessEqual
  | greaterEqual
  | less
  | greater
  deriving DecidableEq, Repr

namespace Comparison

def symbol : Comparison → Text
  | equal => ['=']
  | notEqual => ['!', '=']
  | lessGreater => ['<', '>']
  | lessEqual => ['<', '=']
  | greaterEqual => ['>', '=']
  | less => ['<']
  | greater => ['>']

/-- The longest operator that ends a text, given its characters from the last one backwards. -/
def ofBackward : Text → Option Comparison
  | '=' :: '!' :: _ => some notEqual
  | '>' :: '<' :: _ => some lessGreater
  | '=' :: '<' :: _ => some lessEqual
  | '=' :: '>' :: _ => some greaterEqual
  | '=' :: _ => some equal
  | '<' :: _ => some less
  | '>' :: _ => some greater
  | _ => none

end Comparison

/-- A list context holds its keyword as the query spells it. -/
inductive Context where
  | list (keyword : Text)
  | scalar (op : Comparison)
  deriving DecidableEq, Repr

namespace Context

def head : Context → Text
  | list keyword => keyword
  | scalar op => op.symbol

def isList : Context → Bool
  | list _ => true
  | scalar _ => false

/-- `IN` standing as a word of its own, with a `NOT` in front of it where there is one. -/
def keywordBackward (before : Text) : Option Text :=
  let word := before.takeWhile isWordChar
  let beforeWord := before.dropWhile isWordChar
  if alike word ['N', 'I'] then
    let gap := beforeWord.takeWhile isBlank
    let negation := (beforeWord.dropWhile isBlank).takeWhile isWordChar
    if !gap.isEmpty && alike negation ['T', 'O', 'N'] then
      some (word ++ gap ++ negation).reverse
    else some word.reverse
  else none

/-- The context that ends a text, given its characters from the last one backwards. -/
def ofBackward (before : Text) : Option Context :=
  match keywordBackward before with
  | some keyword => some (list keyword)
  | none => (Comparison.ofBackward before).map scalar

end Context
end Subselect
