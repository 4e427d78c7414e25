import Subselect.Decimal.Binary64

/-! Reading a double from text: digits with an optional point and exponent, or the name of a value
that is not finite. -/
namespace Subselect.Binary64

open Decimal

def isNamed (name : String) (t : Text) : Bool := t.map Char.toLower == name.toList

/-- The exponent behind a number, which may be left out. -/
def readExponent : Text → Option Int
  | [] => some 0
  | e :: t =>
    if e ≠ 'e' ∧ e ≠ 'E' then none
    else
      let (negative, digits) := match t with
        | '-' :: t => (true, t)
        | '+' :: t => (false, t)
        | t => (false, t)
      if digits.isEmpty || !digits.all Char.isDigit then none
      else some (if negative then -(value 0 digits : Int) else value 0 digits)

def readMagnitude (negative : Bool) (t : Text) : Option Binary64 :=
  if isNamed "nan" t then some nan
  else if isNamed "inf" t || isNamed "infinity" t then some (infinite negative)
  else
    let whole := t.takeWhile Char.isDigit
    let rest := t.dropWhile Char.isDigit
    let (places, rest) := match rest with
      | '.' :: t => (t.takeWhile Char.isDigit, t.dropWhile Char.isDigit)
      | t => ([], t)
    if whole.isEmpty && places.isEmpty then none
    else (readExponent rest).map fun exponent =>
      ofDecimal negative (value (value 0 whole) places) (exponent - places.length)

/-- The double nearest to what a text says. -/
def parse? : Text → Option Binary64
  | '-' :: t => readMagnitude true t
  | '+' :: t => readMagnitude false t
  | t => readMagnitude false t

end Subselect.Binary64
