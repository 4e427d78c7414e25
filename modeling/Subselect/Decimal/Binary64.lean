import Subselect.Decimal.Basic

/-! Double precision numbers as exact multiples of a power of two, and the rounding of a decimal
number to the nearest one, ties to the even significand. -/
namespace Subselect

/-- A finite number is `significand * 2 ^ scale` in units of `2 ^ -1074`. The significand is below
`2 ^ 53`, and at least `2 ^ 52` unless the scale is zero. -/
inductive Binary64 where
  | finite (negative : Bool) (significand scale : Nat)
  | infinite (negative : Bool)
  | nan
  deriving DecidableEq, Repr

namespace Binary64

/-- The unit is `2 ^ -unitPlaces`. -/
def unitPlaces : Nat := 1074

def greatestScale : Nat := 2045

/-- `2 ^ 53`. -/
def significandLimit : Nat := 9007199254740992

def zero (negative : Bool) : Binary64 := finite negative 0 0

def isFinite : Binary64 → Bool
  | finite .. => true
  | _ => false

/-- The whole number nearest to a quotient, ties to even. -/
def roundQuotient (numerator denominator : Nat) : Nat :=
  let low := numerator / denominator
  let twice := 2 * (numerator % denominator)
  if twice < denominator then low
  else if denominator < twice then low + 1
  else if low % 2 = 0 then low else low + 1

/-- The least scale that leaves a quotient 53 binary digits before the point, if it has as many. -/
def scaleOf (numerator denominator : Nat) : Nat := Nat.log2 (numerator / denominator) - 52

/-- The double nearest to a quotient of units. -/
def ofUnits (negative : Bool) (numerator denominator : Nat) : Binary64 :=
  let scale := scaleOf numerator denominator
  let rounded := roundQuotient numerator (denominator * Nat.pow 2 scale)
  let (significand, scale) := 
    if rounded = significandLimit then (significandLimit / 2, scale + 1) else (rounded, scale)
  if scale > greatestScale then infinite negative else finite negative significand scale

/-- The double nearest to a quotient. -/
def ofQuotient (negative : Bool) (numerator denominator : Nat) : Binary64 :=
  ofUnits negative (numerator * Nat.pow 2 unitPlaces) denominator

/-- The double nearest to `significand * 10 ^ exponent`. Where the first digit stands more than 310
places before the point or 330 behind it, the answer is infinite, or zero, whatever the digits. -/
def ofDecimal (negative : Bool) (significand : Nat) (exponent : Int) : Binary64 :=
  if significand = 0 then zero negative
  else
    let places := exponent + (Decimal.ofNat significand).length
    if places > 310 then infinite negative
    else if places < -330 then zero negative
    else
      match exponent with
      | .ofNat e => ofQuotient negative (significand * Nat.pow 10 e) 1
      | .negSucc e => ofQuotient negative significand (Nat.pow 10 (e + 1))

/-- The exact value of a finite magnitude: decimal digits, and how many of them are behind the
point. -/
def exactDecimal (significand scale : Nat) : Nat × Nat :=
  if unitPlaces ≤ scale then (significand * Nat.pow 2 (scale - unitPlaces), 0)
  else (significand * Nat.pow 5 (unitPlaces - scale), unitPlaces - scale)

end Binary64
end Subselect
