import Subselect.Decimal.Binary64

/-! Reading a decimal number quickly: the digits that fit a word, as a double, times a power of ten
or over one. The digits, the power and the result are each rounded, so the answer may be a neighbour
of the nearest double, and infinite where that one is not. -/
namespace Subselect

/-- Reads digits behind the value `n` as long as the value fits a word. Gives the digits that are
left, too. -/
def Decimal.takeWord (n : Nat) : Text → Nat × Text
  | [] => (n, [])
  | c :: t =>
    let n' := 10 * n + (c.toNat - '0'.toNat)
    if n' < wordLimit then takeWord n' t else (n, c :: t)

namespace Binary64

/-- The same magnitude with another sign. -/
def withSign (negative : Bool) : Binary64 → Binary64
  | finite _ significand scale => finite negative significand scale
  | infinite _ => infinite negative
  | nan => nan

/-- The magnitude of a finite number in units. -/
def units : Binary64 → Nat
  | finite _ significand scale => significand * Nat.pow 2 scale
  | _ => 0

/-- The product of finite magnitudes, rounded. -/
def product (x y : Binary64) : Binary64 :=
  ofUnits false (x.units * y.units) (Nat.pow 2 unitPlaces)

/-- The quotient of finite magnitudes, rounded. -/
def quotient (x y : Binary64) : Binary64 :=
  ofUnits false (x.units * Nat.pow 2 unitPlaces) y.units

/-- The exponent of the greatest power of ten that is not out of range. -/
def greatestPower : Nat := 308

/-- A power of ten, rounded. -/
def powerOfTen (e : Nat) : Binary64 := ofDecimal false 1 e

def timesPower (x : Binary64) (e : Nat) : Binary64 :=
  if e ≤ greatestPower then product x (powerOfTen e)
  else if x.units = 0 then x
  else infinite false

/-- A power beyond the greatest is divided by in steps, until nothing is left. -/
def overPower (x : Binary64) (e : Nat) : Binary64 := go (e / greatestPower) x e
where
  /-- Each step takes the greatest power off, so `fuel` bounds the steps. -/
  go : Nat → Binary64 → Nat → Binary64
    | 0, x, e => quotient x (powerOfTen e)
    | fuel + 1, x, e =>
      if e ≤ greatestPower then quotient x (powerOfTen e)
      else if x.units = 0 then x
      else go fuel (quotient x (powerOfTen greatestPower)) (e - greatestPower)

/-- The double that `word * 10 ^ exponent` is read as. -/
def ofWord (negative : Bool) (word : Nat) (exponent : Int) : Binary64 :=
  let x := ofQuotient false word 1
  match exponent with
  | .ofNat e => (x.timesPower e).withSign negative
  | .negSucc e => (x.overPower (e + 1)).withSign negative

/-- The double that digits around a point, and an exponent, are read as. Digits that do not fit a
word count for their places; those behind the point may fit again. -/
def ofDigits (negative : Bool) (digits places : Text) (exponent : Int) : Binary64 :=
  let (front, passed) := Decimal.takeWord 0 digits
  let (word, left) := Decimal.takeWord front places
  ofWord negative word (exponent + passed.length + left.length - places.length)

end Binary64
end Subselect
