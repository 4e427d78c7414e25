import Subselect.Decimal.Binary64

/-! The shortest decimal digits that read back as a given double. For each number of digits the
two neighbours of the exact value are tried; of two that read back the nearer is taken. -/
namespace Subselect.Decimal

/-- Which neighbour is taken when both are equally near. -/
inductive Tie where
  | even
  | up
  deriving DecidableEq, Repr

/-- `digits * 10 ^ exponent`. -/
structure Magnitude where
  digits : Nat
  exponent : Int
  deriving DecidableEq, Repr

namespace Magnitude

/-- Without trailing zeros in the digits. -/
def reduce (m : Magnitude) : Magnitude := go (Decimal.ofNat m.digits).length m
where
  go : Nat → Magnitude → Magnitude
    | 0, m => m
    | fuel + 1, m =>
      if m.digits ≠ 0 ∧ m.digits % 10 = 0 then go fuel ⟨m.digits / 10, m.exponent + 1⟩ else m

/-- The exponent of the first digit. -/
def leading (m : Magnitude) : Int := m.exponent + (Decimal.ofNat m.digits).length - 1

def readsAs (m : Magnitude) (x : Binary64) : Bool := Binary64.ofDecimal false m.digits m.exponent == x

end Magnitude

/-- The multiple of `10 ^ drop` nearest to `exact` among those that read back as `x`. -/
def nearest (tie : Tie) (x : Binary64) (exact : Magnitude) (drop : Nat) : Option Magnitude :=
  let unit := Nat.pow 10 drop
  let exponent := exact.exponent + drop
  let low : Magnitude := ⟨exact.digits / unit, exponent⟩
  let high : Magnitude := ⟨exact.digits / unit + 1, exponent⟩
  let twice := 2 * (exact.digits % unit)
  let lowFirst := twice < unit || (twice == unit && tie == .even && low.digits % 2 == 0)
  let (first, second) := if lowFirst then (low, high) else (high, low)
  if first.readsAs x then some first else if second.readsAs x then some second else none

/-- The shortest digits of a finite magnitude; its exact ones if none of 17 digits read back. -/
def shortest (tie : Tie) (significand scale : Nat) : Magnitude :=
  let x := Binary64.finite false significand scale
  let (digits, places) := Binary64.exactDecimal significand scale
  let exact : Magnitude := ⟨digits, -places⟩
  let length := (ofNat digits).length
  let found := (List.range 17).findSome? fun i =>
    if i + 1 < length then nearest tie x exact (length - (i + 1)) else some exact
  (found.getD exact).reduce

end Subselect.Decimal
