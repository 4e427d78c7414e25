import Subselect.Text.Basic

/-! Whole numbers written in decimal digits. -/
namespace Subselect.Decimal

/-- Numbers below this one fit a word of 64 bits. -/
def wordLimit : Nat := 18446744073709551616

/-- Numbers below this one fit a signed word. -/
def signedLimit : Nat := 9223372036854775808

def ofNat (n : Nat) : Text := Nat.toDigits 10 n

def ofInt : Int → Text
  | .ofNat n => ofNat n
  | .negSucc n => '-' :: ofNat (n + 1)

def digit? (c : Char) : Option Nat := if c.isDigit then some (c.toNat - '0'.toNat) else none

/-- The value of a run of digits read from left to right behind the value `n`. -/
def value (n : Nat) : Text → Nat
  | [] => n
  | c :: t => value (10 * n + (c.toNat - '0'.toNat)) t

end Subselect.Decimal
