import Subselect.Decimal.Shortest

/-! The written forms of a double. A layout says where numbers are positional, whether a whole
number keeps a zero behind its point, and how ties between digits are settled. -/
namespace Subselect.Decimal

structure Layout where
  /-- Whether a number whose first digit stands for `10 ^ e` is written without an exponent. -/
  positional : Int → Bool
  pointZero : Bool
  tie : Tie

namespace Layout

/-- Never an exponent, no `.0`, a half goes up: the form of values put into a query. -/
def plain : Layout := ⟨fun _ => true, false, .up⟩

/-- Positional from `10 ^ -5` to below `10 ^ 16` with at least `.0`, a half goes to the even
digit: the form of numbers in JSON text. -/
def json : Layout := ⟨fun e => -5 ≤ e && e < 16, true, .even⟩

def zeros (n : Nat) : Text := List.replicate n '0'

def positionalText (layout : Layout) (m : Magnitude) : Text :=
  let digits := ofNat m.digits
  match m.exponent with
  | .ofNat e => digits ++ zeros e ++ (if layout.pointZero then ['.', '0'] else [])
  | .negSucc e =>
    let places := e + 1
    if places < digits.length then
      digits.take (digits.length - places) ++ '.' :: digits.drop (digits.length - places)
    else '0' :: '.' :: (zeros (places - digits.length) ++ digits)

def scientificText (m : Magnitude) : Text :=
  let exponent := m.leading
  let sign := if exponent < 0 then '-' else '+'
  let fraction :=
    match (ofNat m.digits).tail with
    | [] => []
    | more => '.' :: more
  (ofNat m.digits).take 1 ++ fraction ++ 'e' :: sign :: ofNat exponent.natAbs

def magnitudeText (layout : Layout) (significand scale : Nat) : Text :=
  if significand = 0 then '0' :: (if layout.pointZero then ['.', '0'] else [])
  else
    let m := shortest layout.tie significand scale
    if layout.positional m.leading then layout.positionalText m else scientificText m

/-- A finite number in this layout; the sign of zero is kept. -/
def finiteText (layout : Layout) (negative : Bool) (significand scale : Nat) : Text :=
  (if negative then ['-'] else []) ++ layout.magnitudeText significand scale

end Layout
end Subselect.Decimal

namespace Subselect.Binary64

/-- The text of a number that has no exponent, also outside the finite numbers. -/
def text : Binary64 → Text
  | finite negative significand scale =>
    Decimal.Layout.plain.finiteText negative significand scale
  | infinite negative => (if negative then ['-'] else []) ++ ['i', 'n', 'f']
  | nan => ['N', 'a', 'N']

end Subselect.Binary64
