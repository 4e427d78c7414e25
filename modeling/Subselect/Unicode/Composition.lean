import Subselect.Unicode.CombiningClass
import Subselect.Unicode.Decomposition

/-! Canonical composition. A text is decomposed, its marks are put in order, and then each
character takes in what it can be composed with. Texts that mean the same have one composed form. -/
namespace Subselect.Unicode

namespace Composition

/-- Characters that stand for a sequence but are never composed. -/
def excluded : Ranges := Ranges.ofText
  "344 958-95F 9DC-9DD 9DF A33 A36 A59-A5B A5E B5C-B5D F43 F4D F52 F57 F5C F69 F73
   F75-F76 F78 F81 F93 F9D FA2 FA7 FAC FB9 1F71 1F73 1F75 1F77 1F79 1F7B 1F7D 1FBB
   1FC9 1FCB 1FD3 1FDB 1FE3 1FEB 1FEE 1FF9 1FFB 212B 2ADC FB1D FB1F FB2A-FB36
   FB38-FB3C FB3E FB40-FB41 FB43-FB44 FB46-FB4E 1D15E-1D164 1D1BB-1D1C0".toList

def rows : List (Text × Char) :=
  Decomposition.rows.filterMap fun row =>
    let c := Char.ofNat row.first
    if row.text.length < 2 || excluded.contains c then none else some (row.text, c)

/-- The character whose decomposition is the given text. None ends in a character before the first
mark. -/
def compose? (decomposed : Text) : Option Char :=
  if decomposed.getLast?.all (·.toNat < firstMark) then none
  else (Hangul.compose? decomposed).orElse fun _ => (rows.find? (·.1 == decomposed)).map (·.2)

/-- Puts a character in front of marks in order; it passes those of lower classes than its own. -/
def insert (c : Char) : Text → Text
  | [] => [c]
  | d :: t =>
    if 0 < combiningClass d && combiningClass d < combiningClass c then d :: insert c t
    else c :: d :: t

def order (t : Text) : Text := t.foldr insert []

/-- A base in decomposed form as one character. -/
def whole (base : Text) : Text :=
  match compose? base with
  | some c => [c]
  | none => base

/-- Composes an ordered text behind a base in decomposed form and the marks that it did not take
in, the last one first. A mark of the same class or a higher one keeps a character from the base. -/
def join (base marks : Text) : Text → Text
  | [] => whole base ++ marks.reverse
  | c :: t =>
    let isFree := marks.head?.all fun mark => combiningClass mark < combiningClass c
    if isFree && (compose? (base ++ [c])).isSome then join (base ++ [c]) marks t
    else if combiningClass c = 0 then whole base ++ marks.reverse ++ join [c] [] t
    else join base (c :: marks) t

end Composition

def compose (t : Text) : Text :=
  Composition.join [] [] (Composition.order (t.flatMap decompose))

end Subselect.Unicode
