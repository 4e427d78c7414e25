import Subselect.Unicode.Ranges

/-! Substitutions of texts for characters. A row names the characters it is for and their text:
`FB00:66.66` puts two characters in the place of one, `200B:` leaves a character out, `41-5A>61`
moves a range as a whole, and `100-12E/2>101` every second character of one. -/
namespace Subselect.Unicode

open Text

structure Substitution where
  first : Nat
  last : Nat
  /-- The distance between the characters that the row is for. -/
  step : Nat
  /-- Whether the text moves along with the character. -/
  moves : Bool
  text : Text

namespace Substitution

def textOf (word : Text) : Text :=
  if word.isEmpty then [] else (pieces '.' word).map fun code => Char.ofNat (hexValue code)

def ofWord (word : Text) : Substitution :=
  let isSign := fun c : Char => c == ':' || c == '>'
  let source := word.takeWhile (!isSign ·)
  let target := word.dropWhile (!isSign ·)
  let (first, last) := Ranges.ofWord (source.takeWhile (· != '/'))
  { first, last
    step := if source.contains '/' then 2 else 1
    moves := target.head? == some '>'
    text := textOf (target.drop 1) }

/-- The text in the place of a character, if the row is for it. -/
def textFor? (row : Substitution) (c : Char) : Option Text :=
  let distance := c.toNat - row.first
  if row.first ≤ c.toNat ∧ c.toNat ≤ row.last ∧ distance % row.step = 0 then
    some (if row.moves then row.text.map fun d => Char.ofNat (d.toNat + distance) else row.text)
  else none

end Substitution

abbrev Substitutions := List Substitution

namespace Substitutions

def ofText (t : Text) : Substitutions := (words t).map Substitution.ofWord

/-- What the first row for a character makes of it. -/
def find? (rows : Substitutions) (c : Char) : Option Text := rows.findSome? (·.textFor? c)

end Substitutions
end Subselect.Unicode
