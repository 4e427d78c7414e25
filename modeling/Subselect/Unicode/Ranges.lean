import Subselect.Text.Hex

/-! Sets of characters as ranges of code points. They are written in hexadecimal: `30-39 5F` holds
the ASCII digits and the underscore. -/
namespace Subselect.Unicode

open Text

/-- The words of a table, with spaces and line ends between them. -/
def words (t : Text) : List Text :=
  (pieces ' ' (t.map fun c => if c = '\n' then ' ' else c)).filter (!·.isEmpty)

/-- Pairs of a first and a last code point, both included. -/
abbrev Ranges := List (Nat × Nat)

namespace Ranges

/-- The range that a word stands for: one code point, or two with a hyphen between them. -/
def ofWord (word : Text) : Nat × Nat :=
  let first := word.takeWhile (· != '-')
  match word.dropWhile (· != '-') with
  | [] => (hexValue first, hexValue first)
  | _ :: last => (hexValue first, hexValue last)

def ofText (t : Text) : Ranges := (words t).map ofWord

def contains (ranges : Ranges) (c : Char) : Bool :=
  ranges.any fun (first, last) => first ≤ c.toNat && c.toNat ≤ last

end Ranges
end Subselect.Unicode
