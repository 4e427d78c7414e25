import Subselect.Text.Basic

/-! Long text cut down for log lines. -/
namespace Subselect.Text

/-- The first `most` characters, with three dots where more follow. -/
def preview (most : Nat) (t : Text) : Text :=
  if t.length ≤ most then t else t.take most ++ ['.', '.', '.']

/-- Whether a preview leaves anything out. -/
def isCut (most : Nat) (t : Text) : Bool := most < t.length

end Subselect.Text
