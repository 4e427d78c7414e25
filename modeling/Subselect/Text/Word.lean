import Subselect.Text.Basic

/-! Words are maximal runs of ASCII letters, digits and underscores. Keywords are compared
without regard to the case of ASCII letters. -/
namespace Subselect.Text

def isWordChar (c : Char) : Bool := c.isAlphanum || c == '_'

def fold (t : Text) : Text := t.map Char.toLower

/-- Equality up to the case of ASCII letters. -/
def alike (s t : Text) : Bool := fold s == fold t

@[simp] theorem alike_self (t : Text) : alike t t = true := by simp [alike]

/-- Whether a text begins with the whole word `keyword`. -/
def startsWithWord (keyword t : Text) : Bool := alike keyword (t.takeWhile isWordChar)

end Subselect.Text
