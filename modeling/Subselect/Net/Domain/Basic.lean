import Subselect.Net.Domain.Label

/-! Domain names: labels with dots between them, in any script, and the ASCII form under which a
name is looked up. -/
namespace Subselect.Net.Domain

open Text

/-- The labels that a name stands for. Where one of them is written from right to left, all have
to keep to a direction. -/
def labels? (name : Text) : Option (List Text) := do
  let labels ← (pieces '.' (← mapped? name)).mapM Label.read?
  if labels.any (·.any Label.isRightToLeft) && !labels.all Label.keepsDirection then none
  else some labels

/-- The ASCII form of a name. -/
def toAscii? (name : Text) : Option Text :=
  (labels? name).map fun labels => join ['.'] (labels.map Label.write)

end Subselect.Net.Domain
