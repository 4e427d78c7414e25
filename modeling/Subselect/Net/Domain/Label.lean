import Subselect.Net.Domain.Mapping
import Subselect.Net.Punycode
import Subselect.Unicode.Direction
import Subselect.Unicode.Joining

/-! The labels between the dots of a domain name. A label that is not ASCII is written in Punycode
behind `xn--`, and such a label has to stand for one that could not be written otherwise. -/
namespace Subselect.Net.Domain

open Unicode

/-- ASCII characters that no name holds. -/
def isForbidden (c : Char) : Bool :=
  c.toNat ≤ 0x20 || c.toNat == 0x7F || "#/:<>?@[\\]^|%".toList.contains c

namespace Label

def encodedPrefix : Text := "xn--".toList

def isEncoded (label : Text) : Bool := label.take 4 == encodedPrefix

def isAscii (label : Text) : Bool := label.all Punycode.isAscii

/-! Joiners. -/

def nonJoiner : Char := '\u200c'
def joiner : Char := '\u200d'

/-- Whether letters that would join stand on both sides, marks passed over. `before` is given from
its last character backwards. -/
def isBetweenJoining (before after : Text) : Bool :=
  let beyondMarks := fun t : Text => (t.dropWhile (Joining.of · == .transparent)).head?
  (beyondMarks before).any (fun c => Joining.of c == .left || Joining.of c == .dual) &&
    (beyondMarks after).any fun c => Joining.of c == .right || Joining.of c == .dual

/-- A joiner or non-joiner has to follow a virama; a non-joiner may also keep apart letters that
would join. -/
def joinersFit (before : Text) : Text → Bool
  | [] => true
  | c :: t =>
    let fits :=
      if c = joiner then before.head?.any isVirama
      else if c = nonJoiner then before.head?.any isVirama || isBetweenJoining before t
      else true
    fits && joinersFit (c :: before) t

/-- Whether a label could stand in a name as it is. -/
def isValid (label : Text) : Bool :=
  !label.head?.any isMark && joinersFit [] label && !label.any isForbidden &&
    (isAscii label || label.length ≤ Punycode.longestText)

/-- The label that a mapped label stands for. -/
def read? (label : Text) : Option Text :=
  if isEncoded label then do
    let code := label.drop 4
    if !isAscii label || code.length > Punycode.longestCode then none
    let decoded ← Punycode.decode? code
    if isAscii decoded || isEncoded decoded || mapped? decoded != some decoded then none
    if isValid decoded then some decoded else none
  else if isValid label then some label
  else none

/-- How a label is written in ASCII. -/
def write (label : Text) : Text :=
  if isAscii label then label else encodedPrefix ++ Punycode.encode label

/-! Directions. -/

def isRightToLeft (c : Char) : Bool :=
  !Punycode.isAscii c && (Direction.of c == .rightToLeft || Direction.of c == .arabicNumber)

/-- The direction of the last character that is no mark. -/
def lastDirection (label : Text) : Direction :=
  (((label.map Direction.of).reverse.dropWhile (· == .mark)).head?).getD .mark

/-- Beside names written from right to left, a label keeps to the direction that it starts in: no
letter runs against it, and the label ends in a letter or a number. Numbers of both kinds do not
stand in one label. -/
def keepsDirection (label : Text) : Bool :=
  let directions := label.map Direction.of
  match directions.head? with
  | none => true
  | some .leftToRight =>
    !(directions.contains .rightToLeft || directions.contains .arabicNumber) &&
      (lastDirection label == .leftToRight || lastDirection label == .europeanNumber)
  | some .rightToLeft =>
    !directions.contains .leftToRight &&
      !(directions.contains .europeanNumber && directions.contains .arabicNumber) &&
      (lastDirection label == .rightToLeft || lastDirection label == .europeanNumber ||
        lastDirection label == .arabicNumber)
  | some _ => false

end Label
end Subselect.Net.Domain
