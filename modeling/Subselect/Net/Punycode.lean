import Subselect.Text.Basic

/-! Punycode: texts written in ASCII letters, digits and hyphens. The ASCII characters come first.
Behind the last hyphen, numbers tell how far to count over all places and code points up to the
next character that is put in. A number has its lowest digit first, and the digit that ends it is
below a threshold that adapts to the numbers read so far. -/
namespace Subselect.Net.Punycode

def base : Nat := 36

/-- Longer texts are not encoded, and longer codes not decoded: the work grows with the square of
the length. -/
def longestText : Nat := 1000
def longestCode : Nat := 2000

/-- Numbers stay below this one. -/
def limit : Nat := 4294967296

/-- The first code point that is not ASCII. -/
def firstCode : Nat := 128

def firstBias : Nat := 72

def digit? (c : Char) : Option Nat :=
  if 'a' ≤ c ∧ c ≤ 'z' then some (c.toNat - 'a'.toNat)
  else if 'A' ≤ c ∧ c ≤ 'Z' then some (c.toNat - 'A'.toNat)
  else if c.isDigit then some (c.toNat - '0'.toNat + 26)
  else none

def digitChar (n : Nat) : Char :=
  if n < 26 then Char.ofNat ('a'.toNat + n) else Char.ofNat ('0'.toNat + (n - 26))

/-- The threshold of the digit at a place, which counts in steps of the base. -/
def threshold (bias place : Nat) : Nat :=
  if place ≤ bias then 1 else if bias + 26 ≤ place then 26 else place - bias

theorem threshold_pos (bias place : Nat) : 0 < threshold bias place := by
  grind [threshold]

/-- Makes a number small, and counts the places of the digits that it loses. -/
def scale (places n : Nat) : Nat :=
  if n ≤ 455 then places + base * n / (n + 38) else scale (places + base) (n / 35)
termination_by n
decreasing_by exact Nat.div_lt_self (by omega) (by omega)

/-- The bias behind a number, when `count` characters are there. -/
def adapt (isFirst : Bool) (count n : Nat) : Nat :=
  let n := if isFirst then n / 700 else n / 2
  scale 0 (n + n / count)

/-! Decoding. -/

structure Decoder where
  text : Text
  code : Nat
  /-- Where the next character goes, and where the last number began to count. -/
  index : Nat
  start : Nat
  bias : Nat
  weight : Nat
  place : Nat

namespace Decoder

/-- Ready for the first number behind the ASCII characters. -/
def initial (ascii : Text) : Decoder := ⟨ascii, firstCode, 0, 0, firstBias, 1, base⟩

/-- Puts in the character that a number leads to. -/
def insert? (d : Decoder) : Option Decoder :=
  let count := d.text.length + 1
  let code := d.code + d.index / count
  let index := d.index % count
  if code.isValidChar then
    some { d with
      text := d.text.take index ++ Char.ofNat code :: d.text.drop index
      code
      index := index + 1
      start := index + 1
      bias := adapt (d.start == 0) count (d.index - d.start)
      weight := 1
      place := base }
  else none

def step? (d : Decoder) (c : Char) : Option Decoder := do
  let digit ← digit? c
  let d := { d with index := d.index + digit * d.weight }
  let least := threshold d.bias d.place
  if d.index ≥ limit then none
  else if digit < least then d.insert?
  else
    let weight := d.weight * (base - least)
    if weight ≥ limit then none else some { d with weight, place := d.place + base }

end Decoder

/-- The ASCII characters of a code and what follows them. A hyphen at the start does not part
them. -/
def parts (code : Text) : Text × Text :=
  match code.reverse.dropWhile (· != '-') with
  | _ :: c :: ascii => ((c :: ascii).reverse, (code.reverse.takeWhile (· != '-')).reverse)
  | _ => ([], code)

def decode? (code : Text) : Option Text := do
  let (ascii, numbers) := parts code
  let d ← numbers.foldlM Decoder.step? (.initial ascii)
  if d.place = base then some d.text else none

/-! Encoding. -/

/-- The digits of a number from a place on. -/
def digits (bias place n : Nat) : Text :=
  let least := threshold bias place
  if n < least then [digitChar n]
  else digitChar (least + (n - least) % (base - least)) ::
    digits bias (place + base) ((n - least) / (base - least))
termination_by n
decreasing_by
  have := threshold_pos bias place
  exact Nat.lt_of_le_of_lt (Nat.div_le_self _ _) (by omega)

structure Encoder where
  text : Text
  /-- The number to be written next. -/
  count : Nat
  bias : Nat
  /-- How many characters are there, and how many of them were from the start. -/
  present : Nat
  ascii : Nat

namespace Encoder

/-- Counts over a place, or writes a number where a character is to be put in. -/
def visit (code : Nat) (e : Encoder) (c : Char) : Encoder :=
  if c.toNat < code then { e with count := e.count + 1 }
  else if c.toNat = code then
    { e with
      text := e.text ++ digits e.bias base e.count
      count := 0
      bias := adapt (e.present == e.ascii) (e.present + 1) e.count
      present := e.present + 1 }
  else e

/-- Writes the places of the given code points, which ascend and start at `first` or later. -/
def write (t : Text) : (first : Nat) → List Nat → Encoder → Encoder
  | _, [], e => e
  | first, code :: more, e =>
    let e := { e with count := e.count + (code - first) * (e.present + 1) }
    let e := t.foldl (visit code) e
    write t (code + 1) more { e with count := e.count + 1 }

end Encoder

def isAscii (c : Char) : Bool := c.toNat < firstCode

def encode (t : Text) : Text :=
  let ascii := t.filter isAscii
  let codes := (((t.filter (!isAscii ·)).map Char.toNat).mergeSort).eraseDups
  let start := ⟨if ascii.isEmpty then [] else ascii ++ ['-'], 0, firstBias, ascii.length,
    ascii.length⟩
  (Encoder.write t firstCode codes start).text

end Subselect.Net.Punycode
