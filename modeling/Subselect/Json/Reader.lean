import Subselect.Decimal.Quick
import Subselect.Json.Fault
import Subselect.Json.Value
import Subselect.Text.Hex

/-! Reading JSON text. Every reader returns its value with the text that follows, or the first
fault. At most 127 arrays and objects may be nested. -/
namespace Subselect.Json

abbrev Reads (α : Type) := Except Fault (α × Text)

/-- The white space between the tokens of JSON text. -/
def isSpace (c : Char) : Bool := c == ' ' || c == '\n' || c == '\t' || c == '\r'

def skipSpace (t : Text) : Text := t.dropWhile isSpace

/-- The remaining letters of `true`, `false` or `null`. -/
def readIdent (value : Json) : Text → Text → Reads Json
  | [], t => .ok (value, t)
  | _ :: _, [] => .error ⟨.endInValue, 0⟩
  | expected :: letters, c :: t =>
    if c = expected then readIdent value letters t else .error (.on .expectedIdent (c :: t))

/-! Numbers. -/

def takeDigits (t : Text) : Text × Text := (t.takeWhile Char.isDigit, t.dropWhile Char.isDigit)

/-- The digits in front of the point; a zero stands alone. -/
def readWhole : Text → Reads Text
  | [] => .error ⟨.endInValue, 0⟩
  | c :: t =>
    if c = '0' then
      match t with
      | d :: _ => if d.isDigit then .error (.on .invalidNumber t) else .ok ([c], t)
      | [] => .ok ([c], t)
    else if c.isDigit then .ok (takeDigits (c :: t))
    else .error (.on .invalidNumber (c :: t))

/-- The digits behind the point, if there is one. -/
def readFraction : Text → Reads (Option Text)
  | '.' :: t =>
    match takeDigits t with
    | ([], []) => .error ⟨.endInValue, 0⟩
    | ([], t) => .error (.on .invalidNumber t)
    | (digits, t) => .ok (some digits, t)
  | t => .ok (none, t)

/-- The greatest exponent that is read as a number. -/
def greatestExponent : Nat := 2147483647

/-- Reads digits up to the one that takes the value past the greatest exponent, and tells whether
there was one. -/
def readExponentDigits (n : Nat) : Text → (Nat × Bool) × Text
  | [] => ((n, false), [])
  | c :: t =>
    if c.isDigit then
      let n' := 10 * n + (c.toNat - '0'.toNat)
      if n' > greatestExponent then ((n', true), t) else readExponentDigits n' t
    else ((n, false), c :: t)

/-- The exponent, if there is one. A positive one that is too great is out of range at once,
unless the number is zero; the digits of a negative one are passed over. -/
def readExponent (isZero : Bool) : Text → Reads (Option Int)
  | [] => .ok (none, [])
  | e :: t =>
    if e = 'e' ∨ e = 'E' then
      let (negative, t) := match t with
        | '+' :: t => (false, t)
        | '-' :: t => (true, t)
        | t => (false, t)
      match t with
      | [] => .error ⟨.endInValue, 0⟩
      | c :: more =>
        if c.isDigit then
          match readExponentDigits 0 (c :: more) with
          | ((n, true), t) =>
            if !negative && !isZero then .error (.before .numberOutOfRange t)
            else .ok (some (if negative then -n else 0), (takeDigits t).2)
          | ((n, false), t) => .ok (some (if negative then -n else n), t)
        else .error (.on .invalidNumber t)
    else .ok (none, e :: t)

/-- A double that is not out of range. -/
def inRange? : Binary64 → Option Json
  | .infinite _ => none
  | x => some (.double x)

/-- A number without point and exponent that fits 64 bits, with a sign or without, is whole; any
other, and `-0`, is a double. -/
def number (negative : Bool) (digits : Text) (fraction : Option Text) (exponent : Option Int) :
    Option Json :=
  let n := Decimal.value 0 digits
  let isWhole := fraction.isNone && exponent.isNone &&
    (if negative then n != 0 && n ≤ Decimal.signedLimit else n < Decimal.wordLimit)
  if isWhole then some (.whole (if negative then -n else n))
  else inRange? (Binary64.ofDigits negative digits (fraction.getD []) (exponent.getD 0))

def readNumber (negative : Bool) (t : Text) : Except Fault (Json × Text) := do
  let (digits, t) ← readWhole t
  let (fraction, t) ← readFraction t
  let isZero := (digits ++ fraction.getD []).all (· == '0')
  let (exponent, t) ← readExponent isZero t
  match number negative digits fraction exponent with
  | some value => pure (value, t)
  | none => throw (.before .numberOutOfRange t)

/-! Strings. -/

/-- The next four octets as a hexadecimal number. -/
def readHex (t : Text) : Reads Nat :=
  let bad : Fault := if Text.size t < 4 then ⟨.endInString, 0⟩ else ⟨.invalidEscape, Text.size t - 4⟩
  match t with
  | a :: b :: c :: d :: rest =>
    match Text.hexDigit? a, Text.hexDigit? b, Text.hexDigit? c, Text.hexDigit? d with
    | some a, some b, some c, some d => .ok (((a * 16 + b) * 16 + c) * 16 + d, rest)
    | _, _, _, _ => .error bad
  | _ => .error bad

def isHighSurrogate (n : Nat) : Bool := 0xD800 ≤ n && n ≤ 0xDBFF
def isLowSurrogate (n : Nat) : Bool := 0xDC00 ≤ n && n ≤ 0xDFFF

/-- One character that an escape of the second half of a pair has to start with. -/
def expectInPair (expected : Char) : Text → Reads Unit
  | [] => .error ⟨.endInString, 0⟩
  | c :: t => if c = expected then .ok ((), t) else .error (.on .endOfHexEscape (c :: t))

/-- The character behind `\u`; one outside the basic plane is written as a pair of surrogates. -/
def readUnicode (t : Text) : Except Fault (Char × Text) := do
  let (high, t) ← readHex t
  if isLowSurrogate high then throw (.before .loneSurrogate t)
  else if isHighSurrogate high then
    let (_, t) ← expectInPair '\\' t
    let (_, t) ← expectInPair 'u' t
    let (low, t) ← readHex t
    if isLowSurrogate low then
      pure (Char.ofNat (0x10000 + (high - 0xD800) * 0x400 + (low - 0xDC00)), t)
    else throw (.before .loneSurrogate t)
  else pure (Char.ofNat high, t)

/-- The character behind a backslash. -/
def readEscape : Text → Reads Char
  | [] => .error ⟨.endInString, 0⟩
  | c :: t =>
    if c = '"' ∨ c = '\\' ∨ c = '/' then .ok (c, t)
    else if c = 'b' then .ok ('\x08', t)
    else if c = 'f' then .ok ('\x0c', t)
    else if c = 'n' then .ok ('\n', t)
    else if c = 'r' then .ok ('\r', t)
    else if c = 't' then .ok ('\t', t)
    else if c = 'u' then readUnicode t
    else .error (.on .invalidEscape (c :: t))

/-- The next character of a string, or none at its closing quote. -/
def readStringChar : Text → Reads (Option Char)
  | [] => .error ⟨.endInString, 0⟩
  | c :: t =>
    if c = '"' then .ok (none, t)
    else if c = '\\' then (readEscape t).map fun (c, t) => (some c, t)
    else if c.toNat < 0x20 then .error (.on .controlCharacter (c :: t))
    else .ok (some c, t)

/-- The content of a string whose opening quote is read. -/
def readString (t : Text) : Reads Text := go t.length t
where
  /-- Each character of the content takes one of the text, so `fuel` bounds what is left. -/
  go : Nat → Text → Reads Text
    | 0, _ => .error ⟨.endInString, 0⟩
    | fuel + 1, t =>
      match readStringChar t with
      | .error fault => .error fault
      | .ok (none, t) => .ok ([], t)
      | .ok (some c, t) => (go fuel t).map fun (s, t) => (c :: s, t)

/-! Arrays and objects. -/

/-- The items up to `close`, parted by commas; the first one is at hand. -/
def readSequence (close : Char) (atEnd other : Cause) (item : Text → Reads α) (t : Text) :
    Reads (List α) :=
  go t.length t
where
  /-- Each item takes a character of the text or more, so `fuel` bounds the items left. -/
  go : Nat → Text → Reads (List α)
    | 0, _ => .error ⟨atEnd, 0⟩
    | fuel + 1, t =>
      match item t with
      | .error fault => .error fault
      | .ok (x, t) =>
        match skipSpace t with
        | [] => .error ⟨atEnd, 0⟩
        | c :: t =>
          if c = close then .ok ([x], t)
          else if c = ',' then
            match skipSpace t with
            | [] => .error ⟨.endInValue, 0⟩
            | d :: t =>
              if d = close then .error (.on .trailingComma (d :: t))
              else (go fuel (d :: t)).map fun (xs, t) => (x :: xs, t)
          else .error (.on other (c :: t))

/-- The sequence behind an opening bracket, which may be empty. -/
def readBody (close : Char) (atEnd other : Cause) (item : Text → Reads α) (t : Text) :
    Reads (List α) :=
  match skipSpace t with
  | [] => .error ⟨atEnd, 0⟩
  | c :: t =>
    if c = close then .ok ([], t) else readSequence close atEnd other item (c :: t)

def readColon (t : Text) : Reads Unit :=
  match skipSpace t with
  | [] => .error ⟨.endInObject, 0⟩
  | c :: t => if c = ':' then .ok ((), t) else .error (.on .expectedColon (c :: t))

def readEntry (value : Text → Reads Json) (t : Text) : Except Fault ((Text × Json) × Text) :=
  match t with
  | '"' :: t => do
    let (key, t) ← readString t
    let (_, t) ← readColon t
    let (v, t) ← value t
    pure ((key, v), t)
  | t => .error (.on .keyNotString t)

/-- A value with at most `depth` further levels of arrays and objects. -/
def readValue (depth : Nat) (t : Text) : Reads Json :=
  match skipSpace t with
  | [] => .error ⟨.endInValue, 0⟩
  | c :: t =>
    if c = 'n' then readIdent .null ['u', 'l', 'l'] t
    else if c = 't' then readIdent (.bool true) ['r', 'u', 'e'] t
    else if c = 'f' then readIdent (.bool false) ['a', 'l', 's', 'e'] t
    else if c = '-' then readNumber true t
    else if c.isDigit then readNumber false (c :: t)
    else if c = '"' then (readString t).map fun (s, t) => (.string s, t)
    else if c = '[' ∨ c = '\x7b' then
      match depth with
      | 0 => .error (.on .recursionLimit (c :: t))
      | depth + 1 =>
        if c = '[' then
          (readBody ']' .endInList .expectedCommaOrBracket (readValue depth) t).map
            fun (items, t) => (.array items, t)
        else
          (readBody '\x7d' .endInObject .expectedCommaOrBrace (readEntry (readValue depth)) t).map
            fun (entries, t) => (.object entries, t)
    else .error (.on .expectedValue (c :: t))

def depthLimit : Nat := 127

/-- The value a text begins with. -/
def read (t : Text) : Reads Json := readValue depthLimit t

/-- A fault unless only white space is left. -/
def readEnd (t : Text) : Except Fault Unit :=
  match skipSpace t with
  | [] => .ok ()
  | rest => .error (.on .trailingCharacters rest)

/-- The one value that makes up a text. -/
def parse (t : Text) : Except Fault Json := do
  let (value, rest) ← read t
  readEnd rest
  pure value

end Subselect.Json
