import Subselect.Decimal.Basic

/-! What can be wrong with JSON text, and where. A fault counts the octets that are still unread
when it shows; its message gives the line and the octet column. -/
namespace Subselect.Json

inductive Cause where
  | endInValue
  | endInList
  | endInObject
  | endInString
  | expectedValue
  | expectedIdent
  | expectedColon
  | expectedCommaOrBracket
  | expectedCommaOrBrace
  | trailingComma
  | trailingCharacters
  | keyNotString
  | invalidNumber
  | numberOutOfRange
  | invalidEscape
  | controlCharacter
  | loneSurrogate
  | endOfHexEscape
  | recursionLimit
  deriving DecidableEq, Repr

def Cause.text : Cause → String
  | endInValue => "EOF while parsing a value"
  | endInList => "EOF while parsing a list"
  | endInObject => "EOF while parsing an object"
  | endInString => "EOF while parsing a string"
  | expectedValue => "expected value"
  | expectedIdent => "expected ident"
  | expectedColon => "expected \x60:\x60"
  | expectedCommaOrBracket => "expected \x60,\x60 or \x60]\x60"
  | expectedCommaOrBrace => "expected \x60,\x60 or \x60\x7d\x60"
  | trailingComma => "trailing comma"
  | trailingCharacters => "trailing characters"
  | keyNotString => "key must be a string"
  | invalidNumber => "invalid number"
  | numberOutOfRange => "number out of range"
  | invalidEscape => "invalid escape"
  | controlCharacter => "control character (\\u0000-\\u001F) found while parsing a string"
  | loneSurrogate => "lone leading surrogate in hex escape"
  | endOfHexEscape => "unexpected end of hex escape"
  | recursionLimit => "recursion limit exceeded"

structure Fault where
  cause : Cause
  left : Nat
  deriving DecidableEq, Repr

namespace Fault

/-- A fault that shows once the first octet of `t` is read, or at the end of the text. -/
def on (cause : Cause) (t : Text) : Fault := ⟨cause, Text.size t - 1⟩

/-- A fault that shows before `t`. -/
def before (cause : Cause) (t : Text) : Fault := ⟨cause, Text.size t⟩

/-- The line, from 1, and the octets since its start, `n` octets into a text. -/
def place (n : Nat) (t : Text) : Nat × Nat := go 1 0 n t
where
  go (line column : Nat) : Nat → Text → Nat × Nat
    | n, [] => (line, column + n)
    | n, c :: t =>
      if n < c.utf8Size then (line, column + n)
      else if c = '\n' then go (line + 1) 0 (n - c.utf8Size) t
      else go line (column + c.utf8Size) (n - c.utf8Size) t

def message (fault : Fault) (body : Text) : Text :=
  let (line, column) := place (Text.size body - fault.left) body
  fault.cause.text.toList ++ " at line ".toList ++ Decimal.ofNat line ++ " column ".toList ++
    Decimal.ofNat column

end Fault
end Subselect.Json
