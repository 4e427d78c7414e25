import Subselect.Net.Address
import Subselect.Text.Escaped

/-! Command line arguments: long options with values, and what is refused. -/
namespace Subselect

inductive ParseError where
  | invalidDigit
  | emptyInteger
  | tooLarge
  | addressSyntax
  deriving DecidableEq, Repr

def ParseError.text : ParseError → String
  | invalidDigit => "invalid digit found in string"
  | emptyInteger => "cannot parse integer from empty string"
  | tooLarge => "number too large to fit in target type"
  | addressSyntax => "invalid socket address syntax"

inductive ArgumentError where
  | invalidOption (option : Text)
  | unexpected (argument : Text)
  | missingValue (option : Text)
  | unreadable (value : Text) (reason : ParseError)
  deriving DecidableEq, Repr

def ArgumentError.message : ArgumentError → Text
  | invalidOption option => "invalid option '".toList ++ option ++ ['\'']
  | unexpected argument => "unexpected argument ".toList ++ Text.shown argument
  | missingValue option => "missing argument for option '".toList ++ option ++ ['\'']
  | unreadable value reason =>
    "cannot parse argument ".toList ++ Text.shown value ++ ": ".toList ++ reason.text.toList

/-- What an argument is by its form. -/
inductive Argument where
  /-- Everything behind it is positional. -/
  | separator
  | long (name : Text) (value : Option Text)
  | short (letter : Char)
  | positional (text : Text)
  deriving DecidableEq, Repr

def Argument.ofText : Text → Argument
  | ['-', '-'] => separator
  | '-' :: '-' :: t =>
    match t.dropWhile (· != '=') with
    | [] => long t none
    | _ :: value => long (t.takeWhile (· != '=')) (some value)
  | '-' :: c :: _ => short c
  | t => positional t

/-- Reads the digits of a number below `2 ^ 64` behind the value `n`. The first digit that is none
or that takes the value too far decides. -/
def readWord (n : Nat) : Text → Except ParseError Nat
  | [] => .ok n
  | c :: t =>
    match Decimal.digit? c with
    | none => .error .invalidDigit
    | some d => if 10 * n + d < Decimal.wordLimit then readWord (10 * n + d) t else .error .tooLarge

/-- A number below `2 ^ 64`, with or without a plus sign. -/
def parseWord : Text → Except ParseError Nat
  | [] => .error .emptyInteger
  | '+' :: c :: t => readWord 0 (c :: t)
  | t => readWord 0 t

def parseAddress (t : Text) : Except ParseError Net.SocketAddress :=
  match Net.SocketAddress.parse t with
  | some address => .ok address
  | none => .error .addressSyntax

end Subselect
