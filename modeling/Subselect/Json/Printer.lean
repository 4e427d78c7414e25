import Subselect.Json.Value

/-! JSON text, compact or laid out over indented lines. -/
namespace Subselect.Json

def hexDigit (n : Nat) : Char := Nat.digitChar n

/-- The characters that stand for `c` inside a string. -/
def escape (c : Char) : Text :=
  if c = '"' then ['\\', '"']
  else if c = '\\' then ['\\', '\\']
  else if c = '\n' then ['\\', 'n']
  else if c = '\r' then ['\\', 'r']
  else if c = '\t' then ['\\', 't']
  else if c = '\x08' then ['\\', 'b']
  else if c = '\x0c' then ['\\', 'f']
  else if c.toNat < 0x20 then
    ['\\', 'u', '0', '0', hexDigit (c.toNat / 16), hexDigit (c.toNat % 16)]
  else [c]

def quote (s : Text) : Text := '"' :: (s.flatMap escape ++ ['"'])

/-- JSON has no text for what is not finite. -/
def doubleText : Binary64 → Text
  | .finite negative significand scale =>
    Decimal.Layout.json.finiteText negative significand scale
  | _ => ['n', 'u', 'l', 'l']

def boolText : Bool → Text
  | true => ['t', 'r', 'u', 'e']
  | false => ['f', 'a', 'l', 's', 'e']

mutual
def compact : Json → Text
  | null => ['n', 'u', 'l', 'l']
  | bool b => boolText b
  | whole n => Decimal.ofInt n
  | double x => doubleText x
  | string s => quote s
  | array items => '[' :: (compactItems items ++ [']'])
  | object entries => '\x7b' :: (compactEntries entries ++ ['\x7d'])

def compactItems : List Json → Text
  | [] => []
  | item :: [] => compact item
  | item :: next :: more => compact item ++ ',' :: compactItems (next :: more)

def compactEntry : Text × Json → Text
  | (key, value) => quote key ++ ':' :: compact value

def compactEntries : List (Text × Json) → Text
  | [] => []
  | entry :: [] => compactEntry entry
  | entry :: next :: more => compactEntry entry ++ ',' :: compactEntries (next :: more)
end

/-- A line end and two spaces for each level. -/
def newline (level : Nat) : Text := '\n' :: List.replicate (2 * level) ' '

mutual
def pretty (level : Nat) : Json → Text
  | null => ['n', 'u', 'l', 'l']
  | bool b => boolText b
  | whole n => Decimal.ofInt n
  | double x => doubleText x
  | string s => quote s
  | array [] => ['[', ']']
  | array (item :: more) =>
    '[' :: (newline (level + 1) ++ pretty (level + 1) item ++ prettyItems (level + 1) more ++
      newline level ++ [']'])
  | object [] => ['\x7b', '\x7d']
  | object (entry :: more) =>
    '\x7b' :: (newline (level + 1) ++ prettyEntry (level + 1) entry ++
      prettyEntries (level + 1) more ++ newline level ++ ['\x7d'])

def prettyItems (level : Nat) : List Json → Text
  | [] => []
  | item :: more => ',' :: (newline level ++ pretty level item ++ prettyItems level more)

def prettyEntry (level : Nat) : Text × Json → Text
  | (key, value) => quote key ++ ':' :: ' ' :: pretty level value

def prettyEntries (level : Nat) : List (Text × Json) → Text
  | [] => []
  | entry :: more => ',' :: (newline level ++ prettyEntry level entry ++ prettyEntries level more)
end

end Subselect.Json
