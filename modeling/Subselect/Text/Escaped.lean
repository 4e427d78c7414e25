import Subselect.Text.Hidden

/-! Text in double quotes for messages, with what cannot be seen written by its code. -/
namespace Subselect.Text

def escapeShown (c : Char) : Text :=
  if c = '"' then ['\\', '"']
  else if c = '\\' then ['\\', '\\']
  else if c = '\n' then ['\\', 'n']
  else if c = '\r' then ['\\', 'r']
  else if c = '\t' then ['\\', 't']
  else if c = '\x00' then ['\\', '0']
  else if isHidden c then '\\' :: 'u' :: '\x7b' :: (Nat.toDigits 16 c.toNat ++ ['\x7d'])
  else [c]

def shown (t : Text) : Text := '"' :: (t.flatMap escapeShown ++ ['"'])

end Subselect.Text
