import Subselect.Net.Percent

/-! The credentials in front of the host of an address: a name, and perhaps a password behind a
colon. They are sent apart from the address, unless they cannot be read. -/
namespace Subselect.Net

open Text

/-- Name and password are percent encoded, and a password is not empty. -/
structure Credentials where
  name : Text
  password : Option Text
  deriving DecidableEq, Repr

namespace Credentials

/-- The characters that stand for themselves. -/
def isKept (c : Char) : Bool := isVisible c && !"\"#<>?\x60\x7b\x7d/:;=@[\\]^|".toList.contains c

/-- A second colon belongs to the password. -/
def ofText (t : Text) : Credentials where
  name := percentEncode isKept (t.takeWhile (· != ':'))
  password :=
    match (t.dropWhile (· != ':')).drop 1 with
    | [] => none
    | password => some (percentEncode isKept password)

/-- Whether the octets behind a part are text. -/
def isReadable (part : Text) : Bool := isUtf8 (percentDecode part)

/-- Whether there is something to send apart from the address. An unreadable name keeps a password
from being sent; an unreadable password is left out. -/
def isSentApart (c : Credentials) : Bool :=
  isReadable c.name && (!c.name.isEmpty || c.password.any isReadable)

/-- What the address shows in front of its host. -/
def text (c : Credentials) : Text :=
  let parts := c.name ++ (c.password.map (':' :: ·)).getD []
  if parts.isEmpty || c.isSentApart then [] else parts ++ ['@']

end Credentials
end Subselect.Net
