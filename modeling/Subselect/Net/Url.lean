import Subselect.Net.Credentials
import Subselect.Net.Host
import Subselect.Text.Word

/-! Absolute `http:` and `https:` addresses: which texts are one, and what they name. -/
namespace Subselect.Net

open Text

inductive Scheme where
  | http
  | https
  deriving DecidableEq, Repr

namespace Scheme

def name : Scheme → Text
  | http => "http".toList
  | https => "https".toList

def defaultPort : Scheme → Nat
  | http => 80
  | https => 443

/-- The scheme with a name, in any case of its letters. -/
def named? (t : Text) : Option Scheme := [http, https].find? fun scheme => alike t scheme.name

end Scheme

structure Url where
  scheme : Scheme
  credentials : Credentials
  host : Host
  /-- None is the port that the scheme stands for. -/
  port : Option Nat
  /-- Path, query and fragment are percent encoded. -/
  path : Text
  query : Option Text
  fragment : Option Text
  deriving DecidableEq, Repr

namespace Url

def isControlOrSpace (c : Char) : Bool := c.toNat ≤ 0x20

/-- An address is read without control characters and spaces around it, and without line ends
and tabs inside. -/
def clean (t : Text) : Text :=
  (((t.dropWhile isControlOrSpace).reverse.dropWhile isControlOrSpace).reverse).filter
    fun c => c != '\t' && c != '\n' && c != '\r'

def isSlash (c : Char) : Bool := c == '/' || c == '\\'

def endsAuthority (c : Char) : Bool := isSlash c || c == '?' || c == '#'

/-! Credentials, host and port. -/

/-- Divides credentials from what follows them, at the last `@`. -/
def splitCredentials (authority : Text) : Text × Text :=
  let backwards := authority.reverse
  (((backwards.dropWhile (· != '@')).drop 1).reverse, (backwards.takeWhile (· != '@')).reverse)

/-- Divides a host from what follows it. Colons inside brackets belong to the host. -/
def splitHost : Text → Text × Text
  | '[' :: t => ('[' :: t.takeWhile (· != ']') ++ (t.dropWhile (· != ']')).take 1,
    (t.dropWhile (· != ']')).drop 1)
  | t => (t.takeWhile (· != ':'), t.dropWhile (· != ':'))

/-- The port behind a host: nothing, or a colon and digits. -/
def port? (scheme : Scheme) : Text → Option (Option Nat)
  | [] => some none
  | ':' :: digits =>
    let port := Decimal.value 0 digits
    if !digits.all Char.isDigit || port > 65535 then none
    else some (if digits.isEmpty || port = scheme.defaultPort then none else some port)
  | _ => none

/-! Path, query and fragment. -/

/-- The characters that stand for themselves in each part. -/
def isKeptInPath (c : Char) : Bool := isVisible c && !"\"#<>?\x60\x7b\x7d".toList.contains c

def isKeptInQuery (c : Char) : Bool := isVisible c && !"\"#<>'".toList.contains c

def isKeptInFragment (c : Char) : Bool := isVisible c && !"\"<>\x60".toList.contains c

/-- `.` and `..`, whose dots may be percent encoded. -/
def dots (segment : Text) : Option Nat :=
  match fold segment with
  | ['.'] => some 1
  | ['%', '2', 'e'] => some 1
  | ['.', '.'] => some 2
  | ['.', '%', '2', 'e'] => some 2
  | ['%', '2', 'e', '.'] => some 2
  | ['%', '2', 'e', '%', '2', 'e'] => some 2
  | _ => none

/-- The letter of a drive, with a colon or a bar. -/
def isDrive : Text → Bool
  | [letter, sign] => letter.isAlpha && (sign == ':' || sign == '|')
  | _ => false

/-- Segments, given backwards, after a step up. There is no way up from a drive. -/
def parent : List Text → List Text
  | [] => []
  | segment :: before => if isDrive segment then segment :: before else before

/-- The segments of a path, given those before them backwards. A dot segment at the end leaves an
empty one. -/
def resolveSegments (done : List Text) : List Text → List Text
  | [] => done.reverse
  | segment :: more =>
    match dots segment with
    | none => resolveSegments (percentEncode isKeptInPath segment :: done) more
    | some n =>
      let kept := if n = 2 then parent done else done
      resolveSegments (if more.isEmpty then [] :: kept else kept) more

def pathOf (t : Text) : Text :=
  let segments := pieces '/' ((t.map fun c => if isSlash c then '/' else c).drop 1)
  '/' :: join ['/'] (resolveSegments [] segments)

/-- What a sign leads in, percent encoded, if the sign is there. -/
def partBehind (sign : Char) (kept : Char → Bool) (t : Text) : Option Text :=
  match t.dropWhile (· != sign) with
  | [] => none
  | _ :: part => some (percentEncode kept part)

/-- The address of a host, with what follows host and port. -/
def locate (scheme : Scheme) (credentials : Credentials) (host : Host) (port : Option Nat)
    (t : Text) : Url :=
  let resource := t.takeWhile (· != '#')
  { scheme, credentials, host, port
    path := pathOf (resource.takeWhile (· != '?'))
    query := partBehind '?' isKeptInQuery resource
    fragment := partBehind '#' isKeptInFragment t }

def parse? (address : Text) : Option Url := do
  let t := clean address
  let scheme ← Scheme.named? (t.takeWhile (· != ':'))
  let rest := (← (t.dropWhile (· != ':')).tail?).dropWhile isSlash
  let (credentials, place) := splitCredentials (rest.takeWhile (!endsAuthority ·))
  let (host, port) := splitHost place
  pure (locate scheme (Credentials.ofText credentials) (← Host.parse? host) (← port? scheme port)
    (rest.dropWhile (!endsAuthority ·)))

/-- The host, and the port if it is not the one of the scheme. -/
def place (url : Url) : Text :=
  match url.port with
  | none => url.host.text
  | some port => url.host.text ++ ':' :: Decimal.ofNat port

def led (sign : Char) : Option Text → Text
  | none => []
  | some part => sign :: part

/-- What is asked for at the host; a fragment is not sent. -/
def target (url : Url) : Text := url.path ++ led '?' url.query

def text (url : Url) : Text :=
  url.scheme.name ++ "://".toList ++ url.credentials.text ++ url.place ++ url.target ++
    led '#' url.fragment

/-- The longest address that a request can carry. -/
def longest : Nat := 65534

/-- A name may hold characters that no request can carry. -/
def isSendable (url : Url) : Bool :=
  url.text.length ≤ longest && !url.place.any "\"\x60\x7b\x7d".toList.contains

end Url
end Subselect.Net
