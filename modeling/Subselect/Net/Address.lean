import Subselect.Decimal.Basic
import Subselect.Text.Hex

/-! Socket addresses: reading `a.b.c.d:port`, `[ipv6]:port` and `[ipv6%scope]:port`, and their
canonical text. -/
namespace Subselect.Net

inductive SocketAddress where
  | v4 (octets : List Nat) (port : Nat)
  | v6 (groups : List Nat) (scope : Nat) (port : Nat)
  deriving DecidableEq, Repr

namespace SocketAddress

/-- The text behind a given character. -/
def skip (c : Char) : Text → Option Text
  | [] => none
  | d :: t => if d = c then some t else none

/-- A number up to `bound`. The digits may be limited in number, and leading zeros ruled out. -/
def readNumber (digit : Char → Option Nat) (base bound : Nat) (most : Option Nat) (zeros : Bool)
    (t : Text) : Option (Nat × Text) :=
  let digits := t.takeWhile fun c => (digit c).isSome
  let value := digits.foldl (fun n c => n * base + (digit c).getD 0) 0
  let fits := most.all (digits.length ≤ ·)
  let plain := zeros || digits.length ≤ 1 || digits.head? != some '0'
  if digits.isEmpty || !fits || !plain || value > bound then none
  else some (value, t.drop digits.length)

def readOctet : Text → Option (Nat × Text) := readNumber Decimal.digit? 10 255 (some 3) false
def readPort : Text → Option (Nat × Text) := readNumber Decimal.digit? 10 65535 none true
def readScope : Text → Option (Nat × Text) := readNumber Decimal.digit? 10 4294967295 none true
def readGroup : Text → Option (Nat × Text) := readNumber Text.hexDigit? 16 65535 (some 4) true

def readIpv4 (t : Text) : Option (List Nat × Text) := do
  let (a, t) ← readOctet t
  let (b, t) ← readOctet (← skip '.' t)
  let (c, t) ← readOctet (← skip '.' t)
  let (d, t) ← readOctet (← skip '.' t)
  pure ([a, b, c, d], t)

/-- Up to `limit` groups parted by colons, and whether they end in an embedded IPv4 address,
which counts as two. -/
def readGroups (first : Bool) : (limit : Nat) → Text → List Nat × Bool × Text
  | 0, t => ([], false, t)
  | limit + 1, t =>
    let next := if first then some t else skip ':' t
    let embedded := if limit = 0 then none else next.bind readIpv4
    match embedded with
    | some ([a, b, c, d], t) => ([a * 256 + b, c * 256 + d], true, t)
    | _ =>
      match next.bind readGroup with
      | none => ([], false, t)
      | some (group, t) =>
        let (groups, ipv4, t) := readGroups false limit t
        (group :: groups, ipv4, t)

/-- Eight groups, or fewer with one `::` that stands for at least one group of zero. -/
def readIpv6 (t : Text) : Option (List Nat × Text) :=
  let (front, ipv4, t) := readGroups true 8 t
  if front.length = 8 then some (front, t)
  else if ipv4 then none
  else do
    let t ← skip ':' t
    let t ← skip ':' t
    let (back, _, t) := readGroups true (7 - front.length) t
    pure (front ++ List.replicate (8 - front.length - back.length) 0 ++ back, t)

def readV4 (t : Text) : Option SocketAddress := do
  let (octets, t) ← readIpv4 t
  match ← readPort (← skip ':' t) with
  | (port, []) => pure (v4 octets port)
  | _ => none

def readV6 (t : Text) : Option SocketAddress := do
  let (groups, t) ← readIpv6 (← skip '[' t)
  let (scope, t) ←
    match skip '%' t with
    | some t => readScope t
    | none => pure (0, t)
  let t ← skip ']' t
  match ← readPort (← skip ':' t) with
  | (port, []) => pure (v6 groups scope port)
  | _ => none

def parse (t : Text) : Option SocketAddress := (readV4 t).orElse fun _ => readV6 t

def hex (n : Nat) : Text := Nat.toDigits 16 n

def ipv4Text (octets : List Nat) : Text := Text.join ['.'] (octets.map Decimal.ofNat)

def groupsText (groups : List Nat) : Text := Text.join [':'] (groups.map hex)

/-- Where the first of the longest runs of zeros starts, and its length. -/
def longestZeros (groups : List Nat) : Nat × Nat :=
  (List.range groups.length).foldl
    (fun best i =>
      let run := ((groups.drop i).takeWhile (· == 0)).length
      if run > best.2 then (i, run) else best)
    (0, 0)

/-- Two or more zeros are shortened once. -/
def compressed (groups : List Nat) : Text :=
  let (start, length) := longestZeros groups
  if length > 1 then
    groupsText (groups.take start) ++ ':' :: ':' :: groupsText (groups.drop (start + length))
  else groupsText groups

/-- An IPv4 address behind the mapping groups is dotted. -/
def ipv6Text (groups : List Nat) : Text :=
  match groups with
  | [0, 0, 0, 0, 0, 0xffff, high, low] =>
    "::ffff:".toList ++ ipv4Text [high / 256, high % 256, low / 256, low % 256]
  | _ => compressed groups

def text : SocketAddress → Text
  | v4 octets port => ipv4Text octets ++ ':' :: Decimal.ofNat port
  | v6 groups scope port =>
    '[' :: (ipv6Text groups ++ (if scope = 0 then [] else '%' :: Decimal.ofNat scope) ++
      ']' :: ':' :: Decimal.ofNat port)

end SocketAddress
end Subselect.Net
