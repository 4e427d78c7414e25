import Subselect.Net.Address
import Subselect.Net.Domain.Basic
import Subselect.Net.Percent

/-! Hosts: IPv6 addresses in brackets, IPv4 addresses and domain names. Characters of the last two
may be percent encoded. -/
namespace Subselect.Net

open Text

inductive Host where
  | name (ascii : Text)
  | ipv4 (octets : List Nat)
  | ipv6 (groups : List Nat)
  deriving DecidableEq, Repr

namespace Ipv4

def number? (base : Nat) (digits : Text) : Option Nat :=
  if digits.all fun c => (hexDigit? c).any (· < base) then
    some (digits.foldl (fun n c => base * n + (hexDigit? c).getD 0) 0)
  else none

/-- A number is hexadecimal behind `0x`, octal behind another zero, and decimal otherwise. -/
def part? : Text → Option Nat
  | [] => none
  | '0' :: 'x' :: digits => number? 16 digits
  | '0' :: c :: digits => number? 8 (c :: digits)
  | digits => number? 10 digits

/-- The parts of a name; one dot may follow the last. -/
def parts (name : Text) : List Text :=
  let all := pieces '.' name
  if all.length > 1 && all.getLast? == some [] then all.dropLast else all

/-- Whether the last part is meant as a number, so that the name has to be an address. -/
def endsInNumber (name : Text) : Bool :=
  match (parts name).getLast? with
  | none => false
  | some last => (!last.isEmpty && last.all Char.isDigit) || (part? last).isSome

/-- The lowest `count` octets of a number, the highest of them first. -/
def octets : (count : Nat) → Nat → List Nat
  | 0, _ => []
  | count + 1, n => octets count (n / 256) ++ [n % 256]

/-- Up to three octets, and a number that fills up the four. -/
def parse? (name : Text) : Option (List Nat) := do
  let numbers ← (parts name).mapM part?
  let last ← numbers.getLast?
  let front := numbers.dropLast
  let left := 4 - front.length
  if front.length < 4 && front.all (· < 256) && last < Nat.pow 256 left then
    some (front ++ octets left last)
  else none

end Ipv4

namespace Host

def ofName? (name : Text) : Option Host :=
  if name.isEmpty then none
  else if Ipv4.endsInNumber name then (Ipv4.parse? name).map ipv4
  else some (.name name)

def parse? : Text → Option Host
  | '[' :: t =>
    match SocketAddress.readIpv6 t with
    | some (groups, [']']) => some (ipv6 groups)
    | _ => none
  | t => (Domain.toAscii? (decodeUtf8 (percentDecode t))).bind ofName?

def text : Host → Text
  | name ascii => ascii
  | ipv4 octets => SocketAddress.ipv4Text octets
  | ipv6 groups => '[' :: (SocketAddress.compressed groups ++ [']'])

end Host
end Subselect.Net
