import Subselect.Text.Hex
import Subselect.Text.Utf8

/-! Percent encoding: octets written as a percent sign and two hexadecimal digits. -/
namespace Subselect.Net

open Text

def percent (octet : UInt8) : Text :=
  let digit := fun n => (Nat.digitChar n).toUpper
  ['%', digit (octet.toNat / 16), digit (octet.toNat % 16)]

/-- Writes the characters outside `kept` as percent signs and octets. -/
def percentEncode (kept : Char → Bool) (t : Text) : Text :=
  t.flatMap fun c => if kept c then [c] else (String.utf8EncodeChar c).flatMap percent

/-- The octets that a text stands for. A percent sign without two digits stands for itself. -/
def percentDecode : Text → List UInt8
  | '%' :: a :: b :: t =>
    match hexDigit? a, hexDigit? b with
    | some high, some low => UInt8.ofNat (16 * high + low) :: percentDecode t
    | _, _ => encodeUtf8 ['%'] ++ percentDecode (a :: b :: t)
  | c :: t => encodeUtf8 [c] ++ percentDecode t
  | [] => []

def isVisible (c : Char) : Bool := 0x21 ≤ c.toNat && c.toNat ≤ 0x7E

end Subselect.Net
