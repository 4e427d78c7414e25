import Subselect.Engine.Http
import Subselect.Text.Blank

/-! Requests and the heads of answers as they travel over a connection. -/
namespace Subselect.Net.Wire

open Text

def header (name : String) (value : Text) : Text := name.toList ++ ": ".toList ++ value

/-- The head of a request, an empty line, and its body. -/
def requestText (request : Http.Request) : Text :=
  let head := [request.line, header "Host" request.host,
    header "Content-Type" request.contentType,
    header "Content-Length" (Decimal.ofNat (size request.body)), []]
  head.flatMap (· ++ "\r\n".toList) ++ request.body

/-- The status in the first line of an answer. -/
def status (line : Text) : Nat :=
  Decimal.value 0 ((trimStart (line.dropWhile (· != ' '))).takeWhile Char.isDigit)

/-- The length that a header line gives to the body. -/
def contentLength? (line : Text) : Option Nat :=
  if alike (line.takeWhile (· != ':')) "content-length".toList then
    some (Decimal.value 0 (trim ((line.dropWhile (· != ':')).drop 1)))
  else none

end Subselect.Net.Wire
