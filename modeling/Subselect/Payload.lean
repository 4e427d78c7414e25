import Subselect.Json.Reader
import Subselect.Text.Blank

/-! The body of a request: a query as it stands, a JSON string, or a JSON object with a `query`. -/
namespace Subselect

inductive Payload where
  | raw (query : Text)
  | object (query : Option Text)
  deriving DecidableEq, Repr

namespace Payload

/-- The payload that a JSON value is, if it is one. -/
def ofJson : Json → Option Payload
  | .string s => some (raw s)
  | .object entries =>
    match entries.filter (·.1 == "query".toList) with
    | [] => some (object none)
    | [(_, .null)] => some (object none)
    | [(_, .string s)] => some (object (some s))
    | _ => none
  | _ => none

/-- Whatever is no payload in JSON is a raw query. -/
def parse (input : Text) : Payload :=
  match Json.parse input with
  | .ok value => (ofJson value).getD (raw input)
  | .error _ => raw input

/-- The text that is held, before trimming. -/
def held : Payload → Option Text
  | raw query => some query
  | object query => query

/-- The trimmed query; empty if the payload carries none. -/
def query (payload : Payload) : Text := Text.trim (payload.held.getD [])

end Payload
end Subselect
