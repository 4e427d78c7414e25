import Subselect.Engine.Response
import Subselect.Net.Form
import Subselect.Net.Status
import Subselect.Net.Url

/-! The engine behind an HTTP endpoint. Each query is posted as a form, and the body of the reply
is decoded whatever its status; the status is named where the body cannot be understood. A request
may be left without an answer. -/
namespace Subselect.Http

open Net

structure Request where
  /-- Whether the connection to the host is encrypted. -/
  scheme : Scheme
  host : Text
  target : Text
  contentType : Text
  body : Text
  deriving DecidableEq, Repr

def Request.line (request : Request) : Text :=
  "POST ".toList ++ request.target ++ " HTTP/1.1".toList

structure Answer where
  status : Nat
  body : List UInt8

/-- The one who carries requests to the endpoint and comes back with an answer, or with the reason
why there is none; its state is carried along. -/
abbrev Transport (σ : Type) := Request → σ → Except Text Answer × σ

structure Exchange where
  request : Request
  answer : Except Text Answer

/-- An answer of these statuses has no body, whatever follows its head. -/
def isBodiless (status : Nat) : Bool := status < 200 || status == 204 || status == 304

def Answer.text (answer : Answer) : Text :=
  if isBodiless answer.status then [] else Text.decodeUtf8 answer.body

/-- The address that queries are sent to. -/
def endpoint (base : Text) : Text :=
  (base.reverse.dropWhile (· == '/')).reverse ++ "/sql?mode=raw".toList

/-- The request that puts a query to the endpoint at an address. The address has to be absolute,
and a request has to be able to carry it. -/
def request (base query : Text) : Except EngineError Request :=
  match Url.parse? (endpoint base) with
  | none => .error (.transport none)
  | some url =>
    if url.isSendable then
      .ok
        { scheme := url.scheme, host := url.place, target := url.target
          contentType := Form.contentType, body := Form.ofQuery query }
    else .error (.transport (some url.text))

/-- Blames an answer that cannot be understood on a status that is no success. -/
def applyStatus (status : Nat) : Reply → Reply
  | .error (.invalidResponse message) =>
    if Status.isSuccess status then .error (.invalidResponse message)
    else .error (.invalidResponse ("HTTP ".toList ++ Status.text status ++ ": ".toList ++ message))
  | reply => reply

def Answer.reply (answer : Answer) : Reply :=
  applyStatus answer.status (Response.decode answer.text)

def Exchange.reply (exchange : Exchange) : Reply :=
  match exchange.answer with
  | .error reason => .error (.unanswered reason)
  | .ok answer => answer.reply

/-- The engine at an address, with the exchanges made so far beside the state of the transport.
Without a request nothing is exchanged. -/
def engine (base : Text) (transport : Transport σ) : Engine (σ × List Exchange) :=
  fun query (state, exchanges) =>
    match request base query with
    | .error error => (.error error, state, exchanges)
    | .ok request =>
      let (answer, state) := transport request state
      let exchange : Exchange := { request, answer }
      (exchange.reply, state, exchanges ++ [exchange])

end Subselect.Http
