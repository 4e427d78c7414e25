import Subselect.Table

/-! An engine runs one query and answers with rows or an error. Its state is carried from call to
call, so that an answer may depend on everything asked before. -/
namespace Subselect

inductive EngineError where
  /-- The engine refused the query. -/
  | query (message : Text)
  /-- The answer could not be understood. -/
  | invalidResponse (message : Text)
  /-- The request could not be made; the address is given if it was understood. -/
  | transport (address : Option Text)
  /-- No answer came back, for the reason given. -/
  | unanswered (reason : Text)
  deriving DecidableEq, Repr

def EngineError.message : EngineError → Text
  | query message => "Query engine error: ".toList ++ message
  | invalidResponse message => "Invalid engine response: ".toList ++ message
  | transport none => "builder error".toList
  | transport (some address) => "builder error for url (".toList ++ address ++ [')']
  | unanswered reason => reason

abbrev Reply := Except EngineError Table

abbrev Engine (σ : Type) := Text → σ → Reply × σ

/-- An engine whose answer depends on the query alone. -/
def Engine.ofFunction (answer : Text → Reply) : Engine Unit := fun query _ => (answer query, ())

end Subselect
