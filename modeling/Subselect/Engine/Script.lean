import Subselect.Engine.Response

/-! An engine that follows a script: for each query text, the replies to its first call, its
second one and so on. The last reply to a text repeats. -/
namespace Subselect

structure Script where
  entries : List (Text × Reply)
  otherwise : Text → Reply

namespace Script

/-- The reply to the next call of a query that was asked `count` times before. -/
def reply (script : Script) (query : Text) (count : Nat) : Reply :=
  let replies := (script.entries.filter (·.1 == query)).map (·.2)
  match replies[count]? with
  | some reply => reply
  | none => replies.getLast?.getD (script.otherwise query)

/-- The state is what was asked so far. -/
def engine (script : Script) : Engine (List Text) :=
  fun query asked => (script.reply query (asked.count query), query :: asked)

/-- One row with the query itself. -/
def echo (query : Text) : Reply := .ok (.ofRows [[("echo".toList, .text query)]])

end Script
end Subselect
