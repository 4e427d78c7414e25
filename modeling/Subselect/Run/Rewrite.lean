import Subselect.Literal
import Subselect.Run.Dialogue
import Subselect.Run.Failure

/-! Rewriting: as long as a query holds sub-selects, a pass runs the innermost ones and puts
literals in their place. Resolving runs the rewritten query as well. -/
namespace Subselect

open Text

/-- A query after the last pass. It is exhausted if it still held sub-selects at the limit. -/
structure Rewrite where
  query : Text
  passes : Nat
  exhausted : Bool
  deriving DecidableEq, Repr

structure Resolution where
  rewrite : Rewrite
  table : Table
  deriving DecidableEq, Repr

/-- Success, or a report of what failed. -/
abbrev Outcome (α : Type) := Except (Report Failure) α

namespace Query

def defaultMaxPasses : Nat := 10

/-- Runs sub-selects in the given order and pairs each with its replacement. Ordinals count the
calls of the pass. -/
def askAll (pass : Nat) : (ordinal : Nat) → List Site →
    Dialogue (Outcome (List (Site × Text)))
  | _, [] => .done (.ok [])
  | ordinal, site :: more =>
    .ask site.inner fun
      | .error error =>
        .report (.subqueryFailed pass ordinal site error) <|
          .done (.error (.of (.subquery pass ordinal error.message)))
      | .ok table =>
        let values := Literal.ofTable table
        let replacement := site.context.replacement values
        .report (.subqueryResolved pass ordinal site replacement values.length) <|
          (askAll pass (ordinal + 1) more).map fun
            | .ok edits => .ok ((site, replacement) :: edits)
            | .error report => .error report

/-- Makes the replacements one after another. -/
def splice : List (Site × Text) → Text → Option Text
  | [], query => some query
  | (site, replacement) :: more, query =>
    (replace site.offset site.length replacement query).bind (splice more)

/-- One pass: the rightmost sub-select is run and replaced first, so that the offsets of the
others stay valid. -/
def pass (number : Nat) (query : Text) (sites : List Site) :
    Dialogue (Outcome Text) :=
  (askAll number 1 sites.reverse).map fun
    | .ok edits => .ok ((splice edits query).getD query)
    | .error report => .error (report.inPass number)

/-- Goes on for at most `left` passes after `passes` of them. -/
def proceed (limit : Nat) : (left passes : Nat) → Text → Dialogue (Outcome Rewrite)
  | left, passes, query =>
    match Query.sites query, left with
    | [], _ => .done (.ok ⟨query, passes, false⟩)
    | _ :: _, 0 => .report (.passesExhausted limit query) (.done (.ok ⟨query, passes, true⟩))
    | site :: more, left + 1 =>
      .report (.passStarted (passes + 1) query (site :: more)) <|
        (pass (passes + 1) query (site :: more)).andThen (proceed limit left (passes + 1))

def rewrite (maxPasses : Nat) (query : Text) : Dialogue (Outcome Rewrite) :=
  proceed maxPasses maxPasses 0 query

/-- Runs a rewritten query. -/
def finish (done : Rewrite) : Dialogue (Outcome Resolution) :=
  .report (.queryResolved done.query done.passes) <|
    .ask done.query fun
      | .error error =>
        .report (.finalQueryFailed done.query error) <|
          .done (.error ((Report.of (.finalQuery error.message)).note
            "executing resolved query".toList))
      | .ok table => .done (.ok ⟨done, table⟩)

def resolve (maxPasses : Nat) (query : Text) : Dialogue (Outcome Resolution) :=
  (rewrite maxPasses query).andThen finish

end Query
end Subselect
