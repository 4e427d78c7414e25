import Subselect.Decimal.Basic
import Subselect.Text.Blank

/-! Why a run failed, with notes about where the failure passed on its way up, and the report
shown to users. -/
namespace Subselect

open Text

inductive Failure where
  | subquery (pass ordinal : Nat) (message : Text)
  | finalQuery (message : Text)
  deriving DecidableEq, Repr

def Failure.message : Failure → Text
  | subquery pass ordinal message =>
    "Subquery #".toList ++ Decimal.ofNat ordinal ++ " (pass ".toList ++ Decimal.ofNat pass ++
      ") failed: ".toList ++ message
  | finalQuery message => "Final query failed: ".toList ++ message

/-- Notes stand in the order in which they were attached. -/
structure Report (ε : Type) where
  error : ε
  notes : List Text
  deriving DecidableEq, Repr

namespace Report

def of (error : ε) : Report ε := ⟨error, []⟩

def note (text : Text) (report : Report ε) : Report ε :=
  { report with notes := report.notes ++ [text] }

/-- Notes the pass in which the failure arose. -/
def inPass (pass : Nat) (report : Report ε) : Report ε :=
  report.note ("in pass ".toList ++ Decimal.ofNat pass)

/-- Lines of text behind a lead-in; further lines get a lead-in of their own. -/
def entry (first further : String) (t : Text) : Text :=
  first.toList ++ join ('\n' :: further.toList) (lineParts t) ++ ['\n']

def entries : List Text → Text
  | [] => []
  | [last] => entry " ╰ " "   " last
  | t :: more => entry " ├ " " │ " t ++ entries more

/-- The whole report: the message, the place it comes from, and each note with its place. `place`
is the text of a place in the program. -/
def render (message : ε → Text) (place : Text) (report : Report ε) : Text :=
  '\n' :: (entry " ● " " │ " (trimEnd (message report.error)) ++
    entries (place :: report.notes.map (· ++ " at ".toList ++ place)))

end Report
end Subselect
