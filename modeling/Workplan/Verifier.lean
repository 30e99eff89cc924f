/-
# `Workplan.Verifier` — predicates on input values

A verifier judges one input value, and may look at all inputs of the unit.  It accepts, refuses
without a reason, fails with one, or crashes; a crash counts as a failure whose reason tells so.
-/
import Workplan.Value

namespace Workplan

/-- Code of a unit that did not return: the message it left, if it left one as text. -/
structure Crash where
  message : Option String
deriving DecidableEq

/-- What a report says about a crash. -/
def Crash.note : Crash → String
  | ⟨some text⟩ => "panicked: " ++ text
  | ⟨none⟩ => "panicked"

/-- What a verifier makes of a value. -/
inductive Verdict where
  | accepted
  | refused
  | failed (reason : String)
  | crashed (crash : Crash)
deriving DecidableEq

/-- A named predicate on an input value; the arguments are the input's name, its value and all
inputs. -/
structure Verifier where
  name : String
  judge : String → Value → Inputs → Verdict

/-- The verifier in debugging output. -/
def Verifier.debugText (v : Verifier) : String := "Verifier(" ++ v.name ++ ")"

end Workplan
