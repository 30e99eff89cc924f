/-
# `Workplan.WorkUnit` — units of work

A unit is a contract together with two pieces of code: a check of its own that runs once the
inputs satisfy the contract, and the work itself.  Both are functions of the inputs.
-/
import Workplan.Descriptor
import Workplan.Text.Quoted

namespace Workplan

/-- What a unit's own check makes of its inputs. -/
inductive SelfCheck where
  | accepted
  | rejected (reason : String)
  | crashed (crash : Crash)
deriving DecidableEq

/-- How the work of a unit ends: with outputs, with a chain of causes from the outermost to the
root, or not at all. -/
inductive Execution where
  | returned (outputs : Outputs)
  | failed (causes : List String)
  | crashed (crash : Crash)

/-- A unit of work. -/
structure WorkUnit where
  descriptor : Descriptor
  check : Inputs → SelfCheck := fun _ => .accepted
  execute : Inputs → Execution

namespace WorkUnit

def id (u : WorkUnit) : String := u.descriptor.id

def version (u : WorkUnit) : String := u.descriptor.version

/-- A unit made of functions in debugging output. -/
def debugText (u : WorkUnit) : String := "FnUnit \x7b id: " ++ Text.quoted u.id ++ " \x7d"

end WorkUnit

end Workplan
