/-
# `Workplan.Step` — performing one unit

A step validates the inputs, lets the unit check them itself, and runs the unit.  Its result tells
the states it went through and either the outputs, unchanged, or the cause of the failure.  A
crash of the work or of a verifier is a failure like any other; a crash of the unit's own check is
not, and leaves the step without a result.
-/
import Workplan.Contract
import Workplan.StepState

namespace Workplan

/-- Why a step failed: its inputs were not valid, or the work did not succeed. -/
inductive StepError where
  | invalid (unit : String) (violation : Violation)
  | unitExecution (unit : String) (causes : List String)
deriving DecidableEq

namespace StepError

def message : StepError → String
  | .invalid unit violation =>
    "unit '" ++ unit ++ "' input validation failed: " ++ violation.message
  | .unitExecution unit causes => "unit '" ++ unit ++ "' failed: " ++ ": ".intercalate causes

def unit : StepError → String
  | .invalid unit _ => unit
  | .unitExecution unit _ => unit

/-- The violation of the contract, if the work was not started. -/
def violation? : StepError → Option Violation
  | .invalid _ violation => some violation
  | .unitExecution _ _ => none

end StepError

/-- The result of a step: the states in order, and what came of it. -/
structure StepResult where
  path : List StepState
  outcome : Except StepError Outputs

/-- The state in which a step ended. -/
def StepResult.state (r : StepResult) : StepState := r.path.getLast?.getD .pending

namespace WorkUnit

/-- The path of a step whose inputs were refused. -/
def refusedPath : List StepState := [.pending, .validating, .invalid, .failed]

/-- The path of a step whose work was started, up to its end. -/
def startedPath (last : StepState) : List StepState :=
  [.pending, .validating, .valid, .executing, last]

/-- The result of the work on valid inputs. -/
def executeStep (u : WorkUnit) (inputs : Inputs) : StepResult :=
  match u.execute inputs with
  | .returned outputs => ⟨startedPath .succeeded, .ok outputs⟩
  | .failed causes => ⟨startedPath .failed, .error (.unitExecution u.id causes)⟩
  | .crashed crash => ⟨startedPath .failed, .error (.unitExecution u.id [crash.note])⟩

/-- Performs a step.  The error is a crash of the unit's own check. -/
def perform (u : WorkUnit) (inputs : Inputs) : Except Crash StepResult :=
  match u.descriptor.violation? inputs with
  | some v => .ok ⟨refusedPath, .error (.invalid u.id v)⟩
  | none =>
    match u.check inputs with
    | .crashed crash => .error crash
    | .rejected reason => .ok ⟨refusedPath, .error (.invalid u.id (.selfCheckFailed u.id reason))⟩
    | .accepted => .ok (u.executeStep inputs)

/-- Performs a step, and takes a crash of the unit's own check for a failure of the work. -/
def performContained (u : WorkUnit) (inputs : Inputs) : StepResult :=
  match u.perform inputs with
  | .ok result => result
  | .error crash => ⟨[.failed], .error (.unitExecution u.id [crash.note])⟩

end WorkUnit

end Workplan
