/-
# `Workplan.StepState` — the life cycle of a step

A step waits, is validated, runs and ends.  `advance?` is the table of moves that the life cycle
allows; both ways to fail, before and after the work has started, end in the same state.
-/

namespace Workplan

/-- Where a step of a run stands. -/
inductive StepState where
  | pending
  | validating
  | valid
  | invalid
  | executing
  | succeeded
  | failed
deriving DecidableEq

namespace StepState

/-- All states, in the order of the life cycle. -/
def all : List StepState :=
  [.pending, .validating, .valid, .invalid, .executing, .succeeded, .failed]

/-- The name of a state in data. -/
def name : StepState → String
  | .pending => "pending"
  | .validating => "validating"
  | .valid => "valid"
  | .invalid => "invalid"
  | .executing => "executing"
  | .succeeded => "succeeded"
  | .failed => "failed"

/-- The name of a state in reports. -/
def text : StepState → String
  | .pending => "PENDING"
  | .validating => "VALIDATING"
  | .valid => "VALID"
  | .invalid => "INVALID"
  | .executing => "EXECUTING"
  | .succeeded => "SUCCEEDED"
  | .failed => "FAILED"

/-- The state with a given name. -/
def ofName? (name : String) : Option StepState := all.find? fun s => s.name = name

theorem ofName?_name (s : StepState) : ofName? s.name = some s := by cases s <;> rfl

/-- Whether the life cycle ends here. -/
def terminal : StepState → Bool
  | .succeeded | .failed => true
  | _ => false

/-- Whether the life cycle allows a move. -/
def allows : StepState → StepState → Bool
  | .pending, .validating => true
  | .validating, .valid => true
  | .validating, .invalid => true
  | .valid, .executing => true
  | .invalid, .failed => true
  | .executing, .succeeded => true
  | .executing, .failed => true
  | _, _ => false

/-- The next state, if the life cycle allows the move. -/
def advance? (s next : StepState) : Option StepState := if s.allows next then some next else none

/-- The message about a move that the life cycle refuses. -/
def illegalMessage (s next : StepState) : String :=
  "illegal step transition " ++ s.text ++ " -> " ++ next.text

end StepState

end Workplan
