/-
# `Workplan.Run.Basic` — running a plan

A run resolves all steps of a plan first and then performs them: one after the other, or level by
level.  Level by level, all units of a level are handed the values that were bound before it, and
their outputs are merged in the order of the level once all of them have ended.  The first failure
ends the run: a step that failed, or a key bound twice under the strict policy.  Nothing is tried
again and nothing is undone.

The record of a run lists what happened in order.  Runs have no clock: every duration is zero.
-/
import Workplan.Plan
import Workplan.Run.Event

namespace Workplan

/-- What a run keeps of a step that succeeded. -/
structure StepRecord where
  unit : String
  state : StepState
  bound : List String
  discarded : List String
deriving DecidableEq

/-- Why a run failed. -/
inductive RunError where
  | unitNotFound (id : String)
  | step (unit : String) (completed : Nat) (cause : StepError)
  | duplicateBinding (key unit : String)
deriving DecidableEq

def RunError.message : RunError → String
  | .unitNotFound id => "unit '" ++ id ++ "' not found in registry"
  | .step unit completed cause =>
    "step '" ++ unit ++ "' failed after " ++ toString completed ++ " completed step(s): " ++
      cause.message
  | .duplicateBinding key unit => "unit '" ++ unit ++ "' rebinds context key '" ++ key ++ "'"

/-- The report of a run that completed. -/
structure RunReport where
  run : String
  target : String
  planHash : String
  steps : List StepRecord
  context : Context

/-- How many steps ended in success. -/
def RunReport.succeeded (r : RunReport) : Nat := r.steps.countP fun s => s.state = .succeeded

/-- How a run ends: with a report, with an error, or by a crash that nothing contains. -/
inductive RunEnding where
  | completed (report : RunReport)
  | failed (error : RunError)
  | crashed (crash : Crash)

/-- A run as a whole: its record and its ending. -/
structure RunOutcome where
  log : List LogEntry
  ending : RunEnding

/-- A run under way. -/
structure Run where
  run : String
  target : String
  planHash : String
  context : Context
  steps : List StepRecord := []
  log : List LogEntry := []

namespace Run

def record (r : Run) (entries : List LogEntry) : Run := { r with log := r.log ++ entries }

/-- Begins the run of a plan. -/
def begin (reg : Registry) (run : String) (p : OrderedPlan) (c : Context) : Run :=
  let planHash := reg.fingerprint p
  { run, target := p.target, planHash, context := c
    log := [.event (.runStarted run p.target planHash p.steps.length.toUInt64)] }

/-- The inputs that a unit is handed now. -/
def inputsFor (r : Run) (u : WorkUnit) : Inputs := r.context.slice u.descriptor

/-- Reports the start of a unit. -/
def started (r : Run) (u : WorkUnit) : Run :=
  r.record [.event (.stepStarted r.run u.id u.version)]

/-- The event that closes a run. -/
def completedEvent (r : Run) (failed : UInt32) : LogEntry :=
  .event (.runCompleted r.run r.target r.steps.length.toUInt32 failed (.zero false))

/-- Closes a run that failed at a step. -/
def fail (r : Run) (u : WorkUnit) (state : StepState) (text : String) : Run :=
  r.record [.event (.stepFailed r.run u.id state text), r.completedEvent 1]

/-- Takes in the result of a step: the run goes on, or it ends with an error. -/
def finish (r : Run) (u : WorkUnit) (result : StepResult) : Run × Option RunError :=
  match result.outcome with
  | .error cause =>
    let r := r.record [.warning (.stepFailed u.id cause.message)]
    (r.fail u result.state cause.message, some (.step u.id r.steps.length cause))
  | .ok outputs =>
    let m := r.context.merge outputs
    let r := (r.record ((m.warnings u.id).map .warning))
    let r := { r with context := { r.context with values := m.values } }
    match m.conflict with
    | some key =>
      let error := RunError.duplicateBinding key u.id
      (r.fail u result.state error.message, some error)
    | none =>
      let r := r.record [.event (.stepSucceeded r.run u.id (.zero false) outputs.keys)]
      ({ r with steps := r.steps ++ [⟨u.id, result.state, m.bound, m.discarded⟩] }, none)

/-- Closes a run all of whose steps succeeded. -/
def complete (r : Run) : RunOutcome where
  log := r.log ++ [r.completedEvent 0]
  ending := .completed ⟨r.run, r.target, r.planHash, r.steps, r.context⟩

/-- Performs units one after the other. -/
def sequence : List WorkUnit → Run → RunOutcome
  | [], r => r.complete
  | u :: rest, r =>
    let inputs := r.inputsFor u
    let r := (r.started u).record [.call u.id inputs]
    match u.perform inputs with
    | .error crash => ⟨r.log, .crashed crash⟩
    | .ok result =>
      match r.finish u result with
      | (r, some error) => ⟨r.log, .failed error⟩
      | (r, none) => sequence rest r

/-- Takes in the results of a level in order, up to the first failure. -/
def finishAll : List (WorkUnit × StepResult) → Run → Run × Option RunError
  | [], r => (r, none)
  | (u, result) :: rest, r =>
    match r.finish u result with
    | (r, some error) => (r, some error)
    | (r, none) => finishAll rest r

/-- Performs the units of one level, all of them on the values bound before it. -/
def performLevel (r : Run) (units : List WorkUnit) : Run × Option RunError :=
  let jobs := units.map fun u => (u, r.inputsFor u)
  let r := units.foldl started r
  let r := r.record (jobs.map fun job => .call job.1.id job.2)
  finishAll (jobs.map fun job => (job.1, job.1.performContained job.2)) r

/-- Performs levels one after the other. -/
def levelByLevel : List (List WorkUnit) → Run → RunOutcome
  | [], r => r.complete
  | level :: rest, r =>
    match r.performLevel level with
    | (r, some error) => ⟨r.log, .failed error⟩
    | (r, none) => levelByLevel rest r

end Run

namespace Registry

/-- The units of the steps of a plan, or the first step that is not registered. -/
def resolveSteps (reg : Registry) : List String → Except RunError (List WorkUnit)
  | [] => .ok []
  | id :: rest =>
    match reg.get? id with
    | none => .error (.unitNotFound id)
    | some u => (reg.resolveSteps rest).map (u :: ·)

/-- Runs a plan one step after the other. -/
def runPlan (reg : Registry) (run : String) (p : OrderedPlan) (c : Context) : RunOutcome :=
  match reg.resolveSteps p.steps with
  | .error error => ⟨[], .failed error⟩
  | .ok units => Run.sequence units (Run.begin reg run p c)

/-- The units of a level, among those that the steps of the plan name. -/
def levelUnits (units : List WorkUnit) (level : List String) : List WorkUnit :=
  level.filterMap fun id => units.find? fun u => u.id = id

/-- Runs a plan level by level. -/
def runPlanParallel (reg : Registry) (run : String) (p : OrderedPlan) (c : Context) :
    RunOutcome :=
  match reg.resolveSteps p.steps with
  | .error error => ⟨[], .failed error⟩
  | .ok units => Run.levelByLevel (p.levels.map (levelUnits units)) (Run.begin reg run p c)

end Registry

end Workplan
