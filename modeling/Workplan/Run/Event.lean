/-
# `Workplan.Run.Event` — what a run reports

A run reports events, which a journal keeps, and warnings, which go to the log.
-/
import Workplan.Graph.Build
import Workplan.Step
import Workplan.Text.Quoted

namespace Workplan

/-- An event of a run.  Durations are in seconds. -/
inductive RunEvent where
  | runStarted (run target planHash : String) (steps : UInt64)
  | stepStarted (run unit version : String)
  | stepSucceeded (run unit : String) (duration : Binary64) (outputs : List String)
  | stepFailed (run unit : String) (state : StepState) (error : String)
  | runCompleted (run target : String) (succeeded failed : UInt32) (total : Binary64)
deriving DecidableEq

/-- The run that an event belongs to. -/
def RunEvent.run : RunEvent → String
  | .runStarted run _ _ _ => run
  | .stepStarted run _ _ => run
  | .stepSucceeded run _ _ _ => run
  | .stepFailed run _ _ _ => run
  | .runCompleted run _ _ _ _ => run

/-- Something that does not stop the program but deserves notice. -/
inductive Warning where
  | blankId
  | keyAlreadyBound (key unit : String)
  | ambiguousProvider (choice : Ambiguity)
  | stepFailed (unit error : String)
  | journalFailed (error : String)
deriving DecidableEq

/-- The line of a warning: its message, then the values it is about. -/
def Warning.text : Warning → String
  | .blankId => "ignoring unit registration with empty id"
  | .keyAlreadyBound key unit =>
    "context key already bound; keeping first value key=" ++ key ++ " unit=" ++ unit
  | .ambiguousProvider a =>
    "multiple units produce the same key; using the first registered key=" ++ a.key ++
      " chosen=" ++ a.chosen ++ " candidates=" ++ Text.quotedList a.candidates
  | .stepFailed unit error => "step failed, aborting run unit=" ++ unit ++ " error=" ++ error
  | .journalFailed error => "failed to append run journal event error=" ++ error

/-- The warnings about the keys that a merge left alone. -/
def Merge.warnings (m : Merge) (writer : String) : List Warning :=
  m.discarded.map fun key => .keyAlreadyBound key writer

/-- One entry of the record of a run: an event, a warning, or the inputs handed to a unit. -/
inductive LogEntry where
  | event (event : RunEvent)
  | warning (warning : Warning)
  | call (unit : String) (inputs : Inputs)

end Workplan
