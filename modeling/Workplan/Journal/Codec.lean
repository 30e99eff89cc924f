/-
# `Workplan.Journal.Codec` — events as JSON text

An event is written as one object: the time first, then the name of the event under `event`, then
its fields in a fixed order.  Reading takes the fields in any order, ignores unknown ones, and
refuses an object in which a field that it needs is absent, repeated or of another type.
-/
import Workplan.Json.Printer
import Workplan.Json.Reader
import Workplan.Run.Event

namespace Workplan

/-- An event and the time at which it was reported. -/
structure TimedEvent where
  time : String
  event : RunEvent
deriving DecidableEq

namespace RunEvent

/-- The name of an event in data. -/
def name : RunEvent → String
  | .runStarted .. => "run_started"
  | .stepStarted .. => "step_started"
  | .stepSucceeded .. => "step_succeeded"
  | .stepFailed .. => "step_failed"
  | .runCompleted .. => "run_completed"

/-- The fields of an event after its name. -/
def fields : RunEvent → List (String × Json)
  | .runStarted run target planHash steps =>
    [("run_id", .str run), ("target", .str target), ("plan_hash", .str planHash),
      ("steps", .num (.ofUInt64 steps))]
  | .stepStarted run unit version =>
    [("run_id", .str run), ("unit", .str unit), ("version", .str version)]
  | .stepSucceeded run unit duration outputs =>
    [("run_id", .str run), ("unit", .str unit), ("duration_seconds", .num (.real duration)),
      ("outputs", Json.ofStrings outputs)]
  | .stepFailed run unit state error =>
    [("run_id", .str run), ("unit", .str unit), ("state", .str state.name), ("error", .str error)]
  | .runCompleted run target succeeded failed total =>
    [("run_id", .str run), ("target", .str target), ("succeeded", .num (.ofUInt32 succeeded)),
      ("failed", .num (.ofUInt32 failed)), ("total_seconds", .num (.real total))]

/-- The object of an event without a time. -/
def toJson (e : RunEvent) : Json := .obj (("event", .str e.name) :: e.fields)

/-! ## Reading -/

/-- The one field with this name. -/
def single? (name : String) (fields : List (String × Json)) : Option Json :=
  match fields.filter fun f => f.1 == name with
  | [(_, j)] => some j
  | _ => none

def string? (name : String) (fields : List (String × Json)) : Option String := do
  match ← single? name fields with
  | .str s => some s
  | _ => none

def number? (name : String) (fields : List (String × Json)) : Option Number := do
  match ← single? name fields with
  | .num n => some n
  | _ => none

def strings? (name : String) (fields : List (String × Json)) : Option (List String) := do
  match ← single? name fields with
  | .arr items => items.mapM Json.asString?
  | _ => none

/-- A state: its name, or an object with the name as its only field and nothing in it. -/
def state? (name : String) (fields : List (String × Json)) : Option StepState := do
  match ← single? name fields with
  | .str s => StepState.ofName? s
  | .obj [(s, .null)] => StepState.ofName? s
  | .obj [(s, .obj [])] => StepState.ofName? s
  | _ => none

/-- The names of the events, in the order of their numbers. -/
def names : List String :=
  ["run_started", "step_started", "step_succeeded", "step_failed", "run_completed"]

/-- The name of an event: written out, or as its number. -/
def tag? : Json → Option String
  | .str s => some s
  | .num (.int i _) => if 0 ≤ i then names[i.toNat]? else none
  | _ => none

/-- The event with a name, from the other fields of its object. -/
def ofFields? (name : String) (fs : List (String × Json)) : Option RunEvent :=
  if name = "run_started" then do
    some (.runStarted (← string? "run_id" fs) (← string? "target" fs) (← string? "plan_hash" fs)
      (← (← number? "steps" fs).toUInt64?))
  else if name = "step_started" then do
    some (.stepStarted (← string? "run_id" fs) (← string? "unit" fs) (← string? "version" fs))
  else if name = "step_succeeded" then do
    some (.stepSucceeded (← string? "run_id" fs) (← string? "unit" fs)
      (← (← number? "duration_seconds" fs).toBinary64?) (← strings? "outputs" fs))
  else if name = "step_failed" then do
    some (.stepFailed (← string? "run_id" fs) (← string? "unit" fs) (← state? "state" fs)
      (← string? "error" fs))
  else if name = "run_completed" then do
    some (.runCompleted (← string? "run_id" fs) (← string? "target" fs)
      (← (← number? "succeeded" fs).toUInt32?) (← (← number? "failed" fs).toUInt32?)
      (← (← number? "total_seconds" fs).toBinary64?))
  else none

/-- The event that an object holds. -/
def ofObject? (fields : List (String × Json)) : Option RunEvent := do
  let name ← tag? (← single? "event" fields)
  ofFields? name (fields.filter fun f => f.1 != "event")

/-- The event that a document holds. -/
def ofJson? : Json → Option RunEvent
  | .obj fields => ofObject? fields
  | _ => none

end RunEvent

namespace TimedEvent

def toJson (e : TimedEvent) : Json :=
  .obj (("ts", .str e.time) :: ("event", .str e.event.name) :: e.event.fields)

/-- The line of an event. -/
def text (e : TimedEvent) : String := e.toJson.compact

/-- The event that a document holds. -/
def ofJson? : Json → Option TimedEvent
  | .obj fields => do
    let time ← RunEvent.string? "ts" fields
    let event ← RunEvent.ofObject? (fields.filter fun f => f.1 != "ts")
    some ⟨time, event⟩
  | _ => none

/-- The event that a line holds. -/
def ofText? (line : String) : Option TimedEvent := (Json.parseDocument line).bind ofJson?

end TimedEvent

end Workplan
