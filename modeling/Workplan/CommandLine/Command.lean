/-
# `Workplan.CommandLine.Command` — the commands of the program

The first argument names a command; the rest are its arguments.
-/
import Workplan.CommandLine.Grammar

namespace Workplan.CommandLine

/-- A command with its arguments. -/
inductive Command where
  | init (path : String)
  | validate (file : String)
  | list (file : String) (bindings : List String) (actions json : Bool)
  | describe (file id : String) (json : Bool)
  | plan (file target : String) (bindings : List String)
  | run (file target : String) (bindings : List String) (state : String) (parallel json : Bool)
  | history (state : String) (limit : Nat)
deriving DecidableEq

namespace Command

def fileOption : OptionSpec := { name := "file", short := some 'f', kind := .path }

def contextOption : OptionSpec := { name := "context", short := some 'c', repeatable := true }

def stateOption : OptionSpec := { name := "state-dir", kind := .path }

def limitOption : OptionSpec := { name := "limit", short := some 'n', kind := .count }

/-- The manifest that is read where no other is named. -/
def manifestName : String := "capforge.yaml"

def fileOf (s : Scan) : String := (s.value? "file").getD manifestName

def stateOf (s : Scan) : String := (s.value? "state-dir").getD "state"

def readInit (args : List String) : Except UsageError Command := do
  let s ← Grammar.read { operands := [("path", .path)] } args
  .ok (.init ((s.value? "path").getD "."))

def readValidate (args : List String) : Except UsageError Command := do
  let s ← Grammar.read { options := [fileOption] } args
  .ok (.validate (fileOf s))

def readList (args : List String) : Except UsageError Command := do
  let s ← Grammar.read
    { options := [fileOption, contextOption], flags := ["act", "json"] } args
  .ok (.list (fileOf s) (s.valuesOf "context") (s.flags.contains "act") (s.flags.contains "json"))

def readDescribe (args : List String) : Except UsageError Command := do
  let s ← Grammar.read
    { options := [fileOption], flags := ["json"], operands := [("id", .text)] } args
  .ok (.describe (fileOf s) (← s.require "id") (s.flags.contains "json"))

def readPlan (args : List String) : Except UsageError Command := do
  let s ← Grammar.read
    { options := [fileOption, contextOption], operands := [("target", .text)] } args
  .ok (.plan (fileOf s) (← s.require "target") (s.valuesOf "context"))

def readRun (args : List String) : Except UsageError Command := do
  let s ← Grammar.read
    { options := [fileOption, contextOption, stateOption], flags := ["parallel", "json"]
      operands := [("target", .text)] } args
  .ok (.run (fileOf s) (← s.require "target") (s.valuesOf "context") (stateOf s)
    (s.flags.contains "parallel") (s.flags.contains "json"))

def readHistory (args : List String) : Except UsageError Command := do
  let s ← Grammar.read { options := [stateOption, limitOption] } args
  .ok (.history (stateOf s) (((s.value? "limit").bind count?).getD 10))

/-- The reader of the arguments of a named command. -/
def reader? (name : String) : Option (List String → Except UsageError Command) :=
  match name with
  | "init" => some readInit
  | "validate" => some readValidate
  | "list" => some readList
  | "describe" => some readDescribe
  | "plan" => some readPlan
  | "run" => some readRun
  | "history" => some readHistory
  | _ => none

/-- What is wrong with a first argument that names no command. -/
def firstError (name : String) (behindDashes : Bool) : UsageError :=
  match behindDashes, name.toList with
  | true, _ => if (reader? name).isSome then .unknownArgument else .invalidSubcommand
  | false, '-' :: _ :: _ =>
    if name == "-h" || name == "--help" then .helpRequested else .unknownArgument
  | false, _ => if name == "help" then .helpRequested else .invalidSubcommand

/-- The command that arguments ask for. -/
def read : List String → Except UsageError Command
  | [] => .error .missingSubcommand
  | "--" :: [] => .error .missingSubcommand
  | "--" :: name :: _ => .error (firstError name true)
  | name :: args =>
    match reader? name with
    | some reader => reader args
    | none => .error (firstError name false)

end Command

end Workplan.CommandLine
