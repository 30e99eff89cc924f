/-
# `Workplan.CommandUnit` — units that run scripts

A command unit hands its inputs to a script in variables: each under a name made of its key, and
all of them as one JSON object.  What the script writes becomes the outputs: a JSON object gives
its fields; any other text is the value of the only declared output.
-/
import Workplan.Json.Reader
import Workplan.Shell.Basic
import Workplan.WorkUnit

namespace Workplan

namespace Environment

/-- The text of an input in its variable: the text itself, or the JSON text of anything else. -/
def inputText (v : Value) : String :=
  match v.toJson with
  | .str s => s
  | j => j.compact

/-- The variable that holds all inputs. -/
def allInputs : String := "CAPFORGE_INPUTS"

/-- The variables for a unit with inputs: its identifier, every input, and all of them at once. -/
def ofInputs (unit : String) (inputs : Inputs) : Environment :=
  let e : Environment := ⟨[("CAPFORGE_UNIT", unit)]⟩
  let e := inputs.entries.foldl (fun e i => e.set (inputVariable i.1) (inputText i.2)) e
  e.set allInputs inputs.toJson.compact

end Environment

namespace CommandUnit

/-- The outputs in what a script wrote, or why there are none. -/
def readOutputs (declared : KeySet) (stdout : String) : Except String Outputs :=
  let text := Text.trim stdout
  match Json.parse text with
  | some (.obj fields) => .ok (Table.ofList (fields.map fun f => (f.1, .data f.2)))
  | _ =>
    match declared.toList with
    | [] => .ok {}
    | [key] => .ok (Table.ofList [(key, .ofString text)])
    | keys =>
      .error ("unit declares " ++ toString keys.length ++
        " outputs but stdout is not a JSON object")

/-- What comes of a script that has ended. -/
def executionOf (declared : KeySet) (out : ScriptOutput) : Execution :=
  if out.succeeded then
    match readOutputs declared out.stdout with
    | .ok outputs => .returned outputs
    | .error cause => .failed [cause]
  else .failed ["exit code " ++ toString out.exitCode ++ ": " ++ out.lastError]

/-- The work of a script on inputs; `files` are those that the script finds. -/
def execute (files : FileTree) (d : Descriptor) (script : String) (inputs : Inputs) : Execution :=
  match Shell.launch files script (.ofInputs d.id inputs) with
  | .error e => .failed [e.message]
  | .ok out => executionOf d.outputs out

end CommandUnit

/-- The unit that runs a script. -/
def WorkUnit.command (files : FileTree) (d : Descriptor) (script : String) : WorkUnit where
  descriptor := d
  execute := CommandUnit.execute files d script

end Workplan
