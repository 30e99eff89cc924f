/-
# `Workplan.Shell.Basic` — running a script

A script is started with variables and files, and with nothing to read.  What it writes to its two
streams is collected as bytes and read as text afterwards.
-/
import Workplan.Script.Environment
import Workplan.Script.Output
import Workplan.Shell.Eval
import Workplan.Table
import Workplan.Text.Utf8

namespace Workplan.Shell

/-- The variables that every script inherits. -/
def inherited (files : FileTree) : List (String × String) :=
  [("PATH", "/usr/local/sbin:/usr/local/bin:/usr/sbin:/usr/bin:/sbin:/bin"), ("HOME", "/root"),
    ("PWD", "/" ++ "/".intercalate files.current)]

/-- The variables that the shell sets for itself. -/
def ownVariables : List (String × Variable) :=
  [("BASH", "/usr/bin/bash"), ("BASH_VERSION", "5.2.15(1)-release"), ("OPTIND", "1")].map
    fun (name, value) => (name, { value := bytesOf value })

/-- A variable as a script gets it: its name ends before the first equals sign. -/
def received (v : String × String) : String × String :=
  match v.1.splitOn "=" with
  | name :: first :: more => (name, "=".intercalate (first :: more) ++ "=" ++ v.2)
  | _ => v

/-- The machine on which a script starts. -/
def start (files : FileTree) (env : Environment) : Machine where
  world := { files, written := #[.empty, .empty], read := #[] }
  frame :=
    { bindings := ownVariables ++
        (Table.ofList (inherited files ++ env.entries.map received)).entries.map fun e =>
          (e.1, { value := bytesOf e.2, exported := true })
      channels := [(0, .nothing), (1, .written 0), (2, .written 1)] }
  documents := #[]

/-- How deep the running of a script may go, and how many rounds a loop may have. -/
def bound : Nat := 1000000

/-- The exit code with which control left a script; a signal leaves none. -/
def exitCode (m : Machine) : Except Jump Unit → Int
  | .ok () => m.frame.status
  | .error (.exit status) => status
  | .error .killed => -1
  | .error _ => m.frame.status

/-- Runs what the script asked for to be run in the end; the exit code stays, unless this ends by
itself. -/
def runAtExit (ending : Except Jump Unit) (m : Machine) : Except Jump Unit × Machine :=
  match ending, m.frame.atExit with
  | .error .killed, _ => (ending, m)
  | _, none => (ending, m)
  | _, some text =>
    let code := exitCode m ending
    match (Machine.runText text bound).run.run m with
    | (.ok (), after) => (.error (.exit code.toNat), after)
    | after => after

/-- Runs a script that could be started, and gives what it left together with the files after it. -/
def run (files : FileTree) (script : String) (env : Environment) : ScriptOutput × FileTree :=
  let (ending, m) := (Machine.runText script bound).run.run (start files env)
  let (ending, m) := runAtExit ending m
  let text (n : Nat) : String := Text.Utf8.lenient (m.world.written.getD n .empty)
  ({ exitCode := exitCode m ending, stdout := text 0, stderr := text 1 },
    { m.world.files with current := files.current })

/-- The number of bytes that one argument or variable may have. -/
def argumentLimit : Nat := 131071

/-- What keeps a script from being started. -/
def obstacle? (script : String) (env : Environment) : Option LaunchError :=
  let strings := script :: env.entries.map fun v => v.1 ++ "=" ++ v.2
  if strings.any fun s => s.toList.contains '\x00' then some .nulByte
  else if strings.any fun s => argumentLimit < s.utf8ByteSize then some .tooLong
  else none

/-- Starts a script and runs it to its end. -/
def launch (files : FileTree) (script : String) (env : Environment) :
    Except LaunchError ScriptOutput :=
  match obstacle? script env with
  | some e => .error e
  | none => .ok (run files script env).1

end Workplan.Shell
