/-
# `Workplan.Script.Output` — what a script leaves behind

A script that has ended leaves its exit code and all that it wrote.  The code is -1 if a signal
ended it.
-/
import Workplan.Text.Blank
import Workplan.Text.Lines

namespace Workplan

/-- The exit code of a script and the texts that it wrote. -/
structure ScriptOutput where
  exitCode : Int
  stdout : String
  stderr : String
deriving DecidableEq

namespace ScriptOutput

def succeeded (o : ScriptOutput) : Bool := o.exitCode == 0

/-- The last line of the error stream that is not blank, trimmed; it stands for the whole stream
in messages. -/
def lastError (o : ScriptOutput) : String :=
  ((((Text.lines o.stderr).reverse.map Text.trim).find? fun line => !line.isEmpty)).getD ""

end ScriptOutput

/-- Why a script was not started. -/
inductive LaunchError where
  | nulByte
  | tooLong
deriving DecidableEq

def LaunchError.message : LaunchError → String
  | .nulByte => "failed to spawn bash: nul byte found in provided data"
  | .tooLong => "failed to spawn bash: Argument list too long (os error 7)"

end Workplan
