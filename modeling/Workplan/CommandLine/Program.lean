/-
# `Workplan.CommandLine.Program` — what the commands do

A command works on files, prints lines to two streams, and may end with an error.  What was
printed and written before the error stays.
-/
import Workplan.CommandLine.Command
import Workplan.CommandLine.Report
import Workplan.CommandLine.Template
import Workplan.Journal.Basic
import Workplan.Manifest.Reader
import Workplan.Manifest.Units

namespace Workplan.CommandLine

/-- Why a command ended early. -/
inductive CommandError where
  | alreadyThere (path : String)
  | noStateDirectory (cause : FileError)
  | cannotWrite (path : String) (cause : FileError)
  | cannotRead (path : String) (cause : FileError)
  | manifest (fault : ManifestFault)
  | problems (count : Nat)
  | notValid
  | registration (problem : Problem)
  | binding (error : BindingError)
  | unknownUnit (id : String)
  | noPlan (target : String)
  | run (error : RunError)
  | crashed (crash : Crash)
  | journal (error : Journal.Error)
deriving DecidableEq

def CommandError.message : CommandError → String
  | .alreadyThere path => path ++ " already exists"
  | .noStateDirectory cause => "cannot create state dir: " ++ cause.message
  | .cannotWrite path cause => "cannot write " ++ path ++ ": " ++ cause.message
  | .cannotRead path cause => "failed to read " ++ path ++ ": " ++ cause.message
  | .manifest fault => fault.message
  | .problems count => toString count ++ " validation error(s)"
  | .notValid => "validation failed"
  | .registration problem => problem.message
  | .binding error => error.message
  | .unknownUnit id => "unit '" ++ id ++ "' not found in registry"
  | .noPlan target => "cannot plan '" ++ target ++ "'"
  | .run error => error.message
  | .crashed crash => crash.note
  | .journal error => error.message

/-- What a command is given besides its arguments: a name for the run that it may begin, and the
time. -/
structure Setting where
  run : String
  time : String

/-- Files, and what has been printed. -/
structure Console where
  files : FileTree
  stdout : String := ""
  stderr : String := ""

abbrev Program := ExceptT CommandError (StateM Console)

namespace Program

def say (lines : List String) : Program Unit :=
  modify fun c => { c with stdout := c.stdout ++ String.join (lines.map (· ++ "\n")) }

def warn (lines : List String) : Program Unit :=
  modify fun c => { c with stderr := c.stderr ++ String.join (lines.map (· ++ "\n")) }

def files : Program FileTree := do pure (← get).files

/-- The host that the units of manifests run on. -/
def host : Program Host := do pure (.ofFiles (← files))

def setFiles (t : FileTree) : Program Unit := modify fun c => { c with files := t }

/-- Goes on with a result, or ends with an error made of the one that it holds. -/
def orEnd {ε α : Type} (r : Except ε α) (error : ε → CommandError) : Program α :=
  match r with
  | .ok a => pure a
  | .error e => throw (error e)

/-- Makes a new catalog in a directory. -/
def init (path : String) : Program Unit := do
  let manifest := FileTree.joinPath path Command.manifestName
  if (← files).exists? manifest then throw (.alreadyThere manifest)
  let state := FileTree.joinPath path "state"
  setFiles (← orEnd ((← files).makeDirectories state) .noStateDirectory)
  setFiles (← orEnd ((← files).write manifest template.toUTF8) (.cannotWrite manifest))
  say ["Initialized capforge catalog at " ++ path, "  Created: " ++ manifest,
    "  Created: " ++ state ++ "/"]

/-- Reads the manifest in a file. -/
def readManifest (file : String) : Program Manifest := do
  let text ← orEnd ((← files).readText file) (.cannotRead file)
  orEnd (Manifest.parse text) .manifest

/-- Prints problems. -/
def warnOf (problems : List Problem) : Program Unit :=
  warn (problems.map fun p => "  ERROR: " ++ p.message)

/-- Checks a manifest. -/
def validate (file : String) : Program Unit := do
  let m ← readManifest file
  match m.problems (← host) with
  | [] => do
    let actions := m.units.values.countP fun u => u.kind == .action
    say ["OK: " ++ m.name ++ " (" ++ toString (m.units.size - actions) ++ " capabilities, " ++
      toString actions ++ " actions)"]
  | problems => do
    warnOf problems
    throw (.problems problems.length)

/-- Reads a manifest without problems, and registers its units. -/
def load (file : String) : Program (Manifest × Registry) := do
  let m ← readManifest file
  match m.problems (← host) with
  | [] => do pure (m, ← orEnd (m.registry (← host)) .registration)
  | problems => do
    warnOf problems
    throw .notValid

/-- The context that arguments bind. -/
def contextOf (m : Manifest) (bindings : List String) : Program Context := do
  let pairs ← bindings.mapM fun arg => orEnd (parseBinding arg) .binding
  pure (pairs.foldl (fun c b => c.insert b.1 b.2) { policy := m.policy.bindings })

/-- The units that can run on the keys of a context; all of them where it is empty. -/
def matching (r : Registry) (c : Context) (actions : Bool) : List WorkUnit :=
  if c.values.isEmpty then
    r.units.values.filter fun u => actions || u.descriptor.kind == .capability
  else
    r.byAttributesOfKind c.keys .capability ++
      if actions then r.byAttributesOfKind c.keys .action else []

def list (file : String) (bindings : List String) (actions json : Bool) : Program Unit := do
  let (m, r) ← load file
  let c ← contextOf m bindings
  let units := matching r c actions
  if json then say [(Json.arr (units.map fun u => u.descriptor.toJson)).indented]
  else say (listing m.name units)

def describe (file id : String) (json : Bool) : Program Unit := do
  let (_, r) ← load file
  match r.get? id with
  | none => throw (.unknownUnit id)
  | some u =>
    if json then say [u.descriptor.toJson.indented] else say (description r u.descriptor)

/-- The plan for a target; a reason why there is none is printed. -/
def planFor (r : Registry) (target : String) (c : Context) : Program OrderedPlan := do
  match r.buildGraph target c with
  | .error _ => throw (.unknownUnit target)
  | .ok g =>
    match g.toPlan with
    | .ordered p => pure p
    | .infeasible reason => do
      say (infeasibleLines g reason)
      throw (.noPlan target)

def plan (file target : String) (bindings : List String) : Program Unit := do
  let (m, r) ← load file
  let c ← contextOf m bindings
  say (planLines r (← planFor r target c))

/-- Appends the events of a run to the journal; where that fails the run goes on. -/
def keepJournal (state time : String) (log : List LogEntry) : Program Unit :=
  log.forM fun entry => do
    match entry with
    | .event e => setFiles (Journal.append (← files) state ⟨time, e⟩).1
    | _ => pure ()

def run (setting : Setting) (file target : String) (bindings : List String) (state : String)
    (parallel json : Bool) : Program Unit := do
  let (m, r) ← load file
  let c ← contextOf m bindings
  let p ← planFor r target c
  let outcome :=
    if parallel || m.policy.parallel then r.runPlanParallel setting.run p c
    else r.runPlan setting.run p c
  if m.policy.journal then keepJournal state setting.time outcome.log
  match outcome.ending with
  | .crashed crash => throw (.crashed crash)
  | .failed error => throw (.run error)
  | .completed report =>
    if json then say [report.context.values.toJson.indented] else say (runLines report)

def history (state : String) (limit : Nat) : Program Unit := do
  say (historyLines (← orEnd (Journal.read (← files) state) .journal) limit)

/-- Does what a command says. -/
def ofCommand (setting : Setting) : Command → Program Unit
  | .init path => init path
  | .validate file => validate file
  | .list file bindings actions json => list file bindings actions json
  | .describe file id json => describe file id json
  | .plan file target bindings => plan file target bindings
  | .run file target bindings state parallel json =>
    run setting file target bindings state parallel json
  | .history state limit => history state limit

end Program

/-- Runs a command on files. -/
def execute (setting : Setting) (files : FileTree) (c : Command) :
    Except CommandError Unit × Console :=
  StateT.run (ExceptT.run (Program.ofCommand setting c)) { files }

end Workplan.CommandLine
