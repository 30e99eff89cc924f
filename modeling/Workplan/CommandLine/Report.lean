/-
# `Workplan.CommandLine.Report` — what the commands print

Every text is a list of lines.
-/
import Workplan.Journal.Codec
import Workplan.Json.Printer
import Workplan.Run.Basic

namespace Workplan.CommandLine

def commaList (texts : List String) : String := ", ".intercalate texts

/-- The lines of units in a list of them. -/
def listing (name : String) (units : List WorkUnit) : List String :=
  if units.isEmpty then ["No units match the supplied context."]
  else
    (name ++ " (" ++ toString units.length ++ " units)") ::
      units.flatMap fun u =>
        let d := u.descriptor
        ("  [" ++ d.kind.text ++ "] " ++ d.id ++ " v" ++ d.version) ::
          if d.description.isEmpty then [] else ["      " ++ d.description]

/-- The line of an input, with the units that produce it. -/
def inputLine (r : Registry) (key : String) (p : Property) : String :=
  let verifiers := p.verifiers.map Verifier.name
  let providers := r.providersOf key
  "    " ++ key ++ ": " ++ p.type.text ++ (if p.required then " (required)" else "") ++
    (if verifiers.isEmpty then "" else " verify [" ++ commaList verifiers ++ "]") ++
    (if providers.isEmpty then "" else " <- " ++ commaList providers)

def requestLine (r : Request) : String :=
  "  Requests: " ++ r.id ++
    match r.condition with
    | some key => " (when " ++ key ++ ")"
    | none => ""

/-- The lines of a contract. -/
def description (r : Registry) (d : Descriptor) : List String :=
  [d.id ++ " v" ++ d.version ++ " [" ++ d.kind.text ++ "]", "  Name: " ++ d.name] ++
    (if d.description.isEmpty then [] else ["  Description: " ++ d.description]) ++
    (if d.tags.isEmpty then [] else ["  Tags: " ++ commaList d.tags]) ++
    "  Inputs:" :: d.inputs.entries.map (fun e => inputLine r e.1 e.2) ++
    ["  Outputs: " ++ commaList d.outputs.toList] ++
    d.requests.map requestLine ++
    d.raises.map fun e => "  Raises: " ++ e.code ++ " " ++ e.description

/-- A number with blanks in front, at least two characters long. -/
def twoWide (n : Nat) : String := if n < 10 then " " ++ toString n else toString n

/-- The steps of levels, numbered through, each with the number of its level. -/
def numberedSteps (levels : List (List String)) : List (Nat × Nat × String) :=
  (levels.zipIdx.flatMap fun level => level.1.map fun id => (level.2, id)).zipIdx.map
    fun step => (step.2 + 1, step.1)

/-- The lines of a plan. -/
def planLines (r : Registry) (p : OrderedPlan) : List String :=
  ("Planning: " ++ p.target ++ " (" ++ toString p.steps.length ++ " steps)") ::
    (numberedSteps p.levels).map (fun (n, depth, id) =>
      let outputs := ((r.get? id).map fun u => u.descriptor.outputs.toList).getD []
      "  " ++ twoWide n ++ ". [L" ++ toString depth ++ "] " ++ id ++ " -> " ++
        if outputs.isEmpty then "(no outputs)" else commaList outputs) ++
    ["", "Fingerprint: " ++ r.fingerprint p]

/-- The line of an edge from a missing key or unit. -/
def missingLine? (e : Edge) : Option String :=
  match e.source, e.target with
  | .missing key, .unit consumer =>
    let how := if e.label = .requested then "requested" else "required"
    some ("  - " ++ key ++ " (" ++ how ++ " by " ++ consumer ++ ")")
  | _, _ => none

/-- The lines about a target that cannot be planned. -/
def infeasibleLines (g : ProviderGraph) (reason : Infeasibility) : List String :=
  ("Plan infeasible: " ++ reason.message) ::
    match reason with
    | .missing _ => g.edges.filterMap missingLine?
    | .cyclic _ => []

/-- A duration in seconds. -/
def seconds (x : Binary64) : String := x.fixedText 2 ++ "s"

def stepLine (s : StepRecord) : String :=
  "  " ++ s.state.text ++ " " ++ s.unit ++ " (" ++ seconds (.zero false) ++ ") -> " ++
    commaList s.bound ++
    if s.discarded.isEmpty then "" else " (kept earlier: " ++ commaList s.discarded ++ ")"

/-- The lines of a run that completed. -/
def runLines (r : RunReport) : List String :=
  ("Run " ++ r.run ++ " (" ++ r.target ++ ")") :: r.steps.map stepLine ++
    ["", "Run complete: " ++ toString r.succeeded ++ " step(s) in " ++ seconds (.zero false) ++ "."]

/-- The line of a run in the journal, if an event closes one. -/
def historyLine? (e : TimedEvent) : Option String :=
  match e.event with
  | .runCompleted run target succeeded failed total =>
    some (e.time ++ " " ++ run ++ " " ++ target ++ " [" ++
      (if failed = 0 then "ok" else "FAILED") ++ "] " ++ toString succeeded.toNat ++
      " step(s) (" ++ seconds total ++ ")")
  | _ => none

/-- The lines of the last runs in the journal. -/
def historyLines (events : List TimedEvent) (limit : Nat) : List String :=
  match events.filterMap historyLine? with
  | [] => ["No runs recorded. Run `capforge run` first."]
  | runs => runs.drop (runs.length - limit)

end Workplan.CommandLine
