/-
# `Workplan.Manifest.Check` — what is wrong with a manifest

A manifest that can be read may still ask for what cannot be: identifiers that are no dotted paths,
units without scripts, inputs that a script cannot be handed, unknown verifiers, requests for
units that are not there.  All problems are found, unit by unit in the order of the manifest.
-/
import Workplan.Catalog
import Workplan.Manifest.Basic

namespace Workplan

/-- A problem of a manifest. -/
inductive Problem where
  | version (found : String)
  | emptyName
  | notDotted (unit : String)
  | noScript (unit : String)
  | emptyInput (unit : String)
  | portInput (unit input interface : String)
  | verifier (unit input : String) (cause : CatalogError)
  | needsOwnOutput (unit key : String)
  | emptyOutput (unit : String)
  | repeatedOutput (unit key : String)
  | requestsItself (unit : String)
  | requestsUnknown (unit request : String)
deriving DecidableEq

def Problem.message : Problem → String
  | .version found => "version must be \"1.0\", got \"" ++ found ++ "\""
  | .emptyName => "name must not be empty"
  | .notDotted unit => "unit id '" ++ unit ++ "' is not a dotted path"
  | .noScript unit => "unit '" ++ unit ++ "' has no run script"
  | .emptyInput unit => "unit '" ++ unit ++ "' declares an input with an empty name"
  | .portInput unit input interface =>
    "unit '" ++ unit ++ "' input '" ++ input ++ "' has port type '" ++ interface ++
      "', which shell units cannot receive"
  | .verifier unit input cause =>
    "unit '" ++ unit ++ "' input '" ++ input ++ "': " ++ cause.message
  | .needsOwnOutput unit key => "unit '" ++ unit ++ "' requires its own output '" ++ key ++ "'"
  | .emptyOutput unit => "unit '" ++ unit ++ "' declares an empty output key"
  | .repeatedOutput unit key => "unit '" ++ unit ++ "' declares output '" ++ key ++ "' twice"
  | .requestsItself unit => "unit '" ++ unit ++ "' requests itself"
  | .requestsUnknown unit request =>
    "unit '" ++ unit ++ "' requests unknown unit '" ++ request ++ "'"

/-- A list with a problem if a condition holds. -/
def Problem.given (b : Bool) (p : Problem) : List Problem := if b then [p] else []

/-- Whether a text consists of segments with points between them, none empty or with blanks. -/
def isDottedPath (id : String) : Bool :=
  !id.isEmpty &&
    (Descriptor.segments id).all fun segment => !segment.isEmpty && !segment.any Text.isBlank

namespace UnitSpec

/-- The script of a unit, unless it is blank. -/
def script? (u : UnitSpec) : Option String := u.run.filter fun s => !Text.allBlank s

/-- The problems of one input. -/
def inputProblems (host : Host) (id : String) (u : UnitSpec) (key : String)
    (input : InputSpec) : List Problem :=
  Problem.given (Text.allBlank key) (.emptyInput id) ++
    (match input.type with
      | .port interface => [.portInput id key interface]
      | _ => []) ++
    input.verify.filterMap (fun name =>
      match Catalog.resolve host name with
      | .ok _ => none
      | .error cause => some (.verifier id key cause)) ++
    Problem.given (input.required && u.outputs.contains key) (.needsOwnOutput id key)

/-- The problems of a list of outputs after those already seen. -/
def outputProblems (id : String) : List String → List String → List Problem
  | _, [] => []
  | seen, key :: rest =>
    if Text.allBlank key then .emptyOutput id :: outputProblems id seen rest
    else if seen.contains key then .repeatedOutput id key :: outputProblems id seen rest
    else outputProblems id (key :: seen) rest

/-- The problem of one request. -/
def requestProblem (id : String) (known : List String) (r : Request) : List Problem :=
  if r.id = id then [.requestsItself id]
  else Problem.given (!known.contains r.id) (.requestsUnknown id r.id)

/-- The problems of one unit. -/
def problems (host : Host) (known : List String) (id : String) (u : UnitSpec) :
    List Problem :=
  Problem.given (!isDottedPath id) (.notDotted id) ++
    Problem.given u.script?.isNone (.noScript id) ++
    u.inputs.entries.flatMap (fun e => inputProblems host id u e.1 e.2) ++
    outputProblems id [] u.outputs ++
    u.requests.flatMap (requestProblem id known)

end UnitSpec

namespace Manifest

/-- All problems that a manifest has on a host. -/
def problems (m : Manifest) (host : Host) : List Problem :=
  Problem.given (m.version != "1.0") (.version m.version) ++
    Problem.given (Text.allBlank m.name) .emptyName ++
    m.units.entries.flatMap fun e => e.2.problems host m.units.keys e.1

end Manifest

end Workplan
