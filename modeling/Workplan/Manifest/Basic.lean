/-
# `Workplan.Manifest.Basic` — manifests

A manifest names a catalog of units that run shell scripts, with the policy for running them.  Its
units are a table: their order decides which of several producers of a key is used.
-/
import Workplan.Context

namespace Workplan

/-- A declared input of a unit in a manifest. -/
structure InputSpec where
  type : TypeTag
  required : Bool := false
  description : Option String := none
  verify : List String := []

/-- A unit in a manifest. -/
structure UnitSpec where
  kind : UnitKind := .capability
  version : String := "0.1.0"
  name : Option String := none
  description : Option String := none
  tags : List String := []
  inputs : Table InputSpec := {}
  outputs : List String := []
  raises : List RaisedError := []
  requests : List Request := []
  run : Option String := none

/-- How the units of a manifest are run. -/
structure RunPolicy where
  bindings : BindingPolicy := .firstWins
  journal : Bool := true
  parallel : Bool := false
deriving DecidableEq

/-- A manifest. -/
structure Manifest where
  version : String
  name : String
  description : Option String := none
  policy : RunPolicy := {}
  units : Table UnitSpec := {}

/-! ## JSON text -/

/-- A text, or null where there is none. -/
def textOrNull : Option String → Json
  | none => .null
  | some text => .str text

def InputSpec.toJson (i : InputSpec) : Json :=
  .obj [("type", .str i.type.text), ("required", .bool i.required),
    ("description", textOrNull i.description), ("verify", Json.ofStrings i.verify)]

def UnitSpec.toJson (u : UnitSpec) : Json :=
  .obj [("kind", .str u.kind.text), ("version", .str u.version), ("name", textOrNull u.name),
    ("description", textOrNull u.description), ("tags", Json.ofStrings u.tags),
    ("inputs", .obj (u.inputs.entries.map fun e => (e.1, e.2.toJson))),
    ("outputs", Json.ofStrings u.outputs), ("raises", .arr (u.raises.map RaisedError.toJson)),
    ("requests", .arr (u.requests.map Request.toJson)), ("run", textOrNull u.run)]

def RunPolicy.toJson (p : RunPolicy) : Json :=
  .obj [("bindings", .str p.bindings.text), ("journal", .bool p.journal),
    ("parallel", .bool p.parallel)]

/-- The JSON document of a manifest, with every field. -/
def Manifest.toJson (m : Manifest) : Json :=
  .obj [("version", .str m.version), ("name", .str m.name),
    ("description", textOrNull m.description), ("policy", m.policy.toJson),
    ("units", .obj (m.units.entries.map fun e => (e.1, e.2.toJson)))]

end Workplan
