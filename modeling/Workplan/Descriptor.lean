/-
# `Workplan.Descriptor` — what a unit declares

A descriptor is the contract of a unit: its identity, its typed inputs, the keys it produces, the
errors it may raise and the units it asks to run before it.  It is built step by step; an input
declared again replaces the earlier one in its place, an output declared again changes nothing.
-/
import Workplan.Verifier

namespace Workplan

/-- Capabilities look something up, actions change or create something. -/
inductive UnitKind where
  | capability
  | action
deriving DecidableEq

namespace UnitKind

def text : UnitKind → String
  | .capability => "capability"
  | .action => "action"

def parse? (text : String) : Option UnitKind :=
  if text = "capability" then some .capability
  else if text = "action" then some .action
  else none

theorem parse?_text (k : UnitKind) : parse? k.text = some k := by cases k <;> rfl

end UnitKind

/-- One declared input, under its name in the descriptor's table. -/
structure Property where
  type : TypeTag
  required : Bool := false
  description : Option String := none
  verifiers : List Verifier := []

/-- An error that a unit may raise. -/
structure RaisedError where
  code : String
  description : String
deriving DecidableEq

/-- A unit that must run first, for its effects: always, or when a key is bound to a truthy
value. -/
structure Request where
  id : String
  condition : Option String := none
deriving DecidableEq

/-- The contract of a unit. -/
structure Descriptor where
  id : String
  version : String
  kind : UnitKind := .capability
  name : String
  description : String := ""
  tags : List String := []
  inputs : Table Property := {}
  outputs : KeySet := {}
  raises : List RaisedError := []
  requests : List Request := []

namespace Descriptor

/-- The segments of an identifier, between its dots. -/
def segments (id : String) : List (List Char) := id.toList.splitOn '.'

/-- What stands after the last dot of an identifier. -/
def lastSegment (id : String) : String :=
  String.ofList (id.toList.reverse.takeWhile (· != '.')).reverse

/-- A contract without inputs and outputs, named by the last segment of its identifier. -/
def ofId (id version : String) : Descriptor where
  id := id
  version := version
  name := lastSegment id

/-- Declares an input; one declared before under this name is replaced in its place. -/
def withInput (d : Descriptor) (name : String) (property : Property) : Descriptor :=
  { d with inputs := d.inputs.insert name property }

/-- Declares an output key. -/
def withOutput (d : Descriptor) (key : String) : Descriptor :=
  { d with outputs := d.outputs.insert key }

/-- The names of the required inputs, in the order of declaration. -/
def requiredKeys (d : Descriptor) : List String :=
  (d.inputs.entries.filter fun e => e.2.required).map Prod.fst

/-- Whether the unit declares to produce a key. -/
def produces (d : Descriptor) (key : String) : Bool := d.outputs.contains key

end Descriptor

/-! ## JSON text -/

/-- The fields of an optional text, left out where there is none. -/
def optionalField (name : String) : Option String → List (String × Json)
  | none => []
  | some text => [(name, .str text)]

def Property.toJson (p : Property) : Json :=
  .obj ([("type", .str p.type.text), ("required", .bool p.required)] ++
    optionalField "description" p.description ++
    [("verify", Json.ofStrings (p.verifiers.map Verifier.name))])

def RaisedError.toJson (e : RaisedError) : Json :=
  .obj [("code", .str e.code), ("description", .str e.description)]

def Request.toJson (r : Request) : Json :=
  .obj ([("id", .str r.id)] ++ optionalField "condition" r.condition)

/-- The JSON document of a descriptor, inputs and outputs in the order of declaration. -/
def Descriptor.toJson (d : Descriptor) : Json :=
  .obj [("id", .str d.id), ("version", .str d.version), ("type", .str d.kind.text),
    ("name", .str d.name), ("description", .str d.description), ("tags", Json.ofStrings d.tags),
    ("inputs", .obj (d.inputs.entries.map fun e => (e.1, e.2.toJson))),
    ("outputs", Json.ofStrings d.outputs.toList),
    ("raises", .arr (d.raises.map RaisedError.toJson)),
    ("requests", .arr (d.requests.map Request.toJson))]

end Workplan
