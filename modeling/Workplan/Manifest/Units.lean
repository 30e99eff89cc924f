/-
# `Workplan.Manifest.Units` — the registry of a manifest

Every unit of a manifest becomes a command unit, in the order of the manifest.  A unit without a
script, or with a verifier that is not in the catalog, ends the registration; both are problems
that checking the manifest finds as well.
-/
import Workplan.CommandUnit
import Workplan.Manifest.Check
import Workplan.Registry

namespace Workplan

namespace UnitSpec

/-- The verifiers with these names, or the first that is not in the catalog. -/
def resolveVerifiers (host : Host) (id key : String) :
    List String → Except Problem (List Verifier)
  | [] => .ok []
  | name :: rest =>
    match Catalog.resolve host name with
    | .error cause => .error (.verifier id key cause)
    | .ok v => (resolveVerifiers host id key rest).map (v :: ·)

/-- The property of an input. -/
def property (host : Host) (id key : String) (input : InputSpec) : Except Problem Property :=
  (resolveVerifiers host id key input.verify).map fun verifiers =>
    { type := input.type, required := input.required, description := input.description, verifiers }

/-- Declares inputs one after the other. -/
def declareInputs (host : Host) (id : String) (d : Descriptor) :
    List (String × InputSpec) → Except Problem Descriptor
  | [] => .ok d
  | (key, input) :: rest =>
    match property host id key input with
    | .error problem => .error problem
    | .ok p => declareInputs host id (d.withInput key p) rest

/-- The descriptor of a unit. -/
def descriptor (host : Host) (id : String) (u : UnitSpec) : Except Problem Descriptor :=
  let base := Descriptor.ofId id u.version
  let base :=
    { base with
      kind := u.kind
      name := u.name.getD base.name
      description := u.description.getD ""
      tags := u.tags }
  (declareInputs host id base u.inputs.entries).map fun d =>
    { u.outputs.foldl Descriptor.withOutput d with raises := u.raises, requests := u.requests }

/-- The unit that a manifest describes. -/
def toUnit (host : Host) (id : String) (u : UnitSpec) : Except Problem WorkUnit :=
  match u.script? with
  | none => .error (.noScript id)
  | some script => (descriptor host id u).map fun d => .command host.files d script

end UnitSpec

namespace Manifest

/-- Registers units one after the other. -/
def registerAll (host : Host) (r : Registry) :
    List (String × UnitSpec) → Except Problem Registry
  | [] => .ok r
  | (id, u) :: rest =>
    match u.toUnit host id with
    | .error problem => .error problem
    | .ok unit => registerAll host (r.register unit) rest

/-- The registry of a manifest, whose units run on a host. -/
def registry (m : Manifest) (host : Host) : Except Problem Registry :=
  registerAll host {} m.units.entries

end Manifest

end Workplan
