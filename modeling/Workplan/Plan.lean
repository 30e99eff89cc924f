/-
# `Workplan.Plan` — plans

A plan lists the units to run, providers before consumers, and the levels whose units do not wait
for each other.  Where a required key has neither a value nor a provider there is no plan, and
neither where the units wait for each other in a circle; missing keys are reported first.
-/
import Workplan.Digest.Fingerprint
import Workplan.Graph.Build
import Workplan.Graph.Levels

namespace Workplan

/-- Units in an order in which they can run. -/
structure OrderedPlan where
  target : String
  steps : List String
  levels : List (List String)
deriving DecidableEq

/-- Why the units of a graph cannot be put in order. -/
inductive Infeasibility where
  | missing (keys : List String)
  | cyclic (members : List String)
deriving DecidableEq

def Infeasibility.message : Infeasibility → String
  | .missing keys => "unresolved dependencies: " ++ ", ".intercalate keys
  | .cyclic members => "dependency cycle detected involving: " ++ ", ".intercalate members

/-- The outcome of planning. -/
inductive Plan where
  | ordered (plan : OrderedPlan)
  | infeasible (reason : Infeasibility)
deriving DecidableEq

/-- The plan for a provider graph. -/
def ProviderGraph.toPlan (g : ProviderGraph) : Plan :=
  match g.missingKeys with
  | [] =>
    match g.layeredOrder with
    | .ok levels => .ordered { target := g.target, steps := levels.flatten, levels }
    | .error members => .infeasible (.cyclic members)
  | keys => .infeasible (.missing keys)

namespace Registry

/-- The plan for a target in a context. -/
def buildPlan (r : Registry) (target : String) (c : Context) : Except PlanError Plan :=
  (r.buildGraph target c).map ProviderGraph.toPlan

/-- The version of a unit, a question mark for one that is not registered. -/
def versionOf (r : Registry) (id : String) : String :=
  match r.get? id with
  | some u => u.version
  | none => "?"

/-- The fingerprint of a plan over the registered versions of its steps. -/
def fingerprint (r : Registry) (p : OrderedPlan) : String :=
  Digest.ofPlan p.target (p.steps.map fun id => (id, r.versionOf id))

end Registry

end Workplan
