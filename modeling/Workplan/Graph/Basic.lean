/-
# `Workplan.Graph.Basic` — graphs of providers and consumers

The nodes are units, keys that the context provides and keys that nothing provides; an edge
points from a provider to its consumer and says what for.  Nodes and edges stand in the order in
which they were first added, each once.
-/

namespace Workplan

/-- A node of a provider graph. -/
inductive ProviderGraph.Node where
  | unit (id : String)
  | context (key : String)
  | missing (key : String)
deriving DecidableEq

namespace ProviderGraph.Node

def text : Node → String
  | .unit id => "unit:" ++ id
  | .context key => "context:" ++ key
  | .missing key => "missing:" ++ key

/-- The identifier of a unit node. -/
def unit? : Node → Option String
  | .unit id => some id
  | _ => none

/-- The key of a node that nothing provides. -/
def missing? : Node → Option String
  | .missing key => some key
  | _ => none

end ProviderGraph.Node

/-- What an edge stands for: a value of the context, an output of a unit, a key without provider,
or a request to run first. -/
inductive EdgeLabel where
  | provides
  | providesKey (key : String)
  | required
  | requested
deriving DecidableEq

def EdgeLabel.text : EdgeLabel → String
  | .provides => "provides"
  | .providesKey key => "provides:" ++ key
  | .required => "required"
  | .requested => "requested"

/-- An edge from a provider to a consumer. -/
structure Edge where
  source : ProviderGraph.Node
  target : ProviderGraph.Node
  label : EdgeLabel
deriving DecidableEq

/-- A graph of providers for one target. -/
structure ProviderGraph where
  target : String
  nodes : List ProviderGraph.Node
  edges : List Edge

namespace ProviderGraph

/-- Adds an element at the end, unless the list holds it. -/
def addNew {α : Type} [DecidableEq α] (xs : List α) (x : α) : List α :=
  if x ∈ xs then xs else xs ++ [x]

/-- The graph of a target alone. -/
def ofTarget (target : String) : ProviderGraph := ⟨target, [.unit target], []⟩

def addNode (g : ProviderGraph) (n : Node) : ProviderGraph := { g with nodes := addNew g.nodes n }

/-- Adds an edge and its two ends. -/
def addEdge (g : ProviderGraph) (e : Edge) : ProviderGraph :=
  { g with
    nodes := addNew (addNew g.nodes e.source) e.target
    edges := addNew g.edges e }

def addEdges (g : ProviderGraph) (es : List Edge) : ProviderGraph := es.foldl addEdge g

/-- The units in the order of discovery. -/
def units (g : ProviderGraph) : List String := g.nodes.filterMap Node.unit?

/-- The keys without provider, in code-point order. -/
def missingKeys (g : ProviderGraph) : List String :=
  (g.nodes.filterMap Node.missing?).mergeSort fun a b => decide (a ≤ b)

/-- The two units of an edge between units. -/
def unitEnds (e : Edge) : Option (String × String) :=
  match e.source, e.target with
  | .unit p, .unit c => some (p, c)
  | _, _ => none

/-- The edges between units, from provider to consumer; two edges with different labels count
twice. -/
def unitEdges (g : ProviderGraph) : List (String × String) := g.edges.filterMap unitEnds

end ProviderGraph

end Workplan
