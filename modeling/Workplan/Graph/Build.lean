/-
# `Workplan.Graph.Build` — finding the providers of a target

The search starts at the target and goes breadth first.  A required key comes from the context if
it is bound there, otherwise from the first registered unit that produces it, and is missing if
there is none.  A request that is active adds its unit; one that names an unregistered unit ends
the search.  Each unit is expanded once.
-/
import Workplan.Context
import Workplan.Graph.Basic
import Workplan.Registry

namespace Workplan

/-- A key with several producers, and the one that was chosen. -/
structure Ambiguity where
  key : String
  chosen : String
  candidates : List String
deriving DecidableEq

/-- Why no graph, and so no plan, can be made. -/
inductive PlanError where
  | unitNotFound (id : String)
deriving DecidableEq

def PlanError.message : PlanError → String
  | .unitNotFound id => "unit '" ++ id ++ "' not found in registry"

/-- Whether a request is to be followed in a context. -/
def Request.active (c : Context) (r : Request) : Bool :=
  match r.condition with
  | none => true
  | some key => key.isEmpty || c.truthy key

namespace Registry

/-- The edge that brings a required key to its consumer. -/
def supplyEdge (r : Registry) (c : Context) (consumer key : String) : Edge :=
  if c.contains key then ⟨.context key, .unit consumer, .provides⟩
  else
    match r.providersOf key with
    | provider :: _ => ⟨.unit provider, .unit consumer, .providesKey key⟩
    | [] => ⟨.missing key, .unit consumer, .required⟩

/-- The choice among several producers of a required key, if there was one. -/
def ambiguity? (r : Registry) (c : Context) (key : String) : Option Ambiguity :=
  if c.contains key then none
  else
    match r.providersOf key with
    | chosen :: other :: more => some ⟨key, chosen, chosen :: other :: more⟩
    | _ => none

/-- The active requests of a unit, as identifiers. -/
def activeRequests (c : Context) (d : Descriptor) : List String :=
  (d.requests.filter (Request.active c)).map Request.id

/-- The edges that enter a unit: one for each required key, then one for each active request. -/
def edgesInto (r : Registry) (c : Context) (d : Descriptor) (id : String) : List Edge :=
  d.requiredKeys.map (r.supplyEdge c id) ++
    (activeRequests c d).map fun p => ⟨.unit p, .unit id, .requested⟩

/-- The state of a search. -/
structure Search where
  visited : List String := []
  queue : List String
  graph : ProviderGraph
  ambiguities : List Ambiguity := []

/-- How a search ends. -/
structure Found where
  ambiguities : List Ambiguity
  graph : Except PlanError ProviderGraph

/-- Expands a unit: adds the edges that enter it and queues the units they come from. -/
def Search.expand (r : Registry) (c : Context) (s : Search) (id : String) (d : Descriptor) :
    Search :=
  let edges := r.edgesInto c d id
  let visited := id :: s.visited
  { visited
    queue := s.queue ++ (edges.filterMap fun e => e.source.unit?).filter (!visited.contains ·)
    graph := s.graph.addEdges edges
    ambiguities := s.ambiguities ++ d.requiredKeys.filterMap (r.ambiguity? c) }

/-- Works off the queue; `rounds` bounds the number of units that are still to be expanded. -/
def search (r : Registry) (c : Context) : Nat → Search → Found
  | 0, s => ⟨s.ambiguities, .ok s.graph⟩
  | rounds + 1, s =>
    match s.queue.dropWhile s.visited.contains with
    | [] => ⟨s.ambiguities, .ok s.graph⟩
    | id :: queue =>
      match r.get? id with
      | none => search r c rounds { s with visited := id :: s.visited, queue }
      | some u =>
        match (activeRequests c u.descriptor).find? (!r.contains ·) with
        | some unknown =>
          ⟨s.ambiguities ++ u.descriptor.requiredKeys.filterMap (r.ambiguity? c),
            .error (.unitNotFound unknown)⟩
        | none => search r c rounds (Search.expand r c { s with queue } id u.descriptor)

/-- The provider graph of a target in a context, with the choices made on the way. -/
def findProviders (r : Registry) (target : String) (c : Context) : Found :=
  if r.contains target then
    search r c (r.size + 1) { queue := [target], graph := .ofTarget target }
  else ⟨[], .error (.unitNotFound target)⟩

/-- The provider graph of a target in a context. -/
def buildGraph (r : Registry) (target : String) (c : Context) :
    Except PlanError ProviderGraph :=
  (r.findProviders target c).graph

end Registry

end Workplan
