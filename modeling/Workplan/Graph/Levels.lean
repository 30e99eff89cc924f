/-
# `Workplan.Graph.Levels` — units in levels, providers first

Every unit carries a counter of the edges from units that have no level yet.  The units whose
counter is zero form the first level; placing a level lowers the counters of its consumers, and
those that reach zero form the next level.  Within a level the units stand in code-point order.
What is left when no counter reaches zero lies on a cycle or behind one.
-/
import Workplan.Graph.Basic

namespace Workplan.ProviderGraph

/-- How many edges from units without a level enter each unit. -/
abbrev Counters := List (String × Nat)

namespace Counters

def get (counters : Counters) (id : String) : Nat := (counters.lookup id).getD 0

def set (counters : Counters) (id : String) (n : Nat) : Counters :=
  counters.map fun c => if c.1 = id then (id, n) else c

end Counters

/-- The units that an edge leads to from this one, once for each edge. -/
def consumersOf (g : ProviderGraph) (id : String) : List String :=
  (g.unitEdges.filter fun e => e.1 = id).map Prod.snd

/-- The counters before any level is placed. -/
def counters (g : ProviderGraph) : Counters :=
  g.units.map fun id => (id, g.unitEdges.countP fun e => e.2 = id)

def sortIds (ids : List String) : List String := ids.mergeSort fun a b => decide (a ≤ b)

/-- Takes one edge off a counter; a unit whose counter reaches zero joins the next level. -/
def lower (state : Counters × List String) (id : String) : Counters × List String :=
  let n := state.1.get id - 1
  (state.1.set id n, if n = 0 then state.2 ++ [id] else state.2)

/-- Places a level: the counters after it and the units of the next one. -/
def place (g : ProviderGraph) (counters : Counters) (level : List String) :
    Counters × List String :=
  let state := (level.flatMap g.consumersOf).foldl lower (counters, [])
  (state.1, (sortIds state.2).eraseReps)

/-- The levels from this one on; `rounds` bounds their number. -/
def levelsFrom (g : ProviderGraph) : Nat → Counters → List String → List (List String)
  | 0, _, _ => []
  | _ + 1, _, [] => []
  | rounds + 1, counters, level =>
    let (after, next) := g.place counters level
    level :: g.levelsFrom rounds after next

/-- The units that no edge from a unit enters. -/
def firstLevel (g : ProviderGraph) : List String :=
  sortIds ((g.counters.filter fun c => c.2 = 0).map Prod.fst)

/-- As many levels as can be placed. -/
def levels (g : ProviderGraph) : List (List String) :=
  g.levelsFrom (g.units.length + 1) g.counters g.firstLevel

/-- The levels of all units, or the units that no level takes. -/
def layeredOrder (g : ProviderGraph) : Except (List String) (List (List String)) :=
  let placed := g.levels.flatten
  if placed.length = g.units.length then .ok g.levels
  else .error (sortIds (g.units.filter fun id => !placed.contains id))

end Workplan.ProviderGraph
