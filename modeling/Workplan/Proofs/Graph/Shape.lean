/-
# `Workplan.Proofs.Graph.Shape` — what adding nodes and edges does to a graph

Nodes and edges are added one at a time, each kept once.  The membership lemmas say what a graph
holds after a list of edges.  `Assembled` is the shape that every graph has which is made by such
additions: no node and no edge stands twice, and the ends of every edge are nodes.  `WellFormed` is
the shape of those that are made from a target, which is a node too.  Both are kept by whatever a
graph `GrowsTo`.
-/
import Workplan.Graph.Basic

namespace Workplan.ProviderGraph

section AddNew

variable {α : Type} [DecidableEq α]

theorem mem_addNew {xs : List α} {x y : α} : y ∈ addNew xs x ↔ y ∈ xs ∨ y = x := by
  unfold addNew
  split
  · rename_i h
    exact ⟨Or.inl, fun hy => hy.elim id (fun e => e ▸ h)⟩
  · simp

theorem nodup_addNew {xs : List α} (h : xs.Nodup) (x : α) : (addNew xs x).Nodup := by
  unfold addNew
  split
  · exact h
  · rename_i hx
    refine List.nodup_append.mpr ⟨h, by simp, ?_⟩
    intro a ha b hb e
    rw [List.mem_singleton.mp hb] at e
    exact hx (e ▸ ha)

end AddNew

/-! ## Nodes and edges of a graph that has grown -/

theorem mem_nodes_addEdge {g : ProviderGraph} {e : Edge} {n : Node} :
    n ∈ (g.addEdge e).nodes ↔ n ∈ g.nodes ∨ n = e.source ∨ n = e.target := by
  simp [addEdge, mem_addNew, or_assoc]

theorem mem_edges_addEdge {g : ProviderGraph} {e e' : Edge} :
    e' ∈ (g.addEdge e).edges ↔ e' ∈ g.edges ∨ e' = e := by
  simp [addEdge, mem_addNew]

@[simp] theorem target_addEdges (es : List Edge) (g : ProviderGraph) :
    (g.addEdges es).target = g.target := by
  induction es generalizing g with
  | nil => rfl
  | cons e es ih => exact ih (g.addEdge e)

theorem mem_edges_addEdges {es : List Edge} {g : ProviderGraph} {e : Edge} :
    e ∈ (g.addEdges es).edges ↔ e ∈ g.edges ∨ e ∈ es := by
  induction es generalizing g with
  | nil => simp [addEdges]
  | cons e' es ih =>
      have h := ih (g := g.addEdge e')
      rw [mem_edges_addEdge] at h
      simp only [addEdges, List.foldl_cons] at h ⊢
      rw [h, List.mem_cons, or_assoc]

theorem mem_nodes_addEdges {es : List Edge} {g : ProviderGraph} {n : Node} :
    n ∈ (g.addEdges es).nodes ↔ n ∈ g.nodes ∨ ∃ e ∈ es, n = e.source ∨ n = e.target := by
  induction es generalizing g with
  | nil => simp [addEdges]
  | cons e' es ih =>
      have h := ih (g := g.addEdge e')
      rw [mem_nodes_addEdge] at h
      simp only [addEdges, List.foldl_cons] at h ⊢
      rw [h]
      simp only [List.mem_cons, exists_eq_or_imp, or_assoc]

theorem eq_unit_of_unit?_eq {n : Node} {id : String} (h : n.unit? = some id) : n = .unit id := by
  cases n <;> simp_all [Node.unit?]

theorem eq_missing_of_missing?_eq {n : Node} {key : String} (h : n.missing? = some key) :
    n = .missing key := by
  cases n <;> simp_all [Node.missing?]

theorem mem_units {g : ProviderGraph} {id : String} : id ∈ g.units ↔ Node.unit id ∈ g.nodes := by
  simp only [units, List.mem_filterMap]
  constructor
  · rintro ⟨n, hn, hu⟩
    exact eq_unit_of_unit?_eq hu ▸ hn
  · exact fun h => ⟨.unit id, h, rfl⟩

theorem mem_missing {g : ProviderGraph} {key : String} :
    key ∈ g.nodes.filterMap Node.missing? ↔ Node.missing key ∈ g.nodes := by
  simp only [List.mem_filterMap]
  constructor
  · rintro ⟨n, hn, hu⟩
    exact eq_missing_of_missing?_eq hu ▸ hn
  · exact fun h => ⟨.missing key, h, rfl⟩

/-- The first unit provides for the second one. -/
def Feeds (g : ProviderGraph) (p u : String) : Prop := (p, u) ∈ g.unitEdges

theorem feeds_iff_exists_edge {g : ProviderGraph} {p u : String} :
    g.Feeds p u ↔ ∃ label, (⟨.unit p, .unit u, label⟩ : Edge) ∈ g.edges := by
  simp only [Feeds, unitEdges, List.mem_filterMap]
  constructor
  · rintro ⟨⟨source, target, label⟩, he, hends⟩
    cases source <;> cases target <;>
      simp only [unitEnds, Option.some.injEq, Prod.mk.injEq, reduceCtorEq] at hends
    obtain ⟨rfl, rfl⟩ := hends
    exact ⟨label, he⟩
  · rintro ⟨label, he⟩
    exact ⟨_, he, rfl⟩

/-! ## Well-formed graphs -/

/-- The shape of a graph made by additions: nothing stands twice, and edges stand between nodes. -/
structure Assembled (g : ProviderGraph) : Prop where
  nodes_nodup : g.nodes.Nodup
  edges_nodup : g.edges.Nodup
  source_mem : ∀ e ∈ g.edges, e.source ∈ g.nodes
  consumer_mem : ∀ e ∈ g.edges, e.target ∈ g.nodes

theorem assembled_bare (target : String) : Assembled ⟨target, [], []⟩ where
  nodes_nodup := List.nodup_nil
  edges_nodup := List.nodup_nil
  source_mem := nofun
  consumer_mem := nofun

theorem Assembled.addEdge {g : ProviderGraph} (h : g.Assembled) (e : Edge) :
    (g.addEdge e).Assembled where
  nodes_nodup := nodup_addNew (nodup_addNew h.nodes_nodup _) _
  edges_nodup := nodup_addNew h.edges_nodup _
  source_mem := by
    intro e' he'
    rw [mem_nodes_addEdge]
    rcases mem_edges_addEdge.mp he' with h' | rfl
    · exact Or.inl (h.source_mem e' h')
    · exact Or.inr (Or.inl rfl)
  consumer_mem := by
    intro e' he'
    rw [mem_nodes_addEdge]
    rcases mem_edges_addEdge.mp he' with h' | rfl
    · exact Or.inl (h.consumer_mem e' h')
    · exact Or.inr (Or.inr rfl)

theorem Assembled.addNode {g : ProviderGraph} (h : g.Assembled) (n : Node) :
    (g.addNode n).Assembled where
  nodes_nodup := nodup_addNew h.nodes_nodup n
  edges_nodup := h.edges_nodup
  source_mem := fun e he => mem_addNew.mpr (Or.inl (h.source_mem e he))
  consumer_mem := fun e he => mem_addNew.mpr (Or.inl (h.consumer_mem e he))

/-- The shape of a graph made by additions from a target. -/
structure WellFormed (g : ProviderGraph) : Prop extends g.Assembled where
  target_mem : Node.unit g.target ∈ g.nodes

instance (g : ProviderGraph) : Coe g.WellFormed g.Assembled := ⟨WellFormed.toAssembled⟩

theorem wellFormed_ofTarget (target : String) : (ofTarget target).WellFormed where
  toAssembled := (assembled_bare target).addNode (.unit target)
  target_mem := List.mem_singleton_self _

/-! ## Additions -/

/-- The second graph comes from the first one by adding nodes and edges, in any order and any
number of times. -/
inductive GrowsTo (g : ProviderGraph) : ProviderGraph → Prop
  | refl : GrowsTo g g
  | node {g' : ProviderGraph} (n : Node) : GrowsTo g g' → GrowsTo g (g'.addNode n)
  | edge {g' : ProviderGraph} (e : Edge) : GrowsTo g g' → GrowsTo g (g'.addEdge e)

/-- A graph made from nothing.  The target need not be among the nodes. -/
abbrev Made (target : String) (g : ProviderGraph) : Prop := GrowsTo ⟨target, [], []⟩ g

/-- A graph made from the graph of a target alone. -/
abbrev Grown (target : String) (g : ProviderGraph) : Prop := (ofTarget target).GrowsTo g

namespace GrowsTo

variable {g g' : ProviderGraph}

theorem addEdges (h : g.GrowsTo g') (es : List Edge) : g.GrowsTo (g'.addEdges es) := by
  induction es generalizing g' with
  | nil => exact h
  | cons e es ih => exact ih (.edge e h)

theorem assembled (h : g.GrowsTo g') (hg : g.Assembled) : g'.Assembled := by
  induction h with
  | refl => exact hg
  | node n _ ih => exact ih.addNode n
  | edge e _ ih => exact ih.addEdge e

theorem wellFormed (h : g.GrowsTo g') (hg : g.WellFormed) : g'.WellFormed := by
  refine ⟨h.assembled hg, ?_⟩
  induction h with
  | refl => exact hg.target_mem
  | node n _ ih => exact mem_addNew.mpr (Or.inl ih)
  | edge e _ ih => exact mem_nodes_addEdge.mpr (Or.inl ih)

end GrowsTo

theorem Made.assembled {target : String} {g : ProviderGraph} (h : Made target g) : g.Assembled :=
  GrowsTo.assembled h (assembled_bare target)

/-! ## Units -/

theorem Assembled.units_nodup {g : ProviderGraph} (h : g.Assembled) : g.units.Nodup := by
  refine List.Pairwise.filterMap Node.unit? ?_ h.nodes_nodup
  rintro a a' hne id ha _ ha' rfl
  exact hne ((eq_unit_of_unit?_eq ha).trans (eq_unit_of_unit?_eq ha').symm)

theorem Assembled.missing_nodup {g : ProviderGraph} (h : g.Assembled) :
    (g.nodes.filterMap Node.missing?).Nodup := by
  refine List.Pairwise.filterMap Node.missing? ?_ h.nodes_nodup
  rintro a a' hne key ha _ ha' rfl
  exact hne ((eq_missing_of_missing?_eq ha).trans (eq_missing_of_missing?_eq ha').symm)

theorem Assembled.provider_mem {g : ProviderGraph} (hg : g.Assembled) {p u : String}
    (h : g.Feeds p u) : p ∈ g.units := by
  obtain ⟨label, he⟩ := feeds_iff_exists_edge.mp h
  exact mem_units.mpr (hg.source_mem _ he)

theorem Assembled.consumer_mem_units {g : ProviderGraph} (hg : g.Assembled) {p u : String}
    (h : g.Feeds p u) : u ∈ g.units := by
  obtain ⟨label, he⟩ := feeds_iff_exists_edge.mp h
  exact mem_units.mpr (hg.consumer_mem _ he)

end Workplan.ProviderGraph
