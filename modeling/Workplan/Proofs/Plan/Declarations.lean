/-
# `Workplan.Proofs.Plan.Declarations` — planning does not depend on the order of declarations

Units may be registered in another order, and declare their inputs and requests in another order.
The search then comes upon units, edges and missing keys in another order, and where several
requests name no unit it may stop at another one.  What the target needs, though, is settled by what
is declared (`SameDeclarations`), except that of several producers of a key the first one counts.

Everything else is known to be decided by the needs: where nothing dangles, the plan
(`buildPlan_congr`), and whether anything dangles, too.
-/
import Workplan.Proofs.Graph.Listing
import Workplan.Proofs.Plan.Outcome

namespace Workplan

open ProviderGraph

variable {r r' : Registry} {c : Context} {target : String}

namespace Registry

/-- Registries that declare the same: the same identifiers, for each of them the same required keys
and the same requests, and for each key the same first producer.  Of the other producers nothing is
asked. -/
structure SameDeclarations (r r' : Registry) : Prop where
  ids : ∀ id, id ∈ r.ids ↔ id ∈ r'.ids
  requiredKeys : ∀ {id : String} {u u' : WorkUnit}, r.get? id = some u → r'.get? id = some u' →
    ∀ key, key ∈ u.descriptor.requiredKeys ↔ key ∈ u'.descriptor.requiredKeys
  requests : ∀ {id : String} {u u' : WorkUnit}, r.get? id = some u → r'.get? id = some u' →
    ∀ q, q ∈ u.descriptor.requests ↔ q ∈ u'.descriptor.requests
  firstProducer : ∀ key p, r.FirstProducer key p ↔ r'.FirstProducer key p

namespace SameDeclarations

theorem symm (h : r.SameDeclarations r') : r'.SameDeclarations r where
  ids := fun id => (h.ids id).symm
  requiredKeys := fun hu' hu key => (h.requiredKeys hu hu' key).symm
  requests := fun hu' hu q => (h.requests hu hu' q).symm
  firstProducer := fun key p => (h.firstProducer key p).symm

theorem contains_eq (h : r.SameDeclarations r') (id : String) : r.contains id = r'.contains id := by
  rw [Bool.eq_iff_iff, contains_iff_mem_ids, contains_iff_mem_ids]
  exact h.ids id

theorem get? (h : r.SameDeclarations r') {id : String} {u : WorkUnit} (hu : r.get? id = some u) :
    ∃ u', r'.get? id = some u' := by
  rw [← contains_eq_true_iff, ← h.contains_eq]
  exact contains_of_get? hu

theorem unproduced (h : r.SameDeclarations r') {key : String} (hkey : r.Unproduced key) :
    r'.Unproduced key := by
  rcases r'.firstProducer_or_unproduced key with ⟨p, hp⟩ | hnone
  · obtain ⟨u, hu, hproduces⟩ := ((h.firstProducer key p).mpr hp).get?
    rw [hkey (p, u) (Table.get?_eq_some_iff.mp hu)] at hproduces
    cases hproduces
  · exact hnone

/-! What is needed in the one registry is needed in the other, and what is awaited there and what
is lacking is the same. -/

theorem awaits (h : r.SameDeclarations r') {id p : String} (ha : r.Awaits c id p) :
    r'.Awaits c id p := by
  cases ha with
  | @producer u key _ hu hkey hbound hp =>
      obtain ⟨u', hu'⟩ := h.get? hu
      have hkey' := (h.requiredKeys hu hu' key).mp hkey
      exact .producer hu' hkey' hbound ((h.firstProducer key p).mp hp)
  | @request u q hu hq hactive =>
      obtain ⟨u', hu'⟩ := h.get? hu
      exact .request hu' ((h.requests hu hu' q).mp hq) hactive

theorem needed (h : r.SameDeclarations r') {id : String} (hid : r.Needed c target id) :
    r'.Needed c target id := by
  refine hid.mono ?_ ?_
  · intro htarget
    rw [← h.contains_eq]
    exact htarget
  · intro id _ _ p ha hp
    rw [← h.contains_eq]
    exact ⟨h.awaits ha, hp⟩

theorem lacks (h : r.SameDeclarations r') {key : String} (hkey : r.Lacks c target key) :
    r'.Lacks c target key := by
  obtain ⟨id, u, hid, hu, hreq, hbound, hnone⟩ := hkey
  obtain ⟨u', hu'⟩ := h.get? hu
  exact ⟨id, u', h.needed hid, hu', (h.requiredKeys hu hu' key).mp hreq, hbound,
    h.unproduced hnone⟩

theorem dangles (h : r.SameDeclarations r') {id : String} (hid : r.Dangles c target id) :
    r'.Dangles c target id := by
  cases hid with
  | target ht =>
      rw [h.contains_eq] at ht
      exact .target ht
  | @request id u q hneeded hu hq hactive hp =>
      obtain ⟨u', hu'⟩ := h.get? hu
      rw [h.contains_eq] at hp
      exact .request (h.needed hneeded) hu' ((h.requests hu hu' q).mp hq) hactive hp

/-! ## The plan -/

theorem buildPlan_cases (h : r.SameDeclarations r') (target : String) (c : Context) :
    (∃ id id', r.buildPlan target c = .error (.unitNotFound id) ∧
      r'.buildPlan target c = .error (.unitNotFound id')) ∨
    ∃ plan, r.buildPlan target c = .ok plan ∧ r'.buildPlan target c = .ok plan := by
  rcases buildGraph_cases r target c with ⟨g, hok, -, hnone⟩ | ⟨id, herror, hid⟩
  · have hnone' : ∀ id, ¬ r'.Dangles c target id := fun id hid => hnone id (h.symm.dangles hid)
    have hsame : r.buildPlan target c = r'.buildPlan target c := by
      refine buildPlan_congr ?_ ?_ ?_ hnone hnone'
      · exact fun id => ⟨h.needed, h.symm.needed⟩
      · exact fun id _ p => ⟨h.awaits, h.symm.awaits⟩
      · exact fun key => ⟨h.lacks, h.symm.lacks⟩
    have hplan : r.buildPlan target c = .ok g.toPlan := by
      rw [buildPlan, hok]
      rfl
    exact Or.inr ⟨g.toPlan, hplan, hsame ▸ hplan⟩
  · rcases buildGraph_cases r' target c with ⟨g', -, -, hnone'⟩ | ⟨id', herror', -⟩
    · exact absurd (h.dangles hid) (hnone' id)
    · refine Or.inl ⟨id, id', ?_, ?_⟩
      · rw [buildPlan, herror]
        rfl
      · rw [buildPlan, herror']
        rfl

end SameDeclarations

end Registry

/-- Planning does not depend on the order of declaration or discovery.  Registries that declare the
same have the same plans, and planning fails for the one where it fails for the other.  Graphs made
of the same nodes and the same edges have the same order, whichever way the counters of their units
are listed. -/
theorem planning_ignores_order :
    (∀ r r' : Registry, r.SameDeclarations r' → ∀ target c,
      (∀ plan, r.buildPlan target c = .ok plan ↔ r'.buildPlan target c = .ok plan) ∧
      ((∃ id, r.buildPlan target c = .error (.unitNotFound id)) ↔
        ∃ id, r'.buildPlan target c = .error (.unitNotFound id))) ∧
    ∀ (target target' : String) (g g' : ProviderGraph), Made target g → Made target' g' →
      (∀ n, n ∈ g.nodes ↔ n ∈ g'.nodes) → (∀ e, e ∈ g.edges ↔ e ∈ g'.edges) →
      g.layeredOrder = g'.layeredOrder ∧
        ∀ cs, cs.Perm g.counters → g.layeredOrderOver cs = g'.layeredOrder := by
  refine ⟨?_, ?_⟩
  · intro r r' h target c
    rcases h.buildPlan_cases target c with ⟨id, id', hid, hid'⟩ | ⟨plan, hplan, hplan'⟩
    · rw [hid, hid']
      refine ⟨fun plan => ?_, ?_⟩
      · exact ⟨nofun, nofun⟩
      · exact iff_of_true ⟨id, rfl⟩ ⟨id', rfl⟩
    · rw [hplan, hplan']
      exact ⟨fun _ => Iff.rfl, Iff.rfl⟩
  · intro target target' g g' hg hg' hnodes hedges
    have hassembled := Made.assembled hg
    have hsame := layeredOrder_eq_of_mem_iff hassembled (Made.assembled hg') hnodes hedges
    refine ⟨hsame, fun cs hcs => ?_⟩
    exact (layeredOrderOver_of_perm hassembled.units_nodup hcs).trans hsame

/-! ## The two producers, declared in another order -/

/-- A unit that asks for others to run first. -/
def WorkUnit.asking (id : String) (requests : List Request) : WorkUnit where
  descriptor := { Descriptor.ofId id "1" with requests }
  execute := fun _ => .returned {}

/-- The two producers and their consumer, and a unit that asks for two others that do not exist. -/
def askingProducers : Registry := ({} : Registry).registerMany
  [.constant "z" [] [("k", "from z")], .constant "a" [] [("k", "from a"), ("m", "")],
    .constant "u" ["k", "m"] [], .asking "v" [⟨"x", none⟩, ⟨"y", none⟩]]

/-- The same, with everything in another order but the two producers themselves. -/
def shuffledProducers : Registry := ({} : Registry).registerMany
  [.asking "v" [⟨"y", none⟩, ⟨"x", none⟩], .constant "u" ["m", "k"] [],
    .constant "z" [] [("k", "from z")], .constant "a" [] [("m", ""), ("k", "from a")]]

theorem providersOf_shuffledProducers (key : String) :
    askingProducers.providersOf key = shuffledProducers.providersOf key := by
  have hoffers : (WorkUnit.constant "a" [] [("m", ""), ("k", "from a")]).descriptor.produces key =
      (WorkUnit.constant "a" [] [("k", "from a"), ("m", "")]).descriptor.produces key := by
    show (KeySet.ofList ["m", "k"]).contains key = (KeySet.ofList ["k", "m"]).contains key
    rw [KeySet.contains_ofList, KeySet.contains_ofList]
    simp [Bool.or_comm]
  show (List.filter (fun e => e.2.descriptor.produces key)
      [("z", WorkUnit.constant "z" [] [("k", "from z")]),
        ("a", .constant "a" [] [("k", "from a"), ("m", "")])]).map Prod.fst =
    (List.filter (fun e => e.2.descriptor.produces key)
      [("z", WorkUnit.constant "z" [] [("k", "from z")]),
        ("a", .constant "a" [] [("m", ""), ("k", "from a")])]).map Prod.fst
  simp only [List.filter_cons, hoffers]
  split <;> split <;> rfl

theorem mem_askingProducers {id : String} {u : WorkUnit} (h : askingProducers.get? id = some u) :
    (id = "z" ∧ u = .constant "z" [] [("k", "from z")]) ∨
    (id = "a" ∧ u = .constant "a" [] [("k", "from a"), ("m", "")]) ∨
    (id = "u" ∧ u = .constant "u" ["k", "m"] []) ∨
    (id = "v" ∧ u = .asking "v" [⟨"x", none⟩, ⟨"y", none⟩]) := by
  have hmem : (id, u) ∈ [("z", WorkUnit.constant "z" [] [("k", "from z")]),
      ("a", .constant "a" [] [("k", "from a"), ("m", "")]), ("u", .constant "u" ["k", "m"] []),
      ("v", .asking "v" [⟨"x", none⟩, ⟨"y", none⟩])] := Table.get?_eq_some_iff.mp h
  simpa only [List.mem_cons, List.not_mem_nil, or_false, Prod.mk.injEq] using hmem

theorem sameDeclarations_shuffledProducers :
    askingProducers.SameDeclarations shuffledProducers := by
  have hunits : ∀ {id : String} {u u' : WorkUnit}, askingProducers.get? id = some u →
      shuffledProducers.get? id = some u' →
      (∀ key, key ∈ u.descriptor.requiredKeys ↔ key ∈ u'.descriptor.requiredKeys) ∧
        ∀ q, q ∈ u.descriptor.requests ↔ q ∈ u'.descriptor.requests := by
    intro id u u' hu hu'
    rcases mem_askingProducers hu with ⟨rfl, rfl⟩ | ⟨rfl, rfl⟩ | ⟨rfl, rfl⟩ | ⟨rfl, rfl⟩
    · obtain rfl := Option.some.inj hu'
      exact ⟨fun key => Iff.rfl, fun q => Iff.rfl⟩
    · obtain rfl := Option.some.inj hu'
      exact ⟨fun key => Iff.rfl, fun q => Iff.rfl⟩
    · obtain rfl := Option.some.inj hu'
      exact ⟨fun key => (List.Perm.swap "m" "k" []).mem_iff, fun q => Iff.rfl⟩
    · obtain rfl := Option.some.inj hu'
      have hperm := List.Perm.swap (⟨"y", none⟩ : Request) ⟨"x", none⟩ []
      exact ⟨fun key => Iff.rfl, fun q => hperm.mem_iff⟩
  refine ⟨?_, ?_, ?_, ?_⟩
  · intro id
    have hperm : ["z", "a", "u", "v"].Perm ["v", "u", "z", "a"] := by decide
    show id ∈ ["z", "a", "u", "v"] ↔ id ∈ ["v", "u", "z", "a"]
    exact hperm.mem_iff
  · exact fun hu hu' => (hunits hu hu').1
  · exact fun hu hu' => (hunits hu hu').2
  · intro key p
    rw [← Registry.providersOf_eq_cons_iff, ← Registry.providersOf_eq_cons_iff,
      providersOf_shuffledProducers]

/-- The graph of the two producers, made from its last edge to its first and for no unit. -/
def reversedProducersGraph : ProviderGraph :=
  (⟨"", [], []⟩ : ProviderGraph).addEdges twoProducersGraph.edges.reverse

/-- There is the same plan for the consumer, and for the other unit there is none, though another of
its requests is met first.  The graph made in the other direction has the same levels, with its
counters listed backwards. -/
theorem planning_ignores_order_shuffled :
    askingProducers.SameDeclarations shuffledProducers ∧
    shuffledProducers.buildPlan "u" {} = .ok (.ordered twoProducersPlan) ∧
    (∃ id, shuffledProducers.buildPlan "v" {} = .error (.unitNotFound id)) ∧
    twoProducersGraph.layeredOrderOver twoProducersGraph.counters.reverse =
      reversedProducersGraph.layeredOrder := by
  obtain ⟨hregistries, hgraphs⟩ := planning_ignores_order
  have hsame := sameDeclarations_shuffledProducers
  refine ⟨hsame, ?_, ?_, ?_⟩
  · refine ((hregistries _ _ hsame "u" {}).1 _).mp ?_
    cbv
  · refine (hregistries _ _ hsame "v" {}).2.mp ⟨"x", ?_⟩
    cbv
  · have hmade : Made "u" twoProducersGraph :=
      (GrowsTo.refl.node (.unit "u")).addEdges twoProducersGraph.edges
    have hmade' : Made "" reversedProducersGraph := GrowsTo.refl.addEdges _
    have hnodes : twoProducersGraph.nodes.Perm reversedProducersGraph.nodes := by decide
    have hedges : twoProducersGraph.edges.Perm reversedProducersGraph.edges := by decide
    have horder := hgraphs "u" "" _ _ hmade hmade' (fun n => hnodes.mem_iff)
      (fun e => hedges.mem_iff)
    exact horder.2 _ (List.reverse_perm _)

end Workplan
