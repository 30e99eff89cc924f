/-
# `Workplan.Proofs.Graph.Providers` — the provider graph of a target, exactly

The graph that a search returns has a unit for everything that can be reached from the target by
waiting, and into each of them the edges that belong there: a bound key from the context whoever
else produces it, any other required key from its first registered producer or from nowhere, and
one edge for each active request.  An optional input never brings an edge.
-/
import Workplan.Proofs.Graph.Search
import Workplan.Proofs.Text.Order

namespace Workplan

open ProviderGraph

variable {r : Registry} {c : Context} {target : String} {g : ProviderGraph}

namespace ProviderGraph.Resolves

theorem feeds_iff (hg : g.Resolves r c target) {p u : String} :
    g.Feeds p u ↔ r.Needed c target u ∧ r.Awaits c u p := by
  rw [feeds_iff_exists_edge]
  constructor
  · rintro ⟨label, he⟩
    obtain ⟨id, w, hid, hw, hin⟩ := (hg.edges_iff _).mp he
    obtain rfl : u = id := by simpa using hin.target_eq
    exact ⟨hid, (Registry.awaits_iff_enters hw).mpr ⟨label, hin⟩⟩
  · rintro ⟨hid, ha⟩
    obtain ⟨w, hw⟩ := hid.get?
    obtain ⟨label, hin⟩ := (Registry.awaits_iff_enters hw).mp ha
    exact ⟨label, (hg.edges_iff _).mpr ⟨u, w, hid, hw, hin⟩⟩

theorem missing_node_iff (hg : g.Resolves r c target) {key : String} :
    Node.missing key ∈ g.nodes ↔
      ∃ id, (⟨.missing key, .unit id, .required⟩ : Edge) ∈ g.edges := by
  constructor
  · intro h
    rcases hg.touched _ h with h | ⟨e, he, hn⟩
    · cases h
    · obtain ⟨id, u, hid, hu, hin⟩ := (hg.edges_iff e).mp he
      have ht := hin.target_eq
      rcases hn with hn | hn
      · refine ⟨id, ?_⟩
        cases hin <;> cases hn
        exact he
      · rw [ht] at hn
        cases hn
  · rintro ⟨id, he⟩
    exact hg.wellFormed.source_mem _ he

theorem mem_missingKeys (hg : g.Resolves r c target) {key : String} :
    key ∈ g.missingKeys ↔ ∃ id, (⟨.missing key, .unit id, .required⟩ : Edge) ∈ g.edges := by
  rw [missingKeys, List.mem_mergeSort, mem_missing, hg.missing_node_iff]

theorem mem_missingKeys_iff_lacks (hg : g.Resolves r c target) {key : String} :
    key ∈ g.missingKeys ↔ r.Lacks c target key := by
  rw [hg.mem_missingKeys]
  constructor
  · rintro ⟨id, he⟩
    obtain ⟨id', u, hid, hu, hin⟩ := (hg.edges_iff _).mp he
    cases hin with
    | required hk hc hn => exact ⟨id, u, hid, hu, hk, hc, hn⟩
  · rintro ⟨id, u, hid, hu, hk, hc, hn⟩
    exact ⟨id, (hg.edges_iff _).mpr ⟨id, u, hid, hu, .required hk hc hn⟩⟩

theorem missingKeys_sorted (hg : g.Resolves r c target) :
    g.missingKeys.Pairwise (· < ·) :=
  Text.pairwise_lt_mergeSort hg.wellFormed.missing_nodup

theorem no_edge_of_optional (hg : g.Resolves r c target) {id key : String} {u : WorkUnit}
    {p : Property} (hu : r.get? id = some u) (hp : u.descriptor.inputs.get? key = some p)
    (hopt : p.required = false) {e : Edge} (he : e ∈ g.edges) (ht : e.target = .unit id) :
    e.source ≠ .context key ∧ e.source ≠ .missing key ∧ e.label ≠ .providesKey key := by
  have hnot : key ∉ u.descriptor.requiredKeys := by
    intro hk
    obtain ⟨p', hp', hreq⟩ := Descriptor.mem_requiredKeys.mp hk
    cases hp.symm.trans hp'
    simp_all
  obtain ⟨id', u', hid, hu', hin⟩ := (hg.edges_iff e).mp he
  obtain rfl : id' = id := by simpa [hin.target_eq] using ht
  cases hu.symm.trans hu'
  cases hin with
  | provides hk _ => exact ⟨by rintro ⟨⟩; exact hnot hk, by simp, by simp⟩
  | providesKey hk _ _ => exact ⟨by simp, by simp, by rintro ⟨⟩; exact hnot hk⟩
  | required hk _ _ => exact ⟨by simp, by rintro ⟨⟩; exact hnot hk, by simp⟩
  | requested _ _ => exact ⟨by simp, by simp, by simp⟩

end ProviderGraph.Resolves

/-- The provider graph of a target holds exactly the units reached from it by waiting, and exactly
the edges that belong into them, each once. -/
theorem buildGraph_exact (h : r.buildGraph target c = .ok g) :
    (∀ id, id ∈ g.units ↔ Relation.ReflTransGen (r.Awaits c) target id) ∧
    (∀ id ∈ g.units, r.contains id = true) ∧
    g.units.Nodup ∧
    g.edges.Nodup ∧
    (∀ e, e ∈ g.edges ↔ ∃ id u, Relation.ReflTransGen (r.Awaits c) target id ∧
      r.get? id = some u ∧ r.Enters c id u e) ∧
    (∀ id u key p, r.get? id = some u → u.descriptor.inputs.get? key = some p →
      p.required = false → ∀ e ∈ g.edges, e.target = .unit id →
        e.source ≠ .context key ∧ e.source ≠ .missing key ∧ e.label ≠ .providesKey key) ∧
    (∀ key, Node.missing key ∈ g.nodes →
      ∃ id, (⟨.missing key, .unit id, .required⟩ : Edge) ∈ g.edges) ∧
    g.missingKeys.Pairwise (· < ·) ∧
    (∀ key, key ∈ g.missingKeys ↔
      ∃ id, (⟨.missing key, .unit id, .required⟩ : Edge) ∈ g.edges) := by
  obtain ⟨hg, hreg⟩ := Registry.resolves_of_buildGraph h
  have hneeded : ∀ id, r.Needed c target id ↔ Relation.ReflTransGen (r.Awaits c) target id :=
    fun id => Registry.needed_iff_reflTransGen hreg
  refine ⟨?_, ?_, hg.wellFormed.units_nodup, hg.wellFormed.edges_nodup, ?_, ?_, ?_,
    hg.missingKeys_sorted, fun _ => hg.mem_missingKeys⟩
  · exact fun id => (hg.units_iff id).trans (hneeded id)
  · exact fun id hid => ((hg.units_iff id).mp hid).registered
  · intro e
    simp only [hg.edges_iff, hneeded]
  · intro id u key p hu hp hopt e he ht
    exact hg.no_edge_of_optional hu hp hopt he ht
  · exact fun key => hg.missing_node_iff.mp

/-! ## Two producers of one key

A small registry in which the producers of a key are told apart by registration and by name: `z`
is registered first and `a` is sorted first, and `u` needs them both. -/

/-- A unit that requires texts and always returns the same ones. -/
def WorkUnit.constant (id : String) (requires : List String) (outputs : List (String × String)) :
    WorkUnit where
  descriptor :=
    { id, version := "1", name := id
      inputs := Table.ofList (requires.map fun key => (key, { type := .string, required := true }))
      outputs := KeySet.ofList (outputs.map Prod.fst) }
  execute := fun _ => .returned (Table.ofList (outputs.map fun o => (o.1, .ofString o.2)))

/-- Two producers of `k`, the second of them the only one of `m`, and a consumer of both keys. -/
def twoProducers : Registry := ({} : Registry).registerMany
  [.constant "z" [] [("k", "from z")],
    .constant "a" [] [("k", "from a"), ("m", "")],
    .constant "u" ["k", "m"] []]

/-- The provider graph of the consumer: `k` comes from the first registered producer. -/
def twoProducersGraph : ProviderGraph where
  target := "u"
  nodes := [.unit "u", .unit "z", .unit "a"]
  edges := [⟨.unit "z", .unit "u", .providesKey "k"⟩, ⟨.unit "a", .unit "u", .providesKey "m"⟩]

theorem buildGraph_twoProducers : twoProducers.buildGraph "u" {} = .ok twoProducersGraph := rfl

theorem buildGraph_exact_twoProducers :
    (∀ id, id ∈ twoProducersGraph.units ↔
      Relation.ReflTransGen (twoProducers.Awaits {}) "u" id) ∧
    (∀ e, e ∈ twoProducersGraph.edges ↔
      ∃ id u, Relation.ReflTransGen (twoProducers.Awaits {}) "u" id ∧
        twoProducers.get? id = some u ∧ twoProducers.Enters {} id u e) := by
  obtain ⟨hunits, -, -, -, hedges, -⟩ := buildGraph_exact buildGraph_twoProducers
  exact ⟨hunits, hedges⟩

end Workplan
