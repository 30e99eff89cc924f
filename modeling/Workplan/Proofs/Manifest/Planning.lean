/-
# `Workplan.Proofs.Manifest.Planning` — a manifest without problems can always be planned

The check looks at one unit at a time, and at the manifest as it is written; planning walks from
unit to unit through the registry.  What the check excludes for each unit excludes two things on
the whole walk, whatever the context binds and whichever requests are active: no unit awaits an
identifier that is not registered, and no unit awaits itself.

So planning for a unit of the manifest has an outcome (`Manifest.Sound.not_dangles`), its provider
graph has no loop at a single node (`Manifest.Sound.not_awaits_self`), and where units wait for one
another in a circle there are two of them.
-/
import Workplan.Proofs.Manifest.Registration
import Workplan.Proofs.Plan.Outcome

namespace Workplan

/-! ## From what is registered back to the manifest -/

theorem Table.Beside.get?_right {α β : Type} {R : String → α → β → Prop} {t : Table α}
    {t' : Table β} (h : t.Beside R t') {key : String} {value' : β}
    (hvalue : t'.get? key = some value') :
    ∃ value, t.get? key = some value ∧ R key value value' := by
  have hkey : key ∈ t.keys := by
    rw [← h.keys_eq]
    exact (t'.contains_iff key).mp (contains_eq_true_iff.mpr ⟨value', hvalue⟩)
  obtain ⟨value, hget⟩ := contains_eq_true_iff.mp ((t.contains_iff key).mpr hkey)
  obtain ⟨other, hother, hR⟩ := h.get? hget
  cases hvalue.symm.trans hother
  exact ⟨value, hget, hR⟩

theorem Descriptor.Carries.required {d : Descriptor} {id key : String} {u : UnitSpec}
    (h : d.Carries id u) (hkey : key ∈ d.requiredKeys) :
    ∃ input, (key, input) ∈ u.inputs.entries ∧ input.required = true := by
  obtain ⟨p, hp, hrequired⟩ := mem_requiredKeys.mp hkey
  obtain ⟨input, hinput, hcarries⟩ := h.inputs.get?_right hp
  exact ⟨input, Table.get?_eq_some_iff.mp hinput, hcarries.required_eq.symm.trans hrequired⟩

theorem Descriptor.Carries.produces_iff {d : Descriptor} {id key : String} {u : UnitSpec}
    (h : d.Carries id u) : d.produces key = true ↔ key ∈ u.outputs := by
  rw [produces, KeySet.contains_iff, h.outputs_eq]

namespace Manifest.Sound

variable {m : Manifest} {host : Host} {r : Registry} {c : Context} {target : String}

theorem of_get? (hm : m.Sound host) (hr : m.registry host = .ok r) {id : String}
    {unit : WorkUnit} (hunit : r.get? id = some unit) :
    ∃ u, unit.descriptor.Carries id u ∧ u.Sound host m.units.keys id := by
  obtain ⟨u, hu, hmade⟩ := (beside_of_registry hr hm).get?_right hunit
  have hsound := hm.units (id, u) (Table.get?_eq_some_iff.mp hu)
  obtain ⟨d, script, hd, -, rfl⟩ := UnitSpec.command_of_toUnit hmade
  exact ⟨u, UnitSpec.carries_of_descriptor hd hsound.outputs_nodup, hsound⟩

theorem contains_iff (hm : m.Sound host) (hr : m.registry host = .ok r) {id : String} :
    r.contains id = true ↔ id ∈ m.units.keys := by
  rw [Registry.contains_iff_mem_ids, ← (beside_of_registry hr hm).keys_eq]
  rfl

theorem not_dangles (hm : m.Sound host) (hr : m.registry host = .ok r)
    (htarget : target ∈ m.units.keys) (id : String) : ¬ r.Dangles c target id := by
  intro h
  cases h with
  | target hnone =>
      have := (hm.contains_iff hr).mpr htarget
      rw [hnone] at this
      cases this
  | @request id unit q _ hunit hq _ hnone =>
      obtain ⟨u, hcarries, hsound⟩ := hm.of_get? hr hunit
      rw [hcarries.requests_eq] at hq
      have := (hm.contains_iff hr).mpr (hsound.requests q hq).2
      rw [hnone] at this
      cases this

/-- A unit awaits itself neither for a key, since it requires none of its own outputs, nor by a
request. -/
theorem not_awaits_self (hm : m.Sound host) (hr : m.registry host = .ok r) {id : String} :
    ¬ r.Awaits c id id := by
  intro h
  cases h with
  | @producer unit key _ hunit hkey _ hfirst =>
      obtain ⟨u, hcarries, hsound⟩ := hm.of_get? hr hunit
      obtain ⟨unit', hunit', hproduces⟩ := hfirst.get?
      cases hunit.symm.trans hunit'
      obtain ⟨input, hinput, hrequired⟩ := hcarries.required hkey
      exact (hsound.inputs _ hinput).foreign hrequired (hcarries.produces_iff.mp hproduces)
  | @request unit q hunit hq _ =>
      obtain ⟨u, hcarries, hsound⟩ := hm.of_get? hr hunit
      rw [hcarries.requests_eq] at hq
      exact (hsound.requests q hq).1 rfl

end Manifest.Sound

/-! ## Graphs without loops at a node -/

namespace ProviderGraph

variable {g : ProviderGraph}

theorem two_members (hg : g.WellFormed) (hself : ∀ id, ¬ g.Feeds id id)
    {members : List String} (h : g.toPlan = .infeasible (.cyclic members)) :
    ∃ a ∈ members, ∃ b ∈ members, a ≠ b := by
  obtain ⟨-, hne, hwait⟩ := waiting_of_layeredOrder hg (layeredOrder_of_cyclic h)
  obtain ⟨id, hid⟩ := List.exists_mem_of_ne_nil members hne
  obtain ⟨p, hp, hfeeds⟩ := hwait id hid
  exact ⟨p, hp, id, hid, fun heq => hself id (heq ▸ hfeeds)⟩

theorem Resolves.feeds_of_loop {r : Registry} {c : Context} {target : String}
    (hg : g.Resolves r c target) {e : Edge} (he : e ∈ g.edges) (hloop : e.source = e.target) :
    ∃ id, g.Feeds id id := by
  obtain ⟨id, u, -, -, hin⟩ := (hg.edges_iff e).mp he
  have htarget := hin.target_eq
  refine ⟨id, feeds_iff_exists_edge.mpr ⟨e.label, ?_⟩⟩
  rw [← htarget]
  nth_rewrite 1 [← hloop]
  exact he

end ProviderGraph

/-- A manifest without problems can be planned for each of its units in every context.  No unit is
ever found missing, no edge of the provider graph leads from a unit to itself, and a cycle that
stands in the way of an order has at least two units. -/
theorem manifest_without_problems_plans (m : Manifest) (host : Host)
    (h : m.problems host = []) :
    ∃ r, m.registry host = .ok r ∧ ∀ id ∈ m.units.keys, ∀ c : Context,
      ∃ g, r.buildGraph id c = .ok g ∧ r.buildPlan id c = .ok g.toPlan ∧
        (∀ e ∈ g.edges, e.source ≠ e.target) ∧
        ∀ members, g.toPlan = .infeasible (.cyclic members) →
          ∃ a ∈ members, ∃ b ∈ members, a ≠ b := by
  have hm := Manifest.problems_eq_nil_iff.mp h
  cases hr : m.registry host with
  | error problem =>
      have hproblem := Manifest.mem_problems_of_registry hr
      rw [h] at hproblem
      cases hproblem
  | ok r =>
      refine ⟨r, rfl, fun id hid c => ?_⟩
      rcases Registry.buildGraph_cases r id c with ⟨g, hg, hres, -⟩ | ⟨x, -, hx⟩
      · have hself : ∀ id, ¬ g.Feeds id id := fun _ hfeeds =>
          hm.not_awaits_self hr (hres.feeds_iff.mp hfeeds).2
        refine ⟨g, hg, by rw [Registry.buildPlan, hg]; rfl, fun e he hloop => ?_,
          fun members => ProviderGraph.two_members hres.wellFormed hself⟩
        obtain ⟨u, hu⟩ := hres.feeds_of_loop he hloop
        exact hself u hu
      · exact absurd hx (hm.not_dangles hr hid x)

/-! ## Two units that wait for each other -/

/-- A unit that requires what another one makes, which asks the first to run before it. -/
def standoff : Manifest where
  version := "1.0"
  name := "standoff"
  units := Table.ofList
    [("org.left",
        { inputs := Table.ofList [("key", { type := .string, required := true })]
          run := some "cat" }),
      ("org.right",
        { outputs := ["key"]
          requests := [⟨"org.left", none⟩]
          run := some "echo a" })]

theorem problems_standoff : standoff.problems .fresh = [] := by
  decide +kernel

/-- The provider graph of the first of them, in a context that binds nothing. -/
def standoffGraph : ProviderGraph where
  target := "org.left"
  nodes := [.unit "org.left", .unit "org.right"]
  edges := [⟨.unit "org.right", .unit "org.left", .providesKey "key"⟩,
    ⟨.unit "org.left", .unit "org.right", .requested⟩]

theorem buildGraph_standoff :
    (standoff.registry .fresh).map (fun r => r.buildGraph "org.left" {}) =
      .ok (.ok standoffGraph) := rfl

theorem toPlan_standoffGraph :
    standoffGraph.toPlan = .infeasible (.cyclic ["org.left", "org.right"]) := by
  cbv

theorem manifest_without_problems_plans_standoff :
    standoff.problems .fresh = [] ∧
    ∃ r, standoff.registry .fresh = .ok r ∧
      ∃ g, r.buildGraph "org.left" {} = .ok g ∧
        (∀ e ∈ g.edges, e.source ≠ e.target) ∧
        g.toPlan = .infeasible (.cyclic ["org.left", "org.right"]) ∧
        ∃ a ∈ ["org.left", "org.right"], ∃ b ∈ ["org.left", "org.right"], a ≠ b := by
  obtain ⟨r, hr, hplans⟩ := manifest_without_problems_plans standoff .fresh problems_standoff
  obtain ⟨g, hg, -, hloops, hmembers⟩ := hplans "org.left" (by decide) {}
  have hgraph := buildGraph_standoff
  rw [hr] at hgraph
  obtain rfl : g = standoffGraph := Except.ok.inj (hg.symm.trans (Except.ok.inj hgraph))
  exact ⟨problems_standoff, r, hr, _, hg, hloops, toPlan_standoffGraph,
    hmembers _ toPlan_standoffGraph⟩

end Workplan
