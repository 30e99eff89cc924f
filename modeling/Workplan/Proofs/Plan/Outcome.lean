/-
# `Workplan.Proofs.Plan.Outcome` — the outcome of planning, decided by what the target needs

Planning has four outcomes, and each is decided by the closure `Needed` alone.  An identifier
without a unit stops it; failing that, the keys that nothing supplies are reported, all of them,
whether or not there are cycles as well; failing that, a cycle of waiting is reported; and
otherwise there is a plan, which runs everything that is needed once, in levels, each unit after
all those that it waits for.

The plan itself, too, is settled by what is needed and who awaits whom there: `buildPlan_congr`
compares the plans over two registries in two contexts.
-/
import Mathlib
import Workplan.Plan
import Workplan.Proofs.Graph.Levels
import Workplan.Proofs.Graph.Providers

namespace Workplan

open ProviderGraph

variable {r : Registry} {c : Context} {target : String} {g : ProviderGraph}

/-- The plan runs what the target needs: once each, and after everything it waits for. -/
structure OrderedPlan.Schedules (p : OrderedPlan) (r : Registry) (c : Context)
    (target : String) : Prop where
  target_eq : p.target = target
  steps_eq : p.steps = p.levels.flatten
  nodup : p.steps.Nodup
  mem_iff : ∀ id, id ∈ p.steps ↔ r.Needed c target id
  awaited_before : ∀ before level after, p.levels = before ++ level :: after →
    ∀ id ∈ level, ∀ q, r.Awaits c id q → q ∈ before.flatten

/-! ## From a plan back to its graph -/

theorem Registry.graph_of_buildPlan {plan : Plan} (h : r.buildPlan target c = .ok plan) :
    ∃ g, r.buildGraph target c = .ok g ∧ g.Resolves r c target ∧ g.toPlan = plan := by
  rcases buildGraph_cases r target c with ⟨g, hg, hres, -⟩ | ⟨id, hid, -⟩
  · rw [buildPlan, hg] at h
    exact ⟨g, hg, hres, Except.ok.inj h⟩
  · rw [buildPlan, hid] at h
    cases h

namespace ProviderGraph

theorem toPlan_eq_cases (g : ProviderGraph) :
    (g.missingKeys ≠ [] ∧ g.toPlan = .infeasible (.missing g.missingKeys)) ∨
    (g.missingKeys = [] ∧
      ((∃ levels, g.layeredOrder = .ok levels ∧
        g.toPlan = .ordered { target := g.target, steps := levels.flatten, levels }) ∨
      ∃ members, g.layeredOrder = .error members ∧
        g.toPlan = .infeasible (.cyclic members))) := by
  unfold toPlan
  cases g.missingKeys with
  | cons key keys => exact Or.inl ⟨List.cons_ne_nil key keys, rfl⟩
  | nil =>
      refine Or.inr ⟨rfl, ?_⟩
      cases g.layeredOrder with
      | ok levels => exact Or.inl ⟨levels, rfl, rfl⟩
      | error members => exact Or.inr ⟨members, rfl, rfl⟩

theorem layeredOrder_of_ordered {p : OrderedPlan} (h : g.toPlan = .ordered p) :
    g.layeredOrder = .ok p.levels ∧ p.steps = p.levels.flatten := by
  rcases g.toPlan_eq_cases with ⟨-, hplan⟩ | ⟨-, ⟨levels, horder, hplan⟩ | ⟨members, -, hplan⟩⟩
  · cases hplan.symm.trans h
  · cases hplan.symm.trans h
    exact ⟨horder, rfl⟩
  · cases hplan.symm.trans h

theorem layeredOrder_of_cyclic {members : List String}
    (h : g.toPlan = .infeasible (.cyclic members)) : g.layeredOrder = .error members := by
  rcases g.toPlan_eq_cases with ⟨-, hplan⟩ | ⟨-, ⟨levels, -, hplan⟩ | ⟨others, horder, hplan⟩⟩
  · cases hplan.symm.trans h
  · cases hplan.symm.trans h
  · cases hplan.symm.trans h
    exact horder

end ProviderGraph

/-! ## The outcome, said without a search -/

namespace ProviderGraph.Resolves

/-- The cycles of the graph are the cycles of waiting among the needed units. -/
theorem circular_iff (hg : g.Resolves r c target) :
    r.Circular c target ↔ ¬ g.Acyclic := by
  have hrel : (fun a b => r.Needed c target a ∧ r.Needed c target b ∧ r.Awaits c a b) =
      Function.swap g.Feeds := by
    funext a b
    refine propext ⟨fun ⟨ha, _, hw⟩ => hg.feeds_iff.mpr ⟨ha, hw⟩, fun h => ?_⟩
    obtain ⟨ha, hw⟩ := hg.feeds_iff.mp h
    exact ⟨ha, (hg.units_iff b).mp (hg.wellFormed.provider_mem h), hw⟩
  simp only [Registry.Circular, Acyclic, hrel, Relation.transGen_swap, not_forall, not_not]

theorem toPlan_cases (hg : g.Resolves r c target) :
    (∃ key, r.Lacks c target key) ∧ g.toPlan = .infeasible (.missing g.missingKeys) ∨
    (¬ ∃ key, r.Lacks c target key) ∧
      ((∃ levels, g.Levelled levels ∧
        g.toPlan = .ordered { target := g.target, steps := levels.flatten, levels }) ∨
      ∃ members, ¬ g.Acyclic ∧ g.toPlan = .infeasible (.cyclic members)) := by
  have hlacks : g.missingKeys ≠ [] ↔ ∃ key, r.Lacks c target key := by
    simp only [ne_eq, List.eq_nil_iff_forall_not_mem, not_forall, not_not,
      hg.mem_missingKeys_iff_lacks]
  rcases g.toPlan_eq_cases with ⟨hkeys, hplan⟩ | ⟨hkeys, hplan⟩
  · exact Or.inl ⟨hlacks.mp hkeys, hplan⟩
  · refine Or.inr ⟨fun h => hlacks.mpr h hkeys, ?_⟩
    rcases hplan with ⟨levels, horder, hplan⟩ | ⟨members, horder, hplan⟩
    · exact Or.inl ⟨levels, levelled_of_layeredOrder hg.wellFormed horder, hplan⟩
    · obtain ⟨-, hne, hwait⟩ := waiting_of_layeredOrder hg.wellFormed horder
      exact Or.inr ⟨members, not_acyclic_of_members hne hwait, hplan⟩

theorem schedules (hg : g.Resolves r c target) {levels : List (List String)}
    (hlev : g.Levelled levels) :
    OrderedPlan.Schedules { target := g.target, steps := levels.flatten, levels } r c target where
  target_eq := hg.target_eq
  steps_eq := rfl
  nodup := hlev.nodup
  mem_iff := fun id => (hlev.mem_iff id).trans (hg.units_iff id)
  awaited_before := by
    rintro before level after rfl id hid q hq
    have hneeded : r.Needed c target id := by
      rw [← hg.units_iff, ← hlev.mem_iff]
      exact List.mem_flatten.mpr ⟨level, by simp, hid⟩
    simpa using hlev.layered.provider_before hid (hg.feeds_iff.mpr ⟨hneeded, hq⟩)

end ProviderGraph.Resolves

/-- The outcome of planning, from what the target needs. -/
inductive PlanOutcome (r : Registry) (c : Context) (target : String) :
    Except PlanError Plan → Prop
  | unknown {id : String} : r.Dangles c target id →
      PlanOutcome r c target (.error (.unitNotFound id))
  | missing {keys : List String} : (¬ ∃ id, r.Dangles c target id) →
      keys ≠ [] → keys.Pairwise (· < ·) → (∀ key, key ∈ keys ↔ r.Lacks c target key) →
      PlanOutcome r c target (.ok (.infeasible (.missing keys)))
  | cyclic {members : List String} : (¬ ∃ id, r.Dangles c target id) →
      (¬ ∃ key, r.Lacks c target key) → r.Circular c target →
      PlanOutcome r c target (.ok (.infeasible (.cyclic members)))
  | ordered {plan : OrderedPlan} : (¬ ∃ id, r.Dangles c target id) →
      (¬ ∃ key, r.Lacks c target key) → ¬ r.Circular c target → plan.Schedules r c target →
      PlanOutcome r c target (.ok (.ordered plan))

theorem planOutcome_buildPlan (r : Registry) (target : String) (c : Context) :
    PlanOutcome r c target (r.buildPlan target c) := by
  unfold Registry.buildPlan
  rcases Registry.buildGraph_cases r target c with ⟨g, hg, hres, hreg⟩ | ⟨id, hid, hdangle⟩
  · have hnone : ¬ ∃ id, r.Dangles c target id := fun ⟨id, h⟩ => hreg id h
    rw [hg]
    show PlanOutcome r c target (.ok g.toPlan)
    rcases hres.toPlan_cases with ⟨⟨key, hkey⟩, hp⟩ | ⟨hkeys, ⟨levels, hlev, hp⟩ | ⟨ms, hcyc, hp⟩⟩
    · rw [hp]
      refine .missing hnone ?_ hres.missingKeys_sorted fun _ => hres.mem_missingKeys_iff_lacks
      exact List.ne_nil_of_mem (hres.mem_missingKeys_iff_lacks.mpr hkey)
    · rw [hp]
      refine .ordered hnone hkeys ?_ (hres.schedules hlev)
      rw [hres.circular_iff]
      exact not_not.mpr (hlev.acyclic hres.wellFormed)
    · rw [hp]
      exact .cyclic hnone hkeys (hres.circular_iff.mpr hcyc)
  · rw [hid]
    exact .unknown hdangle

theorem schedules_of_buildPlan {p : OrderedPlan} (h : r.buildPlan target c = .ok (.ordered p)) :
    p.Schedules r c target ∧ ¬ ∃ key, r.Lacks c target key := by
  have hout := planOutcome_buildPlan r target c
  rw [h] at hout
  cases hout with
  | ordered _ hkeys _ hs => exact ⟨hs, hkeys⟩

/-- Planning is decided by what the target needs: an identifier without a unit comes first, then
the keys that nothing supplies, reported whole, then a cycle of waiting, and otherwise there is a
plan of everything needed, providers in earlier levels. -/
theorem buildPlan_outcome (r : Registry) (target : String) (c : Context) :
    ((∃ id, r.buildPlan target c = .error (.unitNotFound id)) ↔ ∃ id, r.Dangles c target id) ∧
    (∀ id, r.buildPlan target c = .error (.unitNotFound id) → r.Dangles c target id) ∧
    (∀ keys, r.buildPlan target c = .ok (.infeasible (.missing keys)) ↔
      (¬ ∃ id, r.Dangles c target id) ∧ (∃ key, r.Lacks c target key) ∧
        keys.Pairwise (· < ·) ∧ ∀ key, key ∈ keys ↔ r.Lacks c target key) ∧
    ((∃ members, r.buildPlan target c = .ok (.infeasible (.cyclic members))) ↔
      (¬ ∃ id, r.Dangles c target id) ∧ (¬ ∃ key, r.Lacks c target key) ∧
        r.Circular c target) ∧
    ((∃ plan, r.buildPlan target c = .ok (.ordered plan)) ↔
      (¬ ∃ id, r.Dangles c target id) ∧ (¬ ∃ key, r.Lacks c target key) ∧
        ¬ r.Circular c target) ∧
    (∀ plan, r.buildPlan target c = .ok (.ordered plan) → plan.Schedules r c target) := by
  have hout := planOutcome_buildPlan r target c
  generalize r.buildPlan target c = outcome at hout
  cases hout with
  | @unknown id hid =>
      have hsome : ∃ id, r.Dangles c target id := ⟨id, hid⟩
      simp [hsome, hid]
  | @missing keys hnone hne hsorted hmem =>
      have hlacks : ∃ key, r.Lacks c target key := by
        obtain ⟨key, hkey⟩ := List.exists_mem_of_ne_nil keys hne
        exact ⟨key, (hmem key).mp hkey⟩
      refine ⟨by simp [hnone], by simp, fun keys' => ?_, by simp [hlacks], by simp [hlacks],
        by simp⟩
      simp only [Except.ok.injEq, Plan.infeasible.injEq, Infeasibility.missing.injEq]
      constructor
      · rintro rfl
        exact ⟨hnone, hlacks, hsorted, hmem⟩
      · rintro ⟨-, -, hsorted', hmem'⟩
        exact Text.eq_of_sorted_of_mem_iff hsorted hsorted' fun key =>
          (hmem key).trans (hmem' key).symm
  | cyclic hnone hkeys hcyc => simp [hnone, hkeys, hcyc]
  | @ordered plan hnone hkeys hcyc hs => simp [hnone, hkeys, hcyc, hs]

/-! ## What the plan depends on

A plan depends on the registry and on the context through what is needed, who awaits whom there,
and what is lacking. -/

section Congruence

variable {r' : Registry} {c' : Context}
  (hneeded : ∀ id, r.Needed c target id ↔ r'.Needed c' target id)
  (hawaits : ∀ id, r.Needed c target id → ∀ p, r.Awaits c id p ↔ r'.Awaits c' id p)
  (hlacks : ∀ key, r.Lacks c target key ↔ r'.Lacks c' target key)

include hneeded hawaits hlacks

theorem ProviderGraph.Resolves.toPlan_congr {g' : ProviderGraph} (hg : g.Resolves r c target)
    (hg' : g'.Resolves r' c' target) : g.toPlan = g'.toPlan := by
  have htarget : g.target = g'.target := hg.target_eq.trans hg'.target_eq.symm
  have hkeys : g.missingKeys = g'.missingKeys :=
    Text.eq_of_sorted_of_mem_iff hg.missingKeys_sorted hg'.missingKeys_sorted fun key => by
      rw [hg.mem_missingKeys_iff_lacks, hg'.mem_missingKeys_iff_lacks, hlacks]
  have horder : g.layeredOrder = g'.layeredOrder := by
    refine layeredOrder_congr (fun id => ?_) (fun p u => ?_) hg.wellFormed hg'.wellFormed
    · rw [hg.units_iff, hg'.units_iff, hneeded]
    · rw [hg.feeds_iff, hg'.feeds_iff, ← hneeded]
      exact and_congr_right fun hu => hawaits u hu p
  simp only [toPlan, hkeys, horder, htarget]

/-- As long as nothing dangles, planning for the same needs gives the same plan. -/
theorem buildPlan_congr (hdangles : ∀ id, ¬ r.Dangles c target id)
    (hdangles' : ∀ id, ¬ r'.Dangles c' target id) :
    r.buildPlan target c = r'.buildPlan target c' := by
  rcases Registry.buildGraph_cases r target c with ⟨g, hok, hg, -⟩ | ⟨id, -, hid⟩
  · rcases Registry.buildGraph_cases r' target c' with ⟨g', hok', hg', -⟩ | ⟨id, -, hid⟩
    · simp only [Registry.buildPlan, hok, hok', Except.map,
        hg.toPlan_congr hneeded hawaits hlacks hg']
    · exact absurd hid (hdangles' id)
  · exact absurd hid (hdangles id)

end Congruence

/-! ## The plan for the two producers -/

/-- The plan for the consumer, whose first level is sorted by name. -/
def twoProducersPlan : OrderedPlan where
  target := "u"
  steps := ["a", "z", "u"]
  levels := [["a", "z"], ["u"]]

theorem buildPlan_twoProducers :
    twoProducers.buildPlan "u" {} = .ok (.ordered twoProducersPlan) := by
  cbv

end Workplan
