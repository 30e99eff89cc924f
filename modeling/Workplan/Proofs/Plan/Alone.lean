/-
# `Workplan.Proofs.Plan.Alone` — units that run by themselves

The registry lists the units that can run on a set of keys alone, and it does so without a graph:
it looks at the required inputs and at nothing else.  Planning asks more, and asks it of every unit
on the way.  The two meet in the plan of a single step: a unit is planned alone exactly if all its
required keys are bound and none of its requests is active (`buildPlan_alone_iff`), for then it
awaits nothing, and where it awaits something, itself included, there is no such plan.

What the listing adds to this is that a unit makes use of some key that is there.
-/
import Workplan.Proofs.Plan.Growth
import Workplan.Proofs.Graph.Chains

namespace Workplan

open ProviderGraph

variable {r : Registry} {c : Context} {id : String} {u : WorkUnit}

/-! ## Plans of one step -/

/-- The plan that runs its target and nothing else. -/
def OrderedPlan.alone (target : String) : OrderedPlan where
  target := target
  steps := [target]
  levels := [[target]]

theorem eq_singleton_of_flatten {levels : List (List String)} (h : levels.flatten = [id])
    (hnil : [] ∉ levels) : levels = [[id]] := by
  match levels, h, hnil with
  | [level], h, _ => rw [← h, List.flatten_singleton]
  | [] :: _ :: _, _, hnil => exact absurd List.mem_cons_self hnil
  | (x :: xs) :: [] :: _, _, hnil => exact absurd (by simp) hnil
  | (x :: xs) :: (y :: ys) :: _, h, _ => simp at h

namespace Registry

theorem needed_iff_eq (hu : r.get? id = some u) (hawaits : ∀ p, ¬ r.Awaits c id p) (p : String) :
    r.Needed c id p ↔ p = id := by
  constructor
  · intro hneeded
    induction hneeded with
    | target _ => rfl
    | awaited _ hstep _ ih => exact absurd (ih ▸ hstep) (hawaits _)
  · rintro rfl
    exact .target (contains_of_get? hu)

/-- The context binds all that the unit requires, and nothing is to run before it. -/
structure RunsAlone (c : Context) (u : WorkUnit) : Prop where
  bound : ∀ key ∈ u.descriptor.requiredKeys, c.contains key = true
  quiet : ∀ q ∈ u.descriptor.requests, q.active c = false

namespace RunsAlone

variable (hu : r.get? id = some u) (h : RunsAlone c u)

include hu h

theorem not_awaits (p : String) : ¬ r.Awaits c id p := by
  intro hawaits
  cases hawaits with
  | producer hu' hkey hfree _ =>
      cases hu.symm.trans hu'
      exact Bool.noConfusion (hfree.symm.trans (h.bound _ hkey))
  | request hu' hq hactive =>
      cases hu.symm.trans hu'
      exact Bool.noConfusion (hactive.symm.trans (h.quiet _ hq))

theorem needed_iff (p : String) : r.Needed c id p ↔ p = id :=
  needed_iff_eq hu (h.not_awaits hu) p

theorem not_dangles (p : String) : ¬ r.Dangles c id p := by
  intro hdangles
  cases hdangles with
  | target hreg => exact Bool.noConfusion (hreg.symm.trans (contains_of_get? hu))
  | request hneeded hu' hq hactive _ =>
      obtain rfl := (h.needed_iff hu _).mp hneeded
      exact h.not_awaits hu _ (.request hu' hq hactive)

theorem not_lacks (key : String) : ¬ r.Lacks c id key := by
  rintro ⟨p, w, hneeded, hw, hkey, hfree, -⟩
  obtain rfl := (h.needed_iff hu p).mp hneeded
  cases hu.symm.trans hw
  exact Bool.noConfusion (hfree.symm.trans (h.bound key hkey))

theorem not_circular : ¬ r.Circular c id := by
  rintro ⟨p, hcycle⟩
  obtain ⟨q, ⟨hneeded, -, hawaits⟩, -⟩ := Relation.TransGen.head'_iff.mp hcycle
  obtain rfl := (h.needed_iff hu p).mp hneeded
  exact h.not_awaits hu q hawaits

theorem eq_alone {p : OrderedPlan} (hplan : r.buildPlan id c = .ok (.ordered p)) :
    p = .alone id := by
  obtain ⟨hs, -⟩ := schedules_of_buildPlan hplan
  have hsteps : p.steps = [id] := by
    refine List.perm_singleton.mp ?_
    refine (List.perm_ext_iff_of_nodup hs.nodup (List.nodup_singleton id)).mpr fun q => ?_
    rw [hs.mem_iff, h.needed_iff hu, List.mem_singleton]
  obtain ⟨g, -, hg, htoPlan⟩ := graph_of_buildPlan hplan
  obtain ⟨horder, -⟩ := layeredOrder_of_ordered htoPlan
  have hlevels : p.levels = [[id]] :=
    eq_singleton_of_flatten (hs.steps_eq.symm.trans hsteps)
      (tight_of_layeredOrder hg.wellFormed horder).nil_notMem
  calc
    p = ⟨p.target, p.steps, p.levels⟩ := rfl
    _ = .alone id := by
      rw [hs.target_eq, hsteps, hlevels]
      rfl

theorem buildPlan_eq : r.buildPlan id c = .ok (.ordered (.alone id)) := by
  have hout := planOutcome_buildPlan r id c
  cases hplan : r.buildPlan id c with
  | error e =>
      rw [hplan] at hout
      cases hout with
      | unknown hdangles => exact absurd hdangles (h.not_dangles hu _)
  | ok plan =>
      rw [hplan] at hout
      cases hout with
      | missing _ hne _ hmem =>
          obtain ⟨key, hkey⟩ := List.exists_mem_of_ne_nil _ hne
          exact absurd ((hmem key).mp hkey) (h.not_lacks hu key)
      | cyclic _ _ hcircular => exact absurd hcircular (h.not_circular hu)
      | ordered _ _ _ _ => rw [h.eq_alone hu hplan]

end RunsAlone

/-- A unit that is planned alone awaits nothing: what it awaits stands in an earlier level. -/
theorem not_awaits_of_alone (hplan : r.buildPlan id c = .ok (.ordered (.alone id))) (p : String) :
    ¬ r.Awaits c id p := by
  intro hawaits
  obtain ⟨hs, -⟩ := schedules_of_buildPlan hplan
  exact List.not_mem_nil (hs.awaited_before [] [id] [] rfl id List.mem_cons_self p hawaits)

theorem runsAlone_of_alone (hu : r.get? id = some u)
    (hplan : r.buildPlan id c = .ok (.ordered (.alone id))) : RunsAlone c u where
  bound := by
    intro key hkey
    by_contra hfree
    have hfree := Bool.eq_false_iff.mpr hfree
    rcases r.firstProducer_or_unproduced key with ⟨p, hp⟩ | hnone
    · exact not_awaits_of_alone hplan p (.producer hu hkey hfree hp)
    · obtain ⟨-, hkeys⟩ := schedules_of_buildPlan hplan
      exact hkeys ⟨key, id, u, .target (contains_of_get? hu), hu, hkey, hfree, hnone⟩
  quiet := by
    intro q hq
    by_contra hactive
    exact not_awaits_of_alone hplan q.id (.request hu hq (Bool.of_not_eq_false hactive))

/-- A unit is planned alone exactly if its required keys are bound and its requests at rest. -/
theorem buildPlan_alone_iff (hu : r.get? id = some u) :
    r.buildPlan id c = .ok (.ordered (.alone id)) ↔ RunsAlone c u :=
  ⟨runsAlone_of_alone hu, fun h => h.buildPlan_eq hu⟩

end Registry

/-! ## The listing by keys -/

theorem Context.mem_sortedKeys {key : String} :
    key ∈ c.values.sortedKeys ↔ c.contains key = true := by
  rw [Table.sortedKeys, List.mem_mergeSort, Context.contains, Table.contains_iff]

namespace Registry

theorem runnableOn_iff :
    runnableOn c.values.sortedKeys u = true ↔
      (∃ key ∈ u.descriptor.inputs.keys, c.contains key = true) ∧
        ∀ key ∈ u.descriptor.requiredKeys, c.contains key = true := by
  simp only [runnableOn, Bool.and_eq_true, List.any_eq_true, List.all_eq_true,
    List.contains_iff_mem, Context.mem_sortedKeys]

theorem ids_byAttributes (r : Registry) (available : List String) :
    (r.byAttributes available).map WorkUnit.id =
      (r.units.entries.filter fun e => runnableOn available e.2).map Prod.fst := by
  rw [byAttributes, List.map_map]
  exact List.map_congr_left fun e he => r.keyed e (List.mem_of_mem_filter he)

theorem mem_ids_byAttributes (hu : r.get? id = some u) (available : List String) :
    id ∈ (r.byAttributes available).map WorkUnit.id ↔ runnableOn available u = true := by
  rw [ids_byAttributes, List.mem_map]
  constructor
  · rintro ⟨⟨key, w⟩, he, rfl⟩
    obtain ⟨he, hruns⟩ := List.mem_filter.mp he
    cases hu.symm.trans (Table.get?_eq_some_iff.mpr he)
    exact hruns
  · intro hruns
    exact ⟨(id, u), List.mem_filter.mpr ⟨Table.get?_eq_some_iff.mp hu, hruns⟩, rfl⟩

end Registry

/-- Of the units that make use of a key of the context and have no request to follow, the keys list
exactly those that are planned alone.  A unit that makes use of none is not listed, and the listing
keeps the order of registration. -/
theorem listing_agrees_with_planning (hu : r.get? id = some u) :
    ((∃ key ∈ u.descriptor.inputs.keys, c.contains key = true) →
      (∀ q ∈ u.descriptor.requests, q.active c = false) →
        (id ∈ (r.byAttributes c.values.sortedKeys).map WorkUnit.id ↔
          r.buildPlan id c = .ok (.ordered (.alone id)))) ∧
    ((∀ key ∈ u.descriptor.inputs.keys, c.contains key = false) →
      id ∉ (r.byAttributes c.values.sortedKeys).map WorkUnit.id) ∧
    ((r.byAttributes c.values.sortedKeys).map WorkUnit.id).Sublist r.ids := by
  rw [Registry.mem_ids_byAttributes hu, Registry.runnableOn_iff, Registry.buildPlan_alone_iff hu]
  refine ⟨fun hused hquiet => ?_, fun hunused hlisted => ?_, ?_⟩
  · constructor
    · rintro ⟨-, hbound⟩
      exact ⟨hbound, hquiet⟩
    · intro h
      exact ⟨hused, h.bound⟩
  · obtain ⟨⟨key, hkey, hbound⟩, -⟩ := hlisted
    exact Bool.noConfusion (hbound.symm.trans (hunused key hkey))
  · rw [Registry.ids_byAttributes]
    exact List.filter_sublist.map Prod.fst

/-- The key of the consumer is given, and its flag is not set. -/
def onlyGiven : Context := Context.insert {} "k" (.ofString "given")

theorem listing_agrees_with_planning_given :
    ∃ u, flagged.get? "u" = some u ∧
      (∃ key ∈ u.descriptor.inputs.keys, onlyGiven.contains key = true) ∧
      (∀ q ∈ u.descriptor.requests, q.active onlyGiven = false) ∧
      "u" ∈ (flagged.byAttributes onlyGiven.values.sortedKeys).map WorkUnit.id ∧
      flagged.buildPlan "u" onlyGiven = .ok (.ordered (.alone "u")) := by
  have hconsumer : flagged.get? "u" = some _ := rfl
  refine ⟨_, hconsumer, ?_⟩
  have hused : ∃ key ∈ ["k"], onlyGiven.contains key = true := by decide
  have hquiet : ∀ q ∈ [(⟨"w", some "flag"⟩ : Request)], q.active onlyGiven = false := by decide
  have hplan : flagged.buildPlan "u" onlyGiven = .ok (.ordered (.alone "u")) := by cbv
  obtain ⟨hagree, -, -⟩ := listing_agrees_with_planning (c := onlyGiven) hconsumer
  exact ⟨hused, hquiet, (hagree hused hquiet).mpr hplan, hplan⟩

end Workplan
