/-
# `Workplan.Proofs.Plan.Target` — every unit of a provider graph leads to its target

The search adds a unit because one that it knows already waits for it, so from every unit of the
graph a way of provider edges and requests leads to the target (`Resolves.leads_to_target`).  This
decides where the target stands in each of the two answers that list units.  In a plan it has a
longer chain behind it than any other unit, and so it is last and has its level for itself.  In the
report of a cycle it is always named: whatever cycle there is, the target lies behind it.

The report is not a list of units on cycles.  It names what cannot be placed, and that goes on from
a cycle to everything that waits for it; `cycle_report_members` says when nothing does.
-/
import Workplan.Proofs.Graph.Chains
import Workplan.Proofs.Plan.Growth
import Workplan.Proofs.Plan.Outcome

namespace Workplan

open ProviderGraph

variable {r : Registry} {c : Context} {target : String} {g : ProviderGraph}

/-- An edge from one unit to another: the first provides a key for the second, or is requested by
it. -/
def ProviderGraph.Serves (g : ProviderGraph) (p u : String) : Prop :=
  (∃ key, (⟨.unit p, .unit u, .providesKey key⟩ : Edge) ∈ g.edges) ∨
    (⟨.unit p, .unit u, .requested⟩ : Edge) ∈ g.edges

namespace ProviderGraph.Resolves

/-- No other labels stand on edges between units. -/
theorem serves_eq_feeds (hg : g.Resolves r c target) : g.Serves = g.Feeds := by
  funext p u
  refine propext (Iff.trans ?_ feeds_iff_exists_edge.symm)
  constructor
  · rintro (⟨key, he⟩ | he)
    · exact ⟨.providesKey key, he⟩
    · exact ⟨.requested, he⟩
  · rintro ⟨label, he⟩
    obtain ⟨id, w, -, -, hin⟩ := (hg.edges_iff _).mp he
    cases hin with
    | providesKey _ _ _ => exact Or.inl ⟨_, he⟩
    | requested _ _ => exact Or.inr he

theorem leads_to_target (hg : g.Resolves r c target) {id : String} (hid : id ∈ g.units) :
    Relation.ReflTransGen g.Feeds id target := by
  have hneeded := (hg.units_iff id).mp hid
  clear hid
  induction hneeded with
  | target _ => exact .refl
  | awaited hid hawaits _ ih => exact .head (hg.feeds_iff.mpr ⟨hid, hawaits⟩) ih

theorem leads_on (hg : g.Resolves r c target) {id : String} (hid : id ∈ g.units)
    (hne : id ≠ target) : Relation.TransGen g.Feeds id target := by
  rcases Relation.reflTransGen_iff_eq_or_transGen.mp (hg.leads_to_target hid) with heq | hway
  · exact absurd heq.symm hne
  · exact hway

theorem target_mem_units (hg : g.Resolves r c target) : target ∈ g.units :=
  mem_units.mpr (hg.target_eq ▸ hg.wellFormed.target_mem)

/-! ## The last level -/

/-- Every other unit stands in an earlier level than the target: its chain goes on to there. -/
theorem level_lt (hg : g.Resolves r c target) {levels : List (List String)}
    (hlev : g.Levelled levels) (htight : g.Tight levels) {i j : Nat} {id : String}
    (hi : InLevel levels i target) (hj : InLevel levels j id) (hne : id ≠ target) : j < i := by
  have hunit : id ∈ g.units := (hlev.mem_iff id).mp (mem_flatten_iff_inLevel.mpr ⟨j, hj⟩)
  obtain ⟨m, hm, hchain⟩ := (hlev.chainTo htight hj).trans (hg.leads_on hunit hne)
  exact hm.trans_le (hlev.layered.chain_le hchain hi)

theorem last_level (hg : g.Resolves r c target) {levels : List (List String)}
    (hlev : g.Levelled levels) (htight : g.Tight levels) :
    ∃ before, levels = before ++ [[target]] := by
  obtain ⟨i, hi⟩ := mem_flatten_iff_inLevel.mp ((hlev.mem_iff target).mpr hg.target_mem_units)
  rcases List.eq_nil_or_concat levels with rfl | ⟨before, last, rfl⟩
  · exact absurd hi.lt_length (Nat.not_lt_zero i)
  rw [List.concat_eq_append] at *
  have hlast : ∀ id ∈ last, id = target := by
    intro id hid
    by_contra hne
    have hin : InLevel (before ++ [last]) before.length id := ⟨last, by simp, hid⟩
    have hlt := hg.level_lt hlev htight hi hin hne
    have hbound := hi.lt_length
    rw [List.length_append, List.length_singleton] at hbound
    omega
  have hne : last ≠ [] := by
    rintro rfl
    exact htight.nil_notMem (by simp)
  obtain ⟨id, hid⟩ := List.exists_mem_of_ne_nil last hne
  have heq : last = [target] := by
    refine Text.eq_of_sorted_of_mem_iff (hlev.sorted last (by simp))
      (List.pairwise_singleton _ target) fun x => ?_
    rw [List.mem_singleton]
    constructor
    · exact hlast x
    · rintro rfl
      exact hlast id hid ▸ hid
  exact ⟨before, by rw [heq]⟩

end ProviderGraph.Resolves

/-- A plan ends with its target, which has the last level for itself, and every step before it is
there for the target's sake. -/
theorem target_last_and_alone {p : OrderedPlan} (h : r.buildPlan target c = .ok (.ordered p)) :
    ∃ before, p.levels = before ++ [[target]] ∧ p.steps = before.flatten ++ [target] ∧
      target ∉ before.flatten ∧
      ∃ g, r.buildGraph target c = .ok g ∧
        ∀ id ∈ p.steps, id ≠ target → Relation.TransGen g.Serves id target := by
  obtain ⟨g, hok, hg, hplan⟩ := Registry.graph_of_buildPlan h
  obtain ⟨horder, hsteps⟩ := layeredOrder_of_ordered hplan
  have hlev := levelled_of_layeredOrder hg.wellFormed horder
  obtain ⟨before, hlevels⟩ := hg.last_level hlev (tight_of_layeredOrder hg.wellFormed horder)
  have hflat : p.levels.flatten = before.flatten ++ [target] := by simp [hlevels]
  have halone : target ∉ before.flatten := by
    have hnodup := hlev.nodup
    rw [hflat] at hnodup
    exact fun hmem => (List.nodup_append.mp hnodup).2.2 target hmem target (by simp) rfl
  refine ⟨before, hlevels, hsteps.trans hflat, halone, g, hok, fun id hid hne => ?_⟩
  rw [hg.serves_eq_feeds]
  rw [hsteps] at hid
  exact hg.leads_on ((hlev.mem_iff id).mp hid) hne

/-- The plan for the consumer that requests a unit for its effects, while the flag is set. -/
def flaggedPlan : OrderedPlan where
  target := "u"
  steps := ["w", "z", "u"]
  levels := [["w", "z"], ["u"]]

theorem buildPlan_flagged : flagged.buildPlan "u" flagSet = .ok (.ordered flaggedPlan) := by
  cbv

theorem target_last_and_alone_flagged :
    flagged.buildPlan "u" flagSet = .ok (.ordered flaggedPlan) ∧
    (∃ before, flaggedPlan.levels = before ++ [["u"]] ∧ "u" ∉ before.flatten) ∧
    Relation.TransGen flaggedGraph.Serves "w" "u" := by
  obtain ⟨before, hlevels, -, halone, g, hok, hway⟩ := target_last_and_alone buildPlan_flagged
  obtain rfl : g = flaggedGraph := Except.ok.inj (hok.symm.trans buildGraph_flagged)
  exact ⟨buildPlan_flagged, ⟨before, hlevels, halone⟩, hway "w" (by simp [flaggedPlan]) (by decide)⟩

/-! ## The report of a cycle -/

namespace ProviderGraph.Resolves

variable {members : List String}

theorem target_mem_members (hg : g.Resolves r c target)
    (h : g.layeredOrder = .error members) : target ∈ members := by
  obtain ⟨-, hne, -⟩ := waiting_of_layeredOrder hg.wellFormed h
  obtain ⟨id, hid⟩ := List.exists_mem_of_ne_nil members hne
  obtain ⟨y, hcycle, hway⟩ := (mem_members_iff hg.wellFormed h).mp hid
  obtain ⟨_, hfeeds, -⟩ := Relation.TransGen.head'_iff.mp hcycle
  exact (mem_members_iff hg.wellFormed h).mpr
    ⟨y, hcycle, hg.leads_to_target (hg.wellFormed.provider_mem hfeeds)⟩

end ProviderGraph.Resolves

/-- The report of a cycle lists the units on cycles and all that wait for these, in order; the
target is always one of them.  So all that it lists are on cycles exactly if no edge leads from a
unit on a cycle to one that is on none. -/
theorem cycle_report_members {members : List String}
    (h : r.buildPlan target c = .ok (.infeasible (.cyclic members))) :
    ∃ g, r.buildGraph target c = .ok g ∧
      members.Pairwise (· < ·) ∧ (∀ id, id ∈ members ↔ BehindCycle g.Serves id) ∧
      target ∈ members ∧ (∃ id ∈ members, Relation.TransGen g.Serves id id) ∧
      ((∀ id ∈ members, Relation.TransGen g.Serves id id) ↔
        ∀ p u, g.Serves p u → Relation.TransGen g.Serves p p →
          Relation.TransGen g.Serves u u) := by
  obtain ⟨g, hok, hg, hplan⟩ := Registry.graph_of_buildPlan h
  have herror := layeredOrder_of_cyclic hplan
  obtain ⟨hsorted, hne, hwait⟩ := waiting_of_layeredOrder hg.wellFormed herror
  have hmembers : ∀ id, id ∈ members ↔ BehindCycle g.Serves id := by
    intro id
    rw [hg.serves_eq_feeds]
    exact mem_members_iff hg.wellFormed herror
  refine ⟨g, hok, hsorted, hmembers, hg.target_mem_members herror, ?_, ?_⟩
  · rw [hg.serves_eq_feeds]
    exact exists_transGen_self hne hwait
  · simp only [hmembers]
    exact forall_behindCycle_iff

/-! ### Two units on a cycle and one behind it -/

/-- Two units that wait for each other, and a third one that waits for the first. -/
def ringed : Registry := ({} : Registry).registerMany
  [.constant "a" ["x"] [("y", "")], .constant "b" ["y"] [("x", "")], .constant "t" ["y"] []]

def ringedGraph : ProviderGraph where
  target := "t"
  nodes := [.unit "t", .unit "a", .unit "b"]
  edges := [⟨.unit "a", .unit "t", .providesKey "y"⟩, ⟨.unit "b", .unit "a", .providesKey "x"⟩,
    ⟨.unit "a", .unit "b", .providesKey "y"⟩]

theorem buildGraph_ringed : ringed.buildGraph "t" {} = .ok ringedGraph := rfl

theorem buildPlan_ringed :
    ringed.buildPlan "t" {} = .ok (.infeasible (.cyclic ["a", "b", "t"])) := by
  cbv

theorem cycle_report_members_ringed :
    ringed.buildPlan "t" {} = .ok (.infeasible (.cyclic ["a", "b", "t"])) ∧
    (∀ id, id ∈ ["a", "b", "t"] ↔ BehindCycle ringedGraph.Serves id) ∧
    ∃ id ∈ ["a", "b", "t"], Relation.TransGen ringedGraph.Serves id id := by
  obtain ⟨g, hok, -, hmembers, -, hcycle, -⟩ := cycle_report_members buildPlan_ringed
  obtain rfl : g = ringedGraph := Except.ok.inj (hok.symm.trans buildGraph_ringed)
  exact ⟨buildPlan_ringed, hmembers, hcycle⟩

/-- The third unit is reported as a member of the cycle, and no edge of the graph leaves it. -/
theorem member_off_cycle :
    ringed.buildPlan "t" {} = .ok (.infeasible (.cyclic ["a", "b", "t"])) ∧
    ringed.buildGraph "t" {} = .ok ringedGraph ∧
    "t" ∈ ["a", "b", "t"] ∧ ¬ Relation.TransGen ringedGraph.Serves "t" "t" := by
  refine ⟨buildPlan_ringed, buildGraph_ringed, by simp, fun hcycle => ?_⟩
  obtain ⟨u, hserves, -⟩ := Relation.TransGen.head'_iff.mp hcycle
  simp [Serves, ringedGraph] at hserves

end Workplan
