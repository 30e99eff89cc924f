/-
# `Workplan.Proofs.Graph.Chains` — the level of a unit is the length of its longest chain

`Levelled` says that a unit waits for units of earlier levels only, so no chain that ends in it is
longer than the number of its level.  The rounds keep a second fact, `Tight`: a unit of a later
level waits for one of the level right before, so a chain of just that length does end in it.
Together they settle the levels without the rounds: `Levelled.inLevel_iff`.

What no level takes is settled too.  Waiting is well-founded at every unit that was placed, and
every unit left over waits for another one left over; so those left over are exactly the units on
a cycle and behind one, `mem_members_iff`.
-/
import Mathlib
import Workplan.Proofs.Graph.Levels

namespace Workplan.ProviderGraph

variable {g : ProviderGraph} {levels : List (List String)} {members : List String}

/-! ## Chains and numbered levels -/

/-- A chain of so many edges between units ends in a unit. -/
inductive ChainTo (g : ProviderGraph) : Nat → String → Prop
  | unit {id : String} : id ∈ g.units → ChainTo g 0 id
  | feed {n : Nat} {p u : String} : ChainTo g n p → g.Feeds p u → ChainTo g (n + 1) u

theorem ChainTo.mem_units (hg : g.WellFormed) {n : Nat} {id : String} (h : g.ChainTo n id) :
    id ∈ g.units := by
  cases h with
  | unit hid => exact hid
  | feed _ hfeeds => exact hg.consumer_mem_units hfeeds

theorem ChainTo.trans {n : Nat} {id last : String} (h : g.ChainTo n id)
    (hway : Relation.TransGen g.Feeds id last) : ∃ m, n < m ∧ g.ChainTo m last := by
  induction hway with
  | single hfeeds => exact ⟨n + 1, Nat.lt_succ_self n, .feed h hfeeds⟩
  | tail _ hfeeds ih =>
      obtain ⟨m, hm, hchain⟩ := ih
      exact ⟨m + 1, Nat.lt_succ_of_lt hm, .feed hchain hfeeds⟩

/-- A unit stands in the level of this number. -/
def InLevel (levels : List (List String)) (i : Nat) (id : String) : Prop :=
  ∃ level, levels[i]? = some level ∧ id ∈ level

theorem InLevel.lt_length {i : Nat} {id : String} (h : InLevel levels i id) :
    i < levels.length := by
  obtain ⟨level, hlevel, -⟩ := h
  exact (List.getElem?_eq_some_iff.mp hlevel).1

theorem mem_flatten_iff_inLevel {id : String} :
    id ∈ levels.flatten ↔ ∃ i, InLevel levels i id := by
  rw [List.mem_flatten]
  constructor
  · rintro ⟨level, hlevel, hid⟩
    obtain ⟨i, hi⟩ := List.mem_iff_getElem?.mp hlevel
    exact ⟨i, level, hi, hid⟩
  · rintro ⟨i, level, hi, hid⟩
    exact ⟨level, List.mem_of_getElem? hi, hid⟩

theorem Layered.provider_earlier (h : g.Layered [] levels) {i : Nat} {p u : String}
    (hu : InLevel levels i u) (hp : g.Feeds p u) : ∃ j < i, InLevel levels j p := by
  obtain ⟨level, hlevel, hmem⟩ := hu
  obtain ⟨hi, rfl⟩ := List.getElem?_eq_some_iff.mp hlevel
  have hsplit : levels = levels.take i ++ levels[i] :: levels.drop (i + 1) := by
    rw [← List.drop_eq_getElem_cons hi, List.take_append_drop]
  rw [hsplit] at h
  have hbefore : p ∈ (levels.take i).flatten := by
    simpa using h.provider_before hmem hp
  obtain ⟨earlier, hearlier, hpmem⟩ := List.mem_flatten.mp hbefore
  obtain ⟨j, hj, rfl⟩ := List.mem_take_iff_getElem.mp hearlier
  exact ⟨j, by omega, levels[j], List.getElem?_eq_getElem _, hpmem⟩

theorem Layered.chain_le (h : g.Layered [] levels) {n : Nat} {id : String}
    (hchain : g.ChainTo n id) : ∀ {i : Nat}, InLevel levels i id → n ≤ i := by
  induction hchain with
  | unit _ =>
      intro i _
      exact Nat.zero_le i
  | feed _ hfeeds ih =>
      intro i hi
      obtain ⟨j, hj, hp⟩ := h.provider_earlier hi hfeeds
      exact Nat.succ_le_of_lt ((ih hp).trans_lt hj)

/-! ## No unit comes later than it must -/

/-- Levels without gaps: none is empty, and each unit of a later one waits for a unit of the level
right before. -/
structure Tight (g : ProviderGraph) (levels : List (List String)) : Prop where
  nil_notMem : [] ∉ levels
  waits : levels.IsChain fun level next => ∀ id ∈ next, ∃ p ∈ level, g.Feeds p id

theorem Residual.exists_provider (hg : g.WellFormed) {placed level : List String} {cs : Counters}
    (h : g.Residual placed cs level) {id : String} (hid : id ∈ (g.place cs level).2) :
    ∃ p ∈ level, g.Feeds p id := by
  obtain ⟨hunit, hnot, hzero⟩ := ((h.place hg).ready id).mp hid
  rw [← edgesFrom_pos_iff]
  by_contra hnone
  -- otherwise it was ready a round earlier, and stands in the level itself
  have hsplit := h.waitsFor_split id
  have hlevel : id ∈ level :=
    (h.ready id).mpr ⟨hunit, fun hp => hnot (List.mem_append_left level hp), by omega⟩
  exact hnot (List.mem_append_right placed hlevel)

theorem eq_of_mem_head?_levelsFrom {rounds : Nat} {cs : Counters} {level first : List String}
    (h : first ∈ (g.levelsFrom rounds cs level).head?) : first = level := by
  cases rounds with
  | zero => cases h
  | succ rounds =>
      cases level with
      | nil => cases h
      | cons id level => exact (Option.some.inj h).symm

theorem Residual.tight (hg : g.WellFormed) :
    ∀ (rounds : Nat) {placed level : List String} {cs : Counters},
      g.Residual placed cs level → g.Tight (g.levelsFrom rounds cs level)
  | 0, _, _, _, _ => ⟨List.not_mem_nil, .nil⟩
  | _ + 1, _, [], _, _ => ⟨List.not_mem_nil, .nil⟩
  | rounds + 1, _, id :: level, _, h => by
      have ih := Residual.tight hg rounds (h.place hg)
      refine ⟨?_, List.isChain_cons.mpr ⟨?_, ih.waits⟩⟩
      · intro hnil
        rcases List.mem_cons.mp hnil with hnil | hnil
        · cases hnil
        · exact ih.nil_notMem hnil
      · intro next hnext u hu
        rw [eq_of_mem_head?_levelsFrom hnext] at hu
        exact h.exists_provider hg hu

theorem tight_of_layeredOrder (hg : g.WellFormed) (h : g.layeredOrder = .ok levels) :
    g.Tight levels := by
  obtain ⟨rfl, -⟩ := levels_of_layeredOrder h
  exact (residual_start hg).tight hg _

theorem exists_layeredOrder_iff (hg : g.WellFormed) :
    (∃ levels, g.layeredOrder = .ok levels) ↔ g.Acyclic := by
  constructor
  · rintro ⟨levels, h⟩
    exact (levelled_of_layeredOrder hg h).acyclic hg
  · intro hacyclic
    cases h : g.layeredOrder with
    | ok levels => exact ⟨levels, rfl⟩
    | error members =>
        obtain ⟨-, hne, hwait⟩ := waiting_of_layeredOrder hg h
        exact absurd hacyclic (not_acyclic_of_members hne hwait)

theorem Levelled.chainTo (hlev : g.Levelled levels) (htight : g.Tight levels) :
    ∀ {i : Nat} {id : String}, InLevel levels i id → g.ChainTo i id
  | 0, id, h => .unit ((hlev.mem_iff id).mp (mem_flatten_iff_inLevel.mpr ⟨0, h⟩))
  | i + 1, id, ⟨next, hnext, hid⟩ => by
      obtain ⟨hi, rfl⟩ := List.getElem?_eq_some_iff.mp hnext
      obtain ⟨p, hp, hfeeds⟩ := htight.waits.getElem i hi id hid
      have hlevel : InLevel levels i p := ⟨levels[i], List.getElem?_eq_getElem _, hp⟩
      exact .feed (hlev.chainTo htight hlevel) hfeeds

/-- A unit stands in the level whose number is the length of the longest chain that ends in it. -/
theorem Levelled.inLevel_iff (hg : g.WellFormed) (hlev : g.Levelled levels)
    (htight : g.Tight levels) {i : Nat} {id : String} :
    InLevel levels i id ↔ IsGreatest {n | g.ChainTo n id} i := by
  have hgreatest : ∀ {j : Nat}, InLevel levels j id → IsGreatest {n | g.ChainTo n id} j :=
    fun hj => ⟨hlev.chainTo htight hj, fun _ hchain => hlev.layered.chain_le hchain hj⟩
  constructor
  · exact hgreatest
  · intro hi
    have hunit : id ∈ g.units := ChainTo.mem_units hg hi.1
    obtain ⟨j, hj⟩ := mem_flatten_iff_inLevel.mp ((hlev.mem_iff id).mpr hunit)
    rw [hi.unique (hgreatest hj)]
    exact hj

/-! ## On a cycle and behind one -/

/-- On a cycle of a relation, or reached from one. -/
def BehindCycle {α : Type} (R : α → α → Prop) (x : α) : Prop :=
  ∃ y, Relation.TransGen R y y ∧ Relation.ReflTransGen R y x

section BehindCycle

variable {α : Type} {R : α → α → Prop} {x : α}

theorem BehindCycle.not_acc (h : BehindCycle R x) : ¬ Acc R x := by
  obtain ⟨y, hcycle, hway⟩ := h
  intro hacc
  induction hway with
  | refl => exact not_transGen_self_of_acc hacc hcycle
  | tail _ hstep ih => exact ih (hacc.inv hstep)

/-- Where everything of a finite list waits for something in it, all of it lies behind cycles: one
of them is found among what leads to the element at hand. -/
theorem behindCycle_of_waiting {xs : List α} (h : ∀ x ∈ xs, ∃ y ∈ xs, R y x) (hx : x ∈ xs) :
    BehindCycle R x := by
  classical
  have hmem : ∀ y, y ∈ xs.filter (fun y => decide (Relation.ReflTransGen R y x)) ↔
      y ∈ xs ∧ Relation.ReflTransGen R y x := by
    simp only [List.mem_filter, decide_eq_true_eq, implies_true]
  obtain ⟨y, hy, hcycle⟩ := exists_transGen_self
    (List.ne_nil_of_mem ((hmem x).mpr ⟨hx, .refl⟩)) fun y hy => by
      obtain ⟨hyxs, hway⟩ := (hmem y).mp hy
      obtain ⟨z, hz, hstep⟩ := h y hyxs
      exact ⟨z, (hmem z).mpr ⟨hz, .head hstep hway⟩, hstep⟩
  exact ⟨y, hcycle, ((hmem y).mp hy).2⟩

/-- All that is behind cycles is on one exactly if no step leads from an element on a cycle to one
that is on none. -/
theorem forall_behindCycle_iff :
    (∀ x, BehindCycle R x → Relation.TransGen R x x) ↔
      ∀ x y, R x y → Relation.TransGen R x x → Relation.TransGen R y y := by
  constructor
  · intro h x y hstep hcycle
    exact h y ⟨x, hcycle, .single hstep⟩
  · rintro h x ⟨y, hcycle, hway⟩
    induction hway with
    | refl => exact hcycle
    | tail _ hstep ih => exact h _ _ hstep ih

end BehindCycle

theorem acc_of_layeredOrder_error (hg : g.WellFormed) (h : g.layeredOrder = .error members)
    {id : String} (hunit : id ∈ g.units) (hnot : id ∉ members) : Acc g.Feeds id := by
  obtain ⟨-, -, hmem⟩ := leftOver_of_layeredOrder hg h
  have hplaced : id ∈ g.levels.flatten := by
    by_contra hleft
    exact hnot ((hmem id).mpr ⟨hunit, hleft⟩)
  exact (exhausts_levels hg).layered.acc (by simp) id (by simpa using hplaced)

theorem mem_members_iff (hg : g.WellFormed) (h : g.layeredOrder = .error members) {id : String} :
    id ∈ members ↔ BehindCycle g.Feeds id := by
  constructor
  · intro hid
    exact behindCycle_of_waiting (waiting_of_layeredOrder hg h).2.2 hid
  · intro hbehind
    have hunit : id ∈ g.units := by
      obtain ⟨y, hcycle, hway⟩ := hbehind
      obtain ⟨_, _, hfeeds⟩ := Relation.TransGen.tail'_iff.mp (hcycle.trans_left hway)
      exact hg.consumer_mem_units hfeeds
    by_contra hnot
    exact hbehind.not_acc (acc_of_layeredOrder_error hg h hunit hnot)

/-! ## The order of any graph -/

/-- However a graph was put together, it has an order exactly where its units do not wait for
themselves.  The order lists every unit once, each in the level that its longest chain tells, and
the levels are sorted.  Without an order, the units on cycles and behind them are listed, sorted. -/
theorem layeredOrder_longest_chains {target : String} (h : g.Grown target) :
    ((∃ levels, g.layeredOrder = .ok levels) ↔ g.Acyclic) ∧
    (∀ levels, g.layeredOrder = .ok levels →
      levels.flatten.Nodup ∧ (∀ id, id ∈ levels.flatten ↔ Node.unit id ∈ g.nodes) ∧
      (∀ i id, InLevel levels i id ↔ IsGreatest {n | g.ChainTo n id} i) ∧
      ∀ level ∈ levels, level ≠ [] ∧ level.Pairwise (· < ·)) ∧
    (∀ members, g.layeredOrder = .error members →
      members.Pairwise (· < ·) ∧ members ≠ [] ∧
      ∀ id, id ∈ members ↔ BehindCycle g.Feeds id) := by
  have hg := h.wellFormed (wellFormed_ofTarget target)
  refine ⟨exists_layeredOrder_iff hg, fun levels hok => ?_, fun members herror => ?_⟩
  · have hlev := levelled_of_layeredOrder hg hok
    have htight := tight_of_layeredOrder hg hok
    refine ⟨hlev.nodup, fun id => (hlev.mem_iff id).trans mem_units,
      fun i id => hlev.inLevel_iff hg htight, fun level hlevel => ⟨?_, hlev.sorted level hlevel⟩⟩
    rintro rfl
    exact htight.nil_notMem hlevel
  · obtain ⟨hsorted, hne, -⟩ := waiting_of_layeredOrder hg herror
    exact ⟨hsorted, hne, fun id => mem_members_iff hg herror⟩

/-- Three units in a row, the last two joined by two edges, among nodes that are no units. -/
def doubledGraph : ProviderGraph := ((ofTarget "t").addNode (.missing "m")).addEdges
  [⟨.unit "b", .unit "t", .providesKey "k"⟩, ⟨.unit "b", .unit "t", .requested⟩,
    ⟨.context "c", .unit "b", .provides⟩, ⟨.unit "a", .unit "b", .providesKey "l"⟩,
    ⟨.unit "a", .unit "t", .requested⟩]

/-- The same, but that the first unit requests itself. -/
def loopedGraph : ProviderGraph := doubledGraph.addEdge ⟨.unit "a", .unit "a", .requested⟩

theorem doubledGraph_grown : doubledGraph.Grown "t" := (GrowsTo.refl.node _).addEdges _

theorem layeredOrder_longest_chains_doubled :
    doubledGraph.Grown "t" ∧ doubledGraph.layeredOrder = .ok [["a"], ["b"], ["t"]] ∧
    IsGreatest {n | doubledGraph.ChainTo n "t"} 2 ∧
    loopedGraph.Grown "t" ∧ loopedGraph.layeredOrder = .error ["a", "b", "t"] ∧
    BehindCycle loopedGraph.Feeds "t" := by
  have hdoubled : doubledGraph.layeredOrder = .ok [["a"], ["b"], ["t"]] := by cbv
  have hlooped : loopedGraph.layeredOrder = .error ["a", "b", "t"] := by cbv
  have hgrown : loopedGraph.Grown "t" := .edge _ doubledGraph_grown
  obtain ⟨-, hchains, -⟩ := layeredOrder_longest_chains doubledGraph_grown
  obtain ⟨-, -, hmembers⟩ := layeredOrder_longest_chains hgrown
  refine ⟨doubledGraph_grown, hdoubled, ?_, hgrown, hlooped, ?_⟩
  · exact ((hchains _ hdoubled).2.2.1 2 "t").mp ⟨["t"], rfl, List.mem_singleton_self "t"⟩
  · exact ((hmembers _ hlooped).2.2 "t").mp (by simp)

end Workplan.ProviderGraph
