/-
# `Workplan.Proofs.Graph.Listing` — levels do not depend on how a graph is listed

A graph lists its nodes and edges in the order of insertion, and the counters from which the levels
start are kept in a table that may list them in any order at all.  `layeredOrderOver` is the order
of a graph with the counters listed in a given way.

The counters are only ever read under their keys, so two listings of the same counters stay
listings of the same counters from round to round (`Relisted`), and every level that is read off
them is sorted.  Between two graphs with the same nodes and edges, `layeredOrder_congr` does the
rest.
-/
import Workplan.Proofs.Graph.Levels

namespace Workplan.ProviderGraph

variable {g g' : ProviderGraph} {cs cs' : Counters}

/-! ## The same counters in another order -/

theorem Counters.get_of_perm (h : cs.Perm cs') (hkeys : (cs.map Prod.fst).Nodup) (id : String) :
    cs.get id = cs'.get id := by
  induction h with
  | nil => rfl
  | cons c _ ih =>
      obtain ⟨k, v⟩ := c
      rw [get_cons, get_cons, ih (List.nodup_cons.mp hkeys).2]
  | swap c c' rest =>
      obtain ⟨k, v⟩ := c
      obtain ⟨k', v'⟩ := c'
      have hne : k' ≠ k := by
        intro heq
        exact (List.nodup_cons.mp hkeys).1 (heq ▸ List.mem_cons_self)
      simp only [get_cons]
      by_cases hk : id = k
      · have hk' : id ≠ k' := fun heq => hne (heq.symm.trans hk)
        rw [if_neg hk', if_pos hk, if_pos hk]
      · rw [if_neg hk, if_neg hk]
  | trans hfirst _ ih ih' =>
      exact (ih hkeys).trans (ih' ((hfirst.map Prod.fst).nodup_iff.mp hkeys))

/-- Two states with the same counters, each listed once but perhaps in another order, and the same
level. -/
structure Relisted (s s' : Counters × List String) : Prop where
  perm : s.1.Perm s'.1
  keys_nodup : (s.1.map Prod.fst).Nodup
  level_eq : s.2 = s'.2

namespace Relisted

variable {s s' : Counters × List String}

theorem lower (h : Relisted s s') (a : String) :
    Relisted (lower s a) (ProviderGraph.lower s' a) := by
  have hget := Counters.get_of_perm h.perm h.keys_nodup a
  refine ⟨?_, ?_, ?_⟩
  · show (s.1.set a (s.1.get a - 1)).Perm (s'.1.set a (s'.1.get a - 1))
    rw [hget]
    exact h.perm.map _
  · show ((s.1.set a (s.1.get a - 1)).map Prod.fst).Nodup
    rw [Counters.keys_set]
    exact h.keys_nodup
  · show (if s.1.get a - 1 = 0 then s.2 ++ [a] else s.2) = _
    rw [hget, h.level_eq]
    rfl

theorem foldl_lower (h : Relisted s s') (ids : List String) :
    Relisted (ids.foldl ProviderGraph.lower s) (ids.foldl ProviderGraph.lower s') := by
  induction ids generalizing s s' with
  | nil => exact h
  | cons a ids ih => exact ih (h.lower a)

theorem place (h : Relisted s s') (g : ProviderGraph) :
    Relisted (g.place s.1 s.2) (g.place s'.1 s'.2) := by
  have hstart : Relisted (s.1, []) (s'.1, []) := ⟨h.perm, h.keys_nodup, rfl⟩
  have hstate := hstart.foldl_lower (s.2.flatMap g.consumersOf)
  rw [ProviderGraph.place, ProviderGraph.place, ← h.level_eq]
  exact ⟨hstate.perm, hstate.keys_nodup, by rw [hstate.level_eq]⟩

theorem levelsFrom_eq (g : ProviderGraph) (rounds : Nat) (h : Relisted s s') :
    g.levelsFrom rounds s.1 s.2 = g.levelsFrom rounds s'.1 s'.2 := by
  induction rounds generalizing s s' with
  | zero => rfl
  | succ rounds ih =>
      obtain ⟨cs, level⟩ := s
      obtain ⟨cs', level'⟩ := s'
      obtain rfl : level = level' := h.level_eq
      cases level with
      | nil => rfl
      | cons first others =>
          have hrest := ih (h.place g)
          exact congrArg (List.cons (first :: others)) hrest

end Relisted

/-! ## The order of a graph over listed counters -/

/-- The units whose counter is zero. -/
def firstLevelOver (cs : Counters) : List String :=
  sortIds ((cs.filter fun c => c.2 = 0).map Prod.fst)

/-- The levels of all units, or the units that no level takes, starting from counters that are
listed in some order. -/
def layeredOrderOver (g : ProviderGraph) (cs : Counters) :
    Except (List String) (List (List String)) :=
  let levels := g.levelsFrom (g.units.length + 1) cs (firstLevelOver cs)
  if levels.flatten.length = g.units.length then .ok levels
  else .error (sortIds (g.units.filter fun id => !levels.flatten.contains id))

theorem layeredOrderOver_counters (g : ProviderGraph) :
    g.layeredOrderOver g.counters = g.layeredOrder := rfl

theorem firstLevelOver_of_perm (h : cs.Perm cs') (hkeys : (cs.map Prod.fst).Nodup) :
    firstLevelOver cs = firstLevelOver cs' := by
  have hfilter : (cs.filter fun c => c.2 = 0).Perm (cs'.filter fun c => c.2 = 0) := h.filter _
  have hnodup : ((cs.filter fun c => c.2 = 0).map Prod.fst).Nodup :=
    hkeys.sublist (List.filter_sublist.map _)
  refine Text.eq_of_sorted_of_mem_iff (Text.pairwise_lt_mergeSort hnodup)
    (Text.pairwise_lt_mergeSort ((hfilter.map _).nodup_iff.mp hnodup)) fun id => ?_
  rw [firstLevelOver, firstLevelOver, sortIds, sortIds, List.mem_mergeSort, List.mem_mergeSort]
  exact (hfilter.map _).mem_iff

/-- The order of a graph is the same however its counters are listed. -/
theorem layeredOrderOver_of_perm (hunits : g.units.Nodup) (h : cs.Perm g.counters) :
    g.layeredOrderOver cs = g.layeredOrder := by
  have hkeys : (cs.map Prod.fst).Nodup := by
    rw [(h.map Prod.fst).nodup_iff, keys_counters]
    exact hunits
  have hstart : Relisted (cs, firstLevelOver cs) (g.counters, firstLevelOver g.counters) :=
    ⟨h, hkeys, firstLevelOver_of_perm h hkeys⟩
  rw [← layeredOrderOver_counters, layeredOrderOver, layeredOrderOver, hstart.levelsFrom_eq g]

/-! ## The same nodes and edges in another order -/

theorem layeredOrder_eq_of_mem_iff (hg : g.Assembled) (hg' : g'.Assembled)
    (hnodes : ∀ n, n ∈ g.nodes ↔ n ∈ g'.nodes) (hedges : ∀ e, e ∈ g.edges ↔ e ∈ g'.edges) :
    g.layeredOrder = g'.layeredOrder := by
  refine layeredOrder_congr (fun id => ?_) (fun p u => ?_) hg hg'
  · rw [mem_units, mem_units, hnodes]
  · rw [feeds_iff_exists_edge, feeds_iff_exists_edge]
    exact exists_congr fun label => hedges _

end Workplan.ProviderGraph
