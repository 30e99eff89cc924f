/-
# `Workplan.Proofs.Graph.Counters` — what the counters count

While levels are placed, the counter of a unit is `waitsFor placed`: the number of edges into it
from units that have no level yet, parallel edges counted each.  Placing a level takes `edgesFrom`
it off every counter.  `Residual` is the invariant at the start of a round; it says besides that
the level at hand holds exactly the units whose counter has come down to zero, so the counters
never go below zero and no unit is placed twice.
-/
import Mathlib.Data.List.Count
import Workplan.Graph.Levels
import Workplan.Proofs.Graph.Shape
import Workplan.Proofs.Text.Order

namespace Workplan.ProviderGraph

/-! ## Counters as a table -/

namespace Counters

theorem keys_set (cs : Counters) (id : String) (n : Nat) :
    (cs.set id n).map Prod.fst = cs.map Prod.fst := by
  unfold set
  rw [List.map_map]
  refine List.map_congr_left fun e _ => ?_
  by_cases h : e.1 = id
  · simp [h]
  · simp [h]

theorem get_cons (k : String) (v : Nat) (cs : Counters) (id : String) :
    get ((k, v) :: cs) id = if id = k then v else get cs id := by
  by_cases h : id = k
  · simp [get, h]
  · have hb : (id == k) = false := beq_eq_false_iff_ne.mpr h
    simp [get, List.lookup_cons, h, hb]

theorem get_set (id other : String) (n : Nat) :
    ∀ (cs : Counters), id ∈ cs.map Prod.fst →
      (cs.set id n).get other = if other = id then n else cs.get other
  | [], h => absurd h (by simp)
  | (k, v) :: cs, h => by
      by_cases hk : k = id
      · subst hk
        by_cases ho : other = k
        · simp [set, get_cons, ho]
        · have hrest : get (set cs k n) other = get cs other := by
            by_cases hmem : k ∈ cs.map Prod.fst
            · rw [get_set k other n cs hmem, if_neg ho]
            · have hid : set cs k n = cs := by
                refine (List.map_congr_left fun e he => ?_).trans (List.map_id cs)
                have hne : e.1 ≠ k := fun h => hmem (h ▸ List.mem_map_of_mem he)
                simp [hne]
              rw [hid]
          simp only [set, List.map_cons, if_true, get_cons, ho, if_false]
          exact hrest
      · have hmem : id ∈ cs.map Prod.fst :=
          (List.mem_cons.mp h).resolve_left fun e => hk e.symm
        have ih := get_set id other n cs hmem
        simp only [set, List.map_cons, hk, if_false, get_cons] at ih ⊢
        rw [ih]
        by_cases ho : other = k
        · simp [ho, hk]
        · simp [ho]

theorem get_map (f : String → Nat) (id : String) :
    ∀ (ids : List String), id ∈ ids → get (ids.map fun i => (i, f i)) id = f id
  | [], h => absurd h (by simp)
  | i :: ids, h => by
      by_cases hi : id = i
      · simp [get_cons, hi]
      · have hmem : id ∈ ids := (List.mem_cons.mp h).resolve_left hi
        rw [List.map_cons, get_cons, if_neg hi, get_map f id ids hmem]

end Counters

/-! ## Taking edges off the counters -/

/-- The state after the edges into `ids` were taken off: each counter is lowered as often as its
unit is named, and those that came down to zero are the next ones. -/
structure Lowered (cs : Counters) (next ids : List String) (state : Counters × List String) :
    Prop where
  keys : state.1.map Prod.fst = cs.map Prod.fst
  get_eq : ∀ id, state.1.get id = cs.get id - ids.count id
  nodup : state.2.Nodup
  mem_iff : ∀ id, id ∈ state.2 ↔ id ∈ next ∨ (0 < ids.count id ∧ cs.get id = ids.count id)

/-- The edges into `ids` can be taken off: every counter is high enough for them, and what came
down to zero before is not among them. -/
structure Lowerable (cs : Counters) (next ids : List String) : Prop where
  keys : ∀ id ∈ ids, id ∈ cs.map Prod.fst
  count_le : ∀ id, ids.count id ≤ cs.get id
  nodup : next.Nodup
  zero : ∀ id ∈ next, cs.get id = 0

section Lower

variable {cs : Counters} {next ids : List String} {a : String}

theorem mem_lower {id : String} :
    id ∈ (lower (cs, next) a).2 ↔ id ∈ next ∨ (id = a ∧ cs.get a - 1 = 0) := by
  unfold lower
  by_cases hz : cs.get a - 1 = 0 <;> simp [hz]

theorem Lowerable.get_lower (h : Lowerable cs next (a :: ids)) (id : String) :
    (lower (cs, next) a).1.get id = if id = a then cs.get a - 1 else cs.get id :=
  Counters.get_set a id _ cs (h.keys a List.mem_cons_self)

theorem Lowerable.head_lt (h : Lowerable cs next (a :: ids)) : ids.count a < cs.get a := by
  have hcount := h.count_le a
  rwa [List.count_cons_self] at hcount

theorem Lowerable.head_not_mem (h : Lowerable cs next (a :: ids)) : a ∉ next := by
  intro hmem
  have hpos := h.head_lt
  rw [h.zero a hmem] at hpos
  exact Nat.not_lt_zero _ hpos

theorem Lowerable.lower (h : Lowerable cs next (a :: ids)) :
    Lowerable (lower (cs, next) a).1 (lower (cs, next) a).2 ids where
  keys := by
    intro id hid
    show id ∈ (cs.set a (cs.get a - 1)).map Prod.fst
    rw [Counters.keys_set]
    exact h.keys id (List.mem_cons_of_mem a hid)
  count_le := by
    intro id
    rw [h.get_lower]
    by_cases hid : id = a
    · rw [if_pos hid, hid]
      exact Nat.le_sub_one_of_lt h.head_lt
    · rw [if_neg hid, ← List.count_cons_of_ne fun e => hid e.symm]
      exact h.count_le id
  nodup := by
    show (if cs.get a - 1 = 0 then next ++ [a] else next).Nodup
    split
    · refine List.nodup_append.mpr ⟨h.nodup, by simp, ?_⟩
      rintro x hx y hy rfl
      exact h.head_not_mem (List.mem_singleton.mp hy ▸ hx)
    · exact h.nodup
  zero := by
    intro id hid
    rw [h.get_lower]
    rcases mem_lower.mp hid with hmem | ⟨rfl, hz⟩
    · have hne : id ≠ a := fun e => h.head_not_mem (e ▸ hmem)
      rw [if_neg hne]
      exact h.zero id hmem
    · rw [if_pos rfl]
      exact hz

theorem Lowered.cons {state : Counters × List String} (hable : Lowerable cs next (a :: ids))
    (h : Lowered (lower (cs, next) a).1 (lower (cs, next) a).2 ids state) :
    Lowered cs next (a :: ids) state where
  keys := h.keys.trans (Counters.keys_set cs a _)
  get_eq := by
    intro id
    rw [h.get_eq, hable.get_lower]
    by_cases hid : id = a
    · rw [if_pos hid, hid, List.count_cons_self]
      omega
    · rw [if_neg hid, List.count_cons_of_ne fun e => hid e.symm]
  nodup := h.nodup
  mem_iff := by
    intro id
    rw [h.mem_iff, hable.get_lower, mem_lower]
    by_cases hid : id = a
    · subst hid
      have hpos := hable.head_lt
      rw [if_pos rfl, List.count_cons_self]
      simp only [true_and, or_assoc]
      refine or_congr_right ?_
      omega
    · rw [if_neg hid, List.count_cons_of_ne fun e => hid e.symm]
      simp [hid]

theorem Lowerable.foldl_lower {done : List String} (h : Lowerable cs next (done ++ ids)) :
    Lowerable (done.foldl ProviderGraph.lower (cs, next)).1
      (done.foldl ProviderGraph.lower (cs, next)).2 ids := by
  induction done generalizing cs next with
  | nil => exact h
  | cons a done ih => exact ih h.lower

theorem lowered_foldl :
    ∀ {ids : List String} {cs : Counters} {next : List String}, Lowerable cs next ids →
      Lowered cs next ids (ids.foldl lower (cs, next))
  | [], _, _, h => ⟨rfl, by simp, h.nodup, by simp⟩
  | _ :: _, _, _, h => (lowered_foldl h.lower).cons h

end Lower

/-! ## Edges that a unit still waits for -/

variable {g : ProviderGraph}

/-- How many edges enter a unit from units that are not placed. -/
def waitsFor (g : ProviderGraph) (placed : List String) (id : String) : Nat :=
  g.unitEdges.countP fun e => e.2 = id ∧ e.1 ∉ placed

/-- How many edges enter a unit from a level. -/
def edgesFrom (g : ProviderGraph) (level : List String) (id : String) : Nat :=
  g.unitEdges.countP fun e => e.2 = id ∧ e.1 ∈ level

theorem countP_split {α : Type} {P Q R : α → Bool} (hor : ∀ x, R x = (P x || Q x))
    (hex : ∀ x, P x = true → Q x = false) (xs : List α) :
    xs.countP R = xs.countP P + xs.countP Q := by
  rw [List.countP_eq_countP_filter_add xs R P, List.countP_filter, List.countP_filter]
  congr 1 <;> refine List.countP_congr fun x _ => ?_
  · cases hP : P x <;> simp [hor, hP]
  · have hx := hex x
    cases hP : P x <;> simp_all

theorem waitsFor_eq_zero_iff {placed : List String} {id : String} :
    g.waitsFor placed id = 0 ↔ ∀ p, g.Feeds p id → p ∈ placed := by
  simp only [waitsFor, List.countP_eq_zero, decide_eq_true_eq, not_and, not_not]
  constructor
  · exact fun h p hp => h (p, id) hp rfl
  · rintro h ⟨p, u⟩ hp rfl
    exact h p hp

theorem edgesFrom_pos_iff {level : List String} {id : String} :
    0 < g.edgesFrom level id ↔ ∃ p ∈ level, g.Feeds p id := by
  simp only [edgesFrom, List.countP_pos_iff, decide_eq_true_eq]
  constructor
  · rintro ⟨⟨p, u⟩, hp, rfl, hl⟩
    exact ⟨p, hl, hp⟩
  · rintro ⟨p, hl, hp⟩
    exact ⟨(p, id), hp, rfl, hl⟩

/-- Placing a level splits what a unit waits for. -/
theorem waitsFor_append {placed level : List String} (hdis : ∀ p ∈ level, p ∉ placed)
    (id : String) :
    g.waitsFor placed id = g.edgesFrom level id + g.waitsFor (placed ++ level) id := by
  refine countP_split ?_ ?_ g.unitEdges
  · intro e
    have := hdis e.1
    by_cases h1 : e.2 = id <;> by_cases h2 : e.1 ∈ level <;> by_cases h3 : e.1 ∈ placed <;>
      simp_all
  · intro e he
    simp_all

theorem count_consumersOf (p id : String) :
    (g.consumersOf p).count id = g.unitEdges.countP fun e => e.2 = id ∧ e.1 = p := by
  unfold consumersOf
  rw [List.count_eq_countP, List.countP_map, List.countP_filter]
  refine List.countP_congr fun e _ => ?_
  simp

theorem count_flatMap_consumersOf (id : String) :
    ∀ {level : List String}, level.Nodup →
      (level.flatMap g.consumersOf).count id = g.edgesFrom level id
  | [], _ => by simp [edgesFrom]
  | p :: level, h => by
      obtain ⟨hp, hlevel⟩ := List.nodup_cons.mp h
      have hsplit : g.edgesFrom (p :: level) id =
          (g.unitEdges.countP fun e => e.2 = id ∧ e.1 = p) + g.edgesFrom level id := by
        refine countP_split ?_ ?_ g.unitEdges
        · intro e
          by_cases h1 : e.2 = id <;> by_cases h2 : e.1 = p <;> simp [h1, h2]
        · intro e he
          obtain ⟨-, rfl⟩ : e.2 = id ∧ e.1 = p := by simpa using he
          simp [hp]
      rw [List.flatMap_cons, List.count_append, count_consumersOf,
        count_flatMap_consumersOf id hlevel, hsplit]

/-! ## The invariant of the rounds -/

/-- What holds at the start of a round: the counters count the edges from units without a level,
the level at hand holds the units whose counter is zero, and the units placed are closed. -/
structure Residual (g : ProviderGraph) (placed : List String) (cs : Counters)
    (level : List String) : Prop where
  keys : cs.map Prod.fst = g.units
  get_eq : ∀ id ∈ g.units, cs.get id = g.waitsFor placed id
  ready : ∀ id, id ∈ level ↔ id ∈ g.units ∧ id ∉ placed ∧ g.waitsFor placed id = 0
  sorted : level.Pairwise (· < ·)
  placed_nodup : placed.Nodup
  placed_mem : ∀ id ∈ placed, id ∈ g.units
  closed : ∀ id ∈ placed, g.waitsFor placed id = 0

theorem Residual.level_nodup {placed level : List String} {cs : Counters}
    (h : g.Residual placed cs level) : level.Nodup :=
  h.sorted.imp fun hlt => ne_of_lt hlt

theorem Residual.placed_append_nodup {placed level : List String} {cs : Counters}
    (h : g.Residual placed cs level) : (placed ++ level).Nodup := by
  refine List.nodup_append.mpr ⟨h.placed_nodup, h.level_nodup, ?_⟩
  rintro a ha _ hb rfl
  exact ((h.ready a).mp hb).2.1 ha

theorem keys_counters (g : ProviderGraph) : g.counters.map Prod.fst = g.units := by
  simp [counters, List.map_map, Function.comp_def]

theorem residual_start (hg : g.Assembled) : g.Residual [] g.counters g.firstLevel := by
  have hget : ∀ id ∈ g.units, g.counters.get id = g.waitsFor [] id := by
    intro id hid
    rw [counters, Counters.get_map (fun id => g.unitEdges.countP fun e => e.2 = id) id _ hid]
    exact List.countP_congr fun e _ => by simp
  have hkeys := keys_counters g
  have hfirst : ∀ id, id ∈ (g.counters.filter fun c => c.2 = 0).map Prod.fst ↔
      id ∈ g.units ∧ g.waitsFor [] id = 0 := by
    intro id
    have hcount : ∀ i, g.waitsFor [] i = g.unitEdges.countP fun e => e.2 = i := fun i =>
      List.countP_congr fun e _ => by simp
    simp only [counters, List.filter_map, List.map_map, List.mem_map, List.mem_filter, hcount]
    constructor
    · rintro ⟨i, ⟨hi, hz⟩, rfl⟩
      exact ⟨hi, by simpa using hz⟩
    · rintro ⟨hi, hz⟩
      exact ⟨id, ⟨hi, by simpa using hz⟩, rfl⟩
  have hnodup : ((g.counters.filter fun c => c.2 = 0).map Prod.fst).Nodup :=
    List.Nodup.sublist (List.filter_sublist.map _) (hkeys ▸ hg.units_nodup)
  refine ⟨hkeys, hget, ?_, Text.pairwise_lt_mergeSort hnodup, List.nodup_nil, by simp, by simp⟩
  intro id
  rw [firstLevel, sortIds, List.mem_mergeSort, hfirst]
  simp

theorem mem_units_of_edgesFrom (hg : g.Assembled) {level : List String} {id : String}
    (hpos : 0 < g.edgesFrom level id) : id ∈ g.units := by
  obtain ⟨p, -, hp⟩ := edgesFrom_pos_iff.mp hpos
  exact hg.consumer_mem_units hp

theorem Residual.waitsFor_split {placed level : List String} {cs : Counters}
    (h : g.Residual placed cs level) (id : String) :
    g.waitsFor placed id = g.edgesFrom level id + g.waitsFor (placed ++ level) id :=
  waitsFor_append (fun p hp => ((h.ready p).mp hp).2.1) id

theorem Residual.waitsFor_eq_zero {placed level : List String} {cs : Counters}
    (h : g.Residual placed cs level) {id : String} (hid : id ∈ placed ++ level) :
    g.waitsFor placed id = 0 := by
  rcases List.mem_append.mp hid with hp | hl
  · exact h.closed id hp
  · exact ((h.ready id).mp hl).2.2

theorem Residual.lowerable (hg : g.Assembled) {placed level : List String} {cs : Counters}
    (h : g.Residual placed cs level) : Lowerable cs [] (level.flatMap g.consumersOf) := by
  have hcount : ∀ id, (level.flatMap g.consumersOf).count id = g.edgesFrom level id := fun id =>
    count_flatMap_consumersOf id h.level_nodup
  refine ⟨?_, ?_, List.nodup_nil, by simp⟩
  · intro id hid
    rw [h.keys]
    exact mem_units_of_edgesFrom hg (hcount id ▸ List.count_pos_iff.mpr hid)
  · intro id
    rw [hcount]
    rcases Nat.eq_zero_or_pos (g.edgesFrom level id) with hz | hpos
    · omega
    · rw [h.get_eq id (mem_units_of_edgesFrom hg hpos), h.waitsFor_split id]
      omega

theorem Residual.lowered (hg : g.Assembled) {placed level : List String} {cs : Counters}
    (h : g.Residual placed cs level) :
    Lowered cs [] (level.flatMap g.consumersOf)
      ((level.flatMap g.consumersOf).foldl lower (cs, [])) :=
  lowered_foldl (h.lowerable hg)

/-- No unit becomes ready twice in a round, so the next level holds no repetition to erase. -/
theorem Residual.next_eq (hg : g.Assembled) {placed level : List String} {cs : Counters}
    (h : g.Residual placed cs level) :
    (g.place cs level).2 = sortIds ((level.flatMap g.consumersOf).foldl lower (cs, [])).2 :=
  Text.eraseReps_eq_self
    ((Text.pairwise_lt_mergeSort (h.lowered hg).nodup).imp fun hlt => ne_of_lt hlt)

theorem Residual.place (hg : g.Assembled) {placed level : List String} {cs : Counters}
    (h : g.Residual placed cs level) :
    g.Residual (placed ++ level) (g.place cs level).1 (g.place cs level).2 := by
  have hcount : ∀ id, (level.flatMap g.consumersOf).count id = g.edgesFrom level id := fun id =>
    count_flatMap_consumersOf id h.level_nodup
  have hlow := h.lowered hg
  have hsorted := Text.pairwise_lt_mergeSort hlow.nodup
  have hnext := h.next_eq hg
  refine ⟨hlow.keys.trans h.keys, ?_, ?_, hnext ▸ hsorted, h.placed_append_nodup, ?_, ?_⟩
  · intro id hid
    refine (hlow.get_eq id).trans ?_
    rw [hcount, h.get_eq id hid, h.waitsFor_split id]
    omega
  · intro id
    rw [hnext, sortIds, List.mem_mergeSort, hlow.mem_iff, hcount]
    have hsplit := h.waitsFor_split id
    constructor
    · rintro (hn | ⟨hpos, hget⟩)
      · cases hn
      · have hid := mem_units_of_edgesFrom hg hpos
        rw [h.get_eq id hid] at hget
        refine ⟨hid, fun hplaced => ?_, by omega⟩
        have hzero := h.waitsFor_eq_zero hplaced
        omega
    · rintro ⟨hid, hnot, hz⟩
      rw [h.get_eq id hid]
      refine Or.inr ⟨?_, by omega⟩
      -- a unit that waited for nothing before would stand in the level placed
      by_contra hzero
      refine hnot (List.mem_append_right placed ((h.ready id).mpr ⟨hid, fun hp => ?_, by omega⟩))
      exact hnot (List.mem_append_left level hp)
  · intro id hid
    rcases List.mem_append.mp hid with hp | hl
    · exact h.placed_mem id hp
    · exact ((h.ready id).mp hl).1
  · intro id hid
    have hsplit := h.waitsFor_split id
    have hzero := h.waitsFor_eq_zero hid
    omega

end Workplan.ProviderGraph
