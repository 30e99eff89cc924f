/-
# `Workplan.Proofs.Graph.Levels` — levels exist exactly where nothing waits for itself

`Layered` is what levels are for: a unit of a level waits only for units placed before the level.
The levels that the rounds produce are layered, hold no unit twice and are exhaustive, in the
sense that every unit left waits for another one left (`Exhausts`).  So either all units are
placed, and then waiting is well-founded, or those left are closed under "waits for one of us",
and then some of them wait for themselves.

What the levels are is settled by who waits for whom: `layeredOrder_congr` compares two graphs.
-/
import Mathlib.Data.Fintype.EquivFin
import Mathlib.Data.List.Perm.Subperm
import Mathlib.Logic.Relation
import Mathlib.Order.WellFounded
import Workplan.Proofs.Graph.Counters

namespace Workplan.ProviderGraph

variable {g : ProviderGraph}

/-- No unit waits, through others, for itself. -/
def Acyclic (g : ProviderGraph) : Prop := ∀ id, ¬ Relation.TransGen g.Feeds id id

/-- Levels on top of the units placed: a unit waits only for units placed before its level. -/
inductive Layered (g : ProviderGraph) : List String → List (List String) → Prop
  | nil {placed : List String} : Layered g placed []
  | cons {placed level : List String} {rest : List (List String)} :
      (∀ id ∈ level, ∀ p, g.Feeds p id → p ∈ placed) → Layered g (placed ++ level) rest →
      Layered g placed (level :: rest)

theorem Layered.provider_before {placed : List String} {before after : List (List String)}
    {level : List String} (h : g.Layered placed (before ++ level :: after)) {p u : String}
    (hu : u ∈ level) (hp : g.Feeds p u) : p ∈ placed ++ before.flatten := by
  induction before generalizing placed with
  | nil =>
      cases h with
      | cons hlevel _ => simpa using hlevel u hu p hp
  | cons first before ih =>
      cases h with
      | cons _ hrest => simpa using ih hrest

theorem Layered.acc {placed : List String} {levels : List (List String)}
    (h : g.Layered placed levels) (hplaced : ∀ id ∈ placed, Acc g.Feeds id) :
    ∀ id ∈ placed ++ levels.flatten, Acc g.Feeds id := by
  induction h with
  | nil => simpa using hplaced
  | @cons placed level rest hlevel _ ih =>
      have hnext : ∀ id ∈ placed ++ level, Acc g.Feeds id := by
        intro id hid
        rcases List.mem_append.mp hid with hp | hl
        · exact hplaced id hp
        · exact ⟨id, fun p hp => hplaced p (hlevel id hl p hp)⟩
      intro id hid
      refine ih hnext id ?_
      simpa using hid

theorem not_transGen_self_of_acc {α : Type} {R : α → α → Prop} {a : α} (h : Acc R a) :
    ¬ Relation.TransGen R a a := by
  have hacc := h.transGen
  clear h
  induction hacc with
  | intro a _ ih => exact fun hcycle => ih a hcycle hcycle

/-- Where everything of a finite list waits for something in it, something waits for itself. -/
theorem exists_transGen_self {α : Type} {R : α → α → Prop} {xs : List α} (hne : xs ≠ [])
    (h : ∀ x ∈ xs, ∃ y ∈ xs, R y x) : ∃ x ∈ xs, Relation.TransGen R x x := by
  by_contra hnone
  have hirrefl : ∀ x ∈ xs, ¬ Relation.TransGen R x x := fun x hx hc => hnone ⟨x, hx, hc⟩
  have : Finite { x // x ∈ xs } := by
    refine Finite.of_surjective (fun i : Fin xs.length => ⟨xs[i], List.getElem_mem i.2⟩) ?_
    rintro ⟨x, hx⟩
    obtain ⟨i, hi, rfl⟩ := List.getElem_of_mem hx
    exact ⟨⟨i, hi⟩, rfl⟩
  let S : { x // x ∈ xs } → { x // x ∈ xs } → Prop := fun a b => Relation.TransGen R a.1 b.1
  have : IsTrans _ S := ⟨fun _ _ _ hab hbc => Relation.TransGen.trans hab hbc⟩
  have : Std.Irrefl S := ⟨fun a ha => hirrefl a.1 a.2 ha⟩
  have hwf : WellFounded S := Finite.wellFounded_of_trans_of_irrefl S
  obtain ⟨x, hx⟩ := List.exists_mem_of_ne_nil xs hne
  obtain ⟨m, -, hmin⟩ := hwf.has_min Set.univ ⟨⟨x, hx⟩, trivial⟩
  obtain ⟨y, hy, hym⟩ := h m.1 m.2
  exact hmin ⟨y, hy⟩ trivial (.single hym)

/-! ## The rounds -/

/-- Levels that place everything which can be placed after `placed`. -/
structure Exhausts (g : ProviderGraph) (placed : List String) (levels : List (List String)) :
    Prop where
  layered : g.Layered placed levels
  sorted : ∀ level ∈ levels, level.Pairwise (· < ·)
  nodup : (placed ++ levels.flatten).Nodup
  mem_units : ∀ id ∈ placed ++ levels.flatten, id ∈ g.units
  stuck : ∀ id ∈ g.units, id ∉ placed ++ levels.flatten →
    ∃ p, g.Feeds p id ∧ p ∉ placed ++ levels.flatten

theorem Residual.placed_length_le {placed level : List String} {cs : Counters}
    (h : g.Residual placed cs level) : placed.length ≤ g.units.length :=
  (h.placed_nodup.subperm h.placed_mem).length_le

theorem Residual.layer {placed level : List String} {cs : Counters}
    (h : g.Residual placed cs level) : ∀ id ∈ level, ∀ p, g.Feeds p id → p ∈ placed :=
  fun id hid => waitsFor_eq_zero_iff.mp ((h.ready id).mp hid).2.2

/-- The rounds place everything that can be placed; the bound on their number does not cut them
short. -/
theorem Residual.exhausts (hg : g.Assembled) :
    ∀ {rounds : Nat} {placed level : List String} {cs : Counters},
      g.Residual placed cs level → g.units.length < rounds + placed.length →
      g.Exhausts placed (g.levelsFrom rounds cs level)
  | 0, placed, level, cs, h, hlen => by
      have := h.placed_length_le
      omega
  | rounds + 1, placed, [], cs, h, _ => by
      refine ⟨.nil, by simp [levelsFrom], ?_, ?_, ?_⟩
      · simpa [levelsFrom] using h.placed_nodup
      · simpa [levelsFrom] using h.placed_mem
      · intro id hid hnot
        simp only [levelsFrom, List.flatten_nil, List.append_nil] at hnot ⊢
        -- with nothing ready, the unit still waits for one without a level
        have hwaits : ¬ g.waitsFor placed id = 0 := fun hz =>
          absurd ((h.ready id).mpr ⟨hid, hnot, hz⟩) List.not_mem_nil
        rw [waitsFor_eq_zero_iff] at hwaits
        push Not at hwaits
        exact hwaits
  | rounds + 1, placed, first :: others, cs, h, hlen => by
      have hnext := h.place hg
      have hbound : g.units.length < rounds + (placed ++ (first :: others)).length := by
        simp only [List.length_append, List.length_cons]
        omega
      have ih := Residual.exhausts hg hnext hbound
      have hlevels : g.levelsFrom (rounds + 1) cs (first :: others) =
          (first :: others) :: g.levelsFrom rounds (g.place cs (first :: others)).1
            (g.place cs (first :: others)).2 := rfl
      have hflat : placed ++ ((first :: others) :: g.levelsFrom rounds
            (g.place cs (first :: others)).1 (g.place cs (first :: others)).2).flatten =
          placed ++ (first :: others) ++ (g.levelsFrom rounds
            (g.place cs (first :: others)).1 (g.place cs (first :: others)).2).flatten := by
        simp
      rw [hlevels]
      refine ⟨.cons h.layer ih.layered, ?_, ?_, ?_, ?_⟩
      · intro level hlevel
        rcases List.mem_cons.mp hlevel with rfl | hlevel
        · exact h.sorted
        · exact ih.sorted level hlevel
      · rw [hflat]
        exact ih.nodup
      · rw [hflat]
        exact ih.mem_units
      · rw [hflat]
        exact ih.stuck

theorem exhausts_levels (hg : g.Assembled) : g.Exhausts [] g.levels :=
  (residual_start hg).exhausts hg (by simp)

theorem levels_subperm_units (hg : g.Assembled) : g.levels.flatten.Subperm g.units :=
  (exhausts_levels hg).nodup.subperm (exhausts_levels hg).mem_units

/-! ## The order of a graph -/

/-- The levels of all units. -/
structure Levelled (g : ProviderGraph) (levels : List (List String)) : Prop where
  layered : g.Layered [] levels
  sorted : ∀ level ∈ levels, level.Pairwise (· < ·)
  nodup : levels.flatten.Nodup
  mem_iff : ∀ id, id ∈ levels.flatten ↔ id ∈ g.units

theorem Levelled.acyclic (hg : g.Assembled) {levels : List (List String)}
    (h : g.Levelled levels) : g.Acyclic := by
  intro id hcycle
  have hunit : id ∈ g.units := by
    obtain ⟨_, _, hlast⟩ := Relation.TransGen.tail'_iff.mp hcycle
    exact hg.consumer_mem_units hlast
  have hacc := h.layered.acc (by simp) id (by simpa using (h.mem_iff id).mpr hunit)
  exact not_transGen_self_of_acc hacc hcycle

theorem levels_of_layeredOrder {levels : List (List String)} (h : g.layeredOrder = .ok levels) :
    g.levels = levels ∧ g.levels.flatten.length = g.units.length := by
  simp only [layeredOrder] at h
  split at h
  · next hlen => exact ⟨Except.ok.inj h, hlen⟩
  · cases h

theorem leftOver_of_layeredOrder (hg : g.Assembled) {members : List String}
    (h : g.layeredOrder = .error members) :
    members.Pairwise (· < ·) ∧ g.levels.flatten.length ≠ g.units.length ∧
      ∀ id, id ∈ members ↔ id ∈ g.units ∧ id ∉ g.levels.flatten := by
  simp only [layeredOrder] at h
  split at h
  · cases h
  · next hlen =>
      cases h
      refine ⟨Text.pairwise_lt_mergeSort (hg.units_nodup.filter _), hlen, fun id => ?_⟩
      simp only [sortIds, List.mem_mergeSort, List.mem_filter, Bool.not_eq_true',
        List.contains_eq_mem, decide_eq_false_iff_not]

theorem levelled_of_layeredOrder (hg : g.Assembled) {levels : List (List String)}
    (h : g.layeredOrder = .ok levels) : g.Levelled levels := by
  obtain ⟨rfl, hlen⟩ := levels_of_layeredOrder h
  have hperm := (levels_subperm_units hg).perm_of_length_le hlen.ge
  exact ⟨(exhausts_levels hg).layered, (exhausts_levels hg).sorted,
    hperm.nodup_iff.mpr hg.units_nodup, fun id => hperm.mem_iff⟩

theorem waiting_of_layeredOrder (hg : g.Assembled) {members : List String}
    (h : g.layeredOrder = .error members) :
    members.Pairwise (· < ·) ∧ members ≠ [] ∧ ∀ id ∈ members, ∃ p ∈ members, g.Feeds p id := by
  obtain ⟨hsorted, hlen, hmem⟩ := leftOver_of_layeredOrder hg h
  refine ⟨hsorted, ?_, ?_⟩
  · rintro rfl
    -- with nobody left the units would all be placed
    have hall : g.units ⊆ g.levels.flatten := by
      intro id hid
      by_contra hnot
      exact List.not_mem_nil ((hmem id).mpr ⟨hid, hnot⟩)
    have hperm := (levels_subperm_units hg).antisymm (hg.units_nodup.subperm hall)
    exact hlen hperm.length_eq
  · intro id hid
    obtain ⟨hunit, hnot⟩ := (hmem id).mp hid
    obtain ⟨p, hp, hpnot⟩ := (exhausts_levels hg).stuck id hunit (by simpa using hnot)
    exact ⟨p, (hmem p).mpr ⟨hg.provider_mem hp, by simpa using hpnot⟩, hp⟩

theorem not_acyclic_of_members {members : List String} (hne : members ≠ [])
    (h : ∀ id ∈ members, ∃ p ∈ members, g.Feeds p id) : ¬ g.Acyclic := by
  obtain ⟨id, -, hcycle⟩ := exists_transGen_self hne h
  exact fun hac => hac id hcycle

/-! ## What the order depends on

Two graphs may list their units and their edges in different orders, and give an edge another label
or several.  As long as the same units wait for the same ones, the levels are the same, and so are
the units that no level takes. -/

section Congruence

variable {g' : ProviderGraph} (hunits : ∀ id, id ∈ g.units ↔ id ∈ g'.units)
  (hfeeds : ∀ p u, g.Feeds p u ↔ g'.Feeds p u)

include hunits hfeeds

theorem Residual.level_unique {placed level level' : List String} {cs cs' : Counters}
    (h : g.Residual placed cs level) (h' : g'.Residual placed cs' level') : level = level' := by
  refine Text.eq_of_sorted_of_mem_iff h.sorted h'.sorted fun id => ?_
  rw [h.ready, h'.ready, waitsFor_eq_zero_iff, waitsFor_eq_zero_iff, hunits id]
  simp only [hfeeds]

theorem levelsFrom_congr (hg : g.Assembled) (hg' : g'.Assembled) :
    ∀ (rounds : Nat) {placed level : List String} {cs cs' : Counters},
      g.Residual placed cs level → g'.Residual placed cs' level →
      g.levelsFrom rounds cs level = g'.levelsFrom rounds cs' level
  | 0, _, _, _, _, _, _ => rfl
  | _ + 1, _, [], _, _, _, _ => rfl
  | rounds + 1, placed, first :: others, cs, cs', h, h' => by
      have hnext := h.place hg
      have hnext' := h'.place hg'
      have hlevel := Residual.level_unique hunits hfeeds hnext hnext'
      rw [← hlevel] at hnext'
      have hrest := levelsFrom_congr hg hg' rounds hnext hnext'
      show (first :: others) :: g.levelsFrom rounds (g.place cs (first :: others)).1
          (g.place cs (first :: others)).2 =
        (first :: others) :: g'.levelsFrom rounds (g'.place cs' (first :: others)).1
          (g'.place cs' (first :: others)).2
      rw [← hlevel, hrest]

/-- The order of a graph depends on who waits for whom, and on nothing else. -/
theorem layeredOrder_congr (hg : g.Assembled) (hg' : g'.Assembled) :
    g.layeredOrder = g'.layeredOrder := by
  have hperm : g.units.Perm g'.units :=
    (List.perm_ext_iff_of_nodup hg.units_nodup hg'.units_nodup).mpr hunits
  have hlevels : g.levels = g'.levels := by
    have hstart := residual_start hg
    have hstart' := residual_start hg'
    have hfirst := Residual.level_unique hunits hfeeds hstart hstart'
    rw [← hfirst] at hstart'
    rw [levels, levels, ← hfirst, hperm.length_eq]
    exact levelsFrom_congr hunits hfeeds hg hg' _ hstart hstart'
  have hleft : sortIds (g.units.filter fun id => !g'.levels.flatten.contains id) =
      sortIds (g'.units.filter fun id => !g'.levels.flatten.contains id) := by
    refine Text.eq_of_sorted_of_mem_iff (Text.pairwise_lt_mergeSort (hg.units_nodup.filter _))
      (Text.pairwise_lt_mergeSort (hg'.units_nodup.filter _)) fun id => ?_
    rw [sortIds, sortIds, List.mem_mergeSort, List.mem_mergeSort, List.mem_filter, List.mem_filter,
      hunits]
  simp only [layeredOrder, hlevels, hperm.length_eq, hleft]

end Congruence

end Workplan.ProviderGraph
