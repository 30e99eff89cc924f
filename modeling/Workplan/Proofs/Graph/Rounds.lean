/-
# `Workplan.Proofs.Graph.Rounds` — the counters, round by round

`AtRound` follows the loop that places the levels: it holds of the levels placed so far, the
counters and the level at hand whenever a round starts, and once more when the loop has ended and
the level at hand is empty.  `SoundRound` is what is then true of them, for any graph that was put
together from nodes and edges, parallel edges and loops included.

It all rests on `Residual`, which counts the edges that a unit still waits for.  A counter comes
down to zero with the last of these edges.  So it is positive whenever an edge is taken off it, also
in the middle of a round, and a unit becomes ready once.
-/
import Mathlib
import Workplan.Proofs.Graph.Levels

namespace Workplan.ProviderGraph

variable {g : ProviderGraph} {before : List (List String)} {cs : Counters} {level : List String}

/-- The loop comes to the start of a round, or to its end: these levels are placed, the counters
stand so, and this level is at hand. -/
inductive AtRound (g : ProviderGraph) : List (List String) → Counters → List String → Prop
  | start : AtRound g [] g.counters g.firstLevel
  | round {before : List (List String)} {cs : Counters} {level : List String} :
      AtRound g before cs level → level ≠ [] →
      AtRound g (before ++ [level]) (g.place cs level).1 (g.place cs level).2

/-- What is true at the start of a round. -/
structure SoundRound (g : ProviderGraph) (before : List (List String)) (cs : Counters)
    (level : List String) : Prop where
  /-- There is a counter for each unit. -/
  keys : cs.map Prod.fst = g.units
  /-- It counts the edges from units without a level. -/
  get_eq : ∀ id ∈ g.units, cs.get id = g.waitsFor before.flatten id
  /-- No edge is taken off a counter that is zero already. -/
  positive : ∀ done id rest, level.flatMap g.consumersOf = done ++ id :: rest →
    id ∈ g.units ∧ 0 < (done.foldl lower (cs, [])).1.get id
  /-- No unit has two places, neither in two levels nor in one. -/
  nodup : (before ++ [level]).flatten.Nodup
  /-- Erasing repetitions from the next level leaves it as it is. -/
  next_eq : (g.place cs level).2 = sortIds ((level.flatMap g.consumersOf).foldl lower (cs, [])).2
  placed_le : (before ++ [level]).flatten.length ≤ g.units.length
  rounds_le : before.length ≤ g.units.length

theorem AtRound.residual (hg : g.Assembled) (h : g.AtRound before cs level) :
    g.Residual before.flatten cs level := by
  induction h with
  | start => exact residual_start hg
  | round _ _ ih =>
      rw [List.flatten_append, List.flatten_singleton]
      exact ih.place hg

/-- A round places a unit at least, so there are no more rounds than units placed. -/
theorem AtRound.length_le (h : g.AtRound before cs level) :
    before.length ≤ before.flatten.length := by
  induction h with
  | start => exact Nat.le_refl 0
  | round _ hne ih =>
      have hpos := List.length_pos_iff.mpr hne
      rw [List.length_append, List.flatten_append, List.flatten_singleton, List.length_append,
        List.length_singleton]
      omega

theorem Residual.positive {placed : List String} (hg : g.Assembled)
    (h : g.Residual placed cs level) {done rest : List String} {id : String}
    (hsplit : level.flatMap g.consumersOf = done ++ id :: rest) :
    id ∈ g.units ∧ 0 < (done.foldl lower (cs, [])).1.get id := by
  have hable := h.lowerable hg
  rw [hsplit] at hable
  refine ⟨?_, Nat.zero_lt_of_lt hable.foldl_lower.head_lt⟩
  rw [← h.keys]
  exact hable.keys id (List.mem_append_right done List.mem_cons_self)

theorem AtRound.sound (hg : g.Assembled) (h : g.AtRound before cs level) :
    g.SoundRound before cs level := by
  have hres := h.residual hg
  have hflat : (before ++ [level]).flatten = before.flatten ++ level := by simp
  have hplaced := (hres.place hg).placed_length_le
  refine ⟨hres.keys, hres.get_eq, fun _ _ _ => hres.positive hg, ?_, hres.next_eq hg, ?_, ?_⟩
  · rw [hflat]
    exact hres.placed_append_nodup
  · rw [hflat]
    exact hplaced
  · exact h.length_le.trans hres.placed_length_le

/-- The levels are those of a loop that has come to its end: the bound on the rounds does not cut it
short. -/
theorem AtRound.ends (hg : g.Assembled) {rounds : Nat} (h : g.AtRound before cs level)
    (hlen : g.units.length < rounds + before.flatten.length) :
    ∃ after, g.AtRound (before ++ g.levelsFrom rounds cs level) after [] := by
  induction rounds generalizing before cs level with
  | zero =>
      have hplaced := (h.residual hg).placed_length_le
      omega
  | succ rounds ih =>
      cases level with
      | nil =>
          refine ⟨cs, ?_⟩
          rw [levelsFrom, List.append_nil]
          exact h
      | cons first others =>
          have hbound : g.units.length <
              rounds + (before ++ [first :: others]).flatten.length := by
            simp only [List.flatten_append, List.flatten_singleton, List.length_append,
              List.length_cons]
            omega
          have hend := ih (h.round (List.cons_ne_nil first others)) hbound
          rw [List.append_assoc] at hend
          exact hend

/-- In any graph put together from nodes and edges the loop comes to its end, after as many rounds
as there are levels.  Whenever a round starts, each unit's counter counts the edges into it from
units without a level; none is lowered below zero; no unit is placed twice; and neither the units
placed nor the rounds are more than the units. -/
theorem rounds_sound {target : String} (h : Made target g) :
    (∀ before cs level, g.AtRound before cs level → g.SoundRound before cs level) ∧
    (∃ cs, g.AtRound g.levels cs []) ∧ g.levels.length ≤ g.units.length := by
  have hg := Made.assembled h
  have hend : ∃ cs, g.AtRound g.levels cs [] := AtRound.start.ends hg (by simp)
  obtain ⟨cs, hlast⟩ := hend
  exact ⟨fun _ _ _ hround => hround.sound hg, ⟨cs, hlast⟩, (hlast.sound hg).rounds_le⟩

/-- Two edges join `b` to `t`, and `x` waits for itself; nobody added a target. -/
def knottedGraph : ProviderGraph := (⟨"", [], []⟩ : ProviderGraph).addEdges
  [⟨.unit "b", .unit "t", .providesKey "k"⟩, ⟨.unit "b", .unit "t", .requested⟩,
    ⟨.unit "x", .unit "x", .requested⟩, ⟨.unit "x", .unit "t", .requested⟩]

/-- The loop ends after one round.  Two of the edges into `t` have been taken off; the edge from `x`,
which has no place, is still counted. -/
theorem rounds_sound_knotted :
    Made "" knottedGraph ∧ knottedGraph.counters = [("b", 0), ("t", 3), ("x", 1)] ∧
    knottedGraph.SoundRound [["b"]] [("b", 0), ("t", 1), ("x", 1)] [] ∧
    knottedGraph.levels.length ≤ knottedGraph.units.length := by
  have hmade : Made "" knottedGraph := GrowsTo.refl.addEdges _
  have hfirst : knottedGraph.firstLevel = ["b"] := by cbv
  have hplace : knottedGraph.place knottedGraph.counters ["b"] =
      ([("b", 0), ("t", 1), ("x", 1)], []) := by cbv
  have hround := (AtRound.start (g := knottedGraph)).round (by simp [hfirst])
  rw [hfirst, hplace] at hround
  obtain ⟨hsound, -, hlength⟩ := rounds_sound hmade
  exact ⟨hmade, by decide, hsound _ _ _ hround, hlength⟩

end Workplan.ProviderGraph
