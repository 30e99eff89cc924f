/-
# `Workplan.Proofs.Plan.Units` — the units behind the steps of a plan

A plan names its steps, and a run looks them up.  Everything that a plan names is registered, so
the look-up succeeds, and a level picks the units registered under its names.  Nothing more is asked
of a plan that somebody wrote down by hand: `Runnable` says what it takes for both loops to perform
the registered units of its steps.
-/
import Workplan.Proofs.Plan.Outcome
import Workplan.Proofs.Step
import Workplan.Run.Basic

namespace Workplan

namespace Registry

variable {reg : Registry}

/-- The registered units of a list of identifiers. -/
def unitsOf (reg : Registry) (ids : List String) : List WorkUnit := ids.filterMap reg.get?

theorem mem_unitsOf {ids : List String} {u : WorkUnit} :
    u ∈ reg.unitsOf ids ↔ ∃ id ∈ ids, reg.get? id = some u :=
  List.mem_filterMap

theorem forall_mem_unitsOf {ids : List String} {Q : WorkUnit → Prop} :
    (∀ u ∈ reg.unitsOf ids, Q u) ↔ ∀ id ∈ ids, ∀ u, reg.get? id = some u → Q u := by
  simp only [mem_unitsOf, forall_exists_index, and_imp]
  exact ⟨fun h id hid u hu => h u id hid hu, fun h u id hid hu => h id hid u hu⟩

theorem unitsOf_flatten (groups : List (List String)) :
    reg.unitsOf groups.flatten = (groups.map reg.unitsOf).flatten :=
  List.filterMap_flatten

theorem get?_of_mem_unitsOf {ids : List String} {u : WorkUnit} (h : u ∈ reg.unitsOf ids) :
    reg.get? u.id = some u := by
  obtain ⟨id, -, hu⟩ := mem_unitsOf.mp h
  rw [id_of_get? hu]
  exact hu

theorem resolveSteps_eq {ids : List String} (h : ∀ id ∈ ids, reg.contains id = true) :
    reg.resolveSteps ids = .ok (reg.unitsOf ids) := by
  induction ids with
  | nil => rfl
  | cons id rest ih =>
      obtain ⟨hid, hrest⟩ := List.forall_mem_cons.mp h
      obtain ⟨u, hu⟩ := contains_eq_true_iff.mp hid
      simp [resolveSteps, unitsOf, hu, ih hrest, Except.map]

theorem resolveSteps_cases (reg : Registry) (ids : List String) :
    (∃ id ∈ ids, reg.contains id = false ∧ reg.resolveSteps ids = .error (.unitNotFound id)) ∨
    (∀ id ∈ ids, reg.contains id = true) ∧ reg.resolveSteps ids = .ok (reg.unitsOf ids) := by
  induction ids with
  | nil => exact Or.inr ⟨nofun, rfl⟩
  | cons first rest ih =>
      cases hu : reg.get? first with
      | none =>
          refine Or.inl ⟨first, List.mem_cons_self, Table.contains_eq_false_iff.mpr hu, ?_⟩
          simp only [resolveSteps, hu]
      | some u =>
          have hfirst : reg.contains first = true := contains_eq_true_iff.mpr ⟨u, hu⟩
          rcases ih with ⟨id, hid, hnot, herror⟩ | ⟨hrest, -⟩
          · refine Or.inl ⟨id, List.mem_cons_of_mem _ hid, hnot, ?_⟩
            simp only [resolveSteps, hu, herror, Except.map]
          · have hall : ∀ id ∈ first :: rest, reg.contains id = true :=
              List.forall_mem_cons.mpr ⟨hfirst, hrest⟩
            exact Or.inr ⟨hall, resolveSteps_eq hall⟩

theorem resolveSteps_of_unregistered {ids : List String}
    (h : ∃ id ∈ ids, reg.contains id = false) : ∃ error, reg.resolveSteps ids = .error error := by
  obtain ⟨id, hid, hnot⟩ := h
  rcases resolveSteps_cases reg ids with ⟨other, -, -, herror⟩ | ⟨hall, -⟩
  · exact ⟨_, herror⟩
  · have hreg := hall id hid
    rw [hnot] at hreg
    cases hreg

/-- A plan with a step that is not registered comes to nothing in either loop.  Otherwise the loops
perform the units of its steps, and those of the steps that its levels name. -/
theorem loops_cases (reg : Registry) (run : String) (p : OrderedPlan) (c : Context) :
    (∃ id, reg.runPlan run p c = ⟨[], .failed (.unitNotFound id)⟩ ∧
      reg.runPlanParallel run p c = ⟨[], .failed (.unitNotFound id)⟩) ∨
    (∀ id ∈ p.steps, reg.contains id = true) ∧
      reg.runPlan run p c = Run.sequence (reg.unitsOf p.steps) (Run.begin reg run p c) ∧
      reg.runPlanParallel run p c = Run.levelByLevel
        (p.levels.map (levelUnits (reg.unitsOf p.steps))) (Run.begin reg run p c) := by
  unfold runPlan runPlanParallel
  rcases resolveSteps_cases reg p.steps with ⟨id, -, -, herror⟩ | ⟨hall, hok⟩
  · exact Or.inl ⟨id, by rw [herror], by rw [herror]⟩
  · exact Or.inr ⟨hall, by rw [hok], by rw [hok]⟩

theorem find?_unitsOf {ids : List String} {id : String} (h : id ∈ ids) :
    (reg.unitsOf ids).find? (fun u => u.id = id) = reg.get? id := by
  cases hid : reg.get? id with
  | none =>
      rw [List.find?_eq_none]
      intro u hu hname
      have hget := get?_of_mem_unitsOf hu
      rw [of_decide_eq_true hname, hid] at hget
      cases hget
  | some u =>
      have hmem : u ∈ reg.unitsOf ids := mem_unitsOf.mpr ⟨id, h, hid⟩
      cases hf : (reg.unitsOf ids).find? fun u => u.id = id with
      | none => simpa [id_of_get? hid] using List.find?_eq_none.mp hf u hmem
      | some v =>
          have hname : v.id = id := by simpa using List.find?_some hf
          have hget := get?_of_mem_unitsOf (List.mem_of_find?_eq_some hf)
          rw [hname, hid] at hget
          exact hget.symm

/-- Whatever a level names, its units are those of the steps that it names. -/
theorem map_id_levelUnits {ids : List String} (h : ∀ id ∈ ids, reg.contains id = true)
    (level : List String) :
    (levelUnits (reg.unitsOf ids) level).map WorkUnit.id = level.filter (· ∈ ids) := by
  have hname : ∀ id, ((reg.unitsOf ids).find? fun u => u.id = id).map WorkUnit.id =
      Option.guard (· ∈ ids) id := by
    intro id
    by_cases hid : id ∈ ids
    · obtain ⟨u, hu⟩ := contains_eq_true_iff.mp (h id hid)
      rw [find?_unitsOf hid, hu, Option.map_some, id_of_get? hu, Option.guard_eq_some_iff.mpr]
      simpa using hid
    · have hnone : (reg.unitsOf ids).find? (fun u => u.id = id) = none := by
        rw [List.find?_eq_none]
        intro u hu hname
        obtain ⟨other, hother, hget⟩ := mem_unitsOf.mp hu
        rw [← id_of_get? hget, of_decide_eq_true hname] at hother
        exact hid hother
      rw [hnone]
      simp [Option.guard, hid]
  rw [levelUnits, List.map_filterMap, ← List.filterMap_eq_filter]
  exact List.filterMap_congr fun id _ => hname id

theorem levelUnits_eq {ids level : List String} (h : ∀ id ∈ level, id ∈ ids) :
    levelUnits (reg.unitsOf ids) level = reg.unitsOf level :=
  List.filterMap_congr fun id hid => find?_unitsOf (h id hid)

theorem map_id_unitsOf {ids : List String} (h : ∀ id ∈ ids, reg.contains id = true) :
    (reg.unitsOf ids).map WorkUnit.id = ids := by
  have hregistered : ∀ id ∈ ids, (reg.get? id).map WorkUnit.id = some id := by
    intro id hid
    obtain ⟨u, hu⟩ := contains_eq_true_iff.mp (h id hid)
    rw [hu, Option.map_some, id_of_get? hu]
  rw [unitsOf, List.map_filterMap, List.filterMap_congr hregistered]
  exact List.filterMap_some

end Registry

namespace OrderedPlan

variable {p : OrderedPlan} {reg : Registry} {c : Context} {target : String}

/-- The levels of the plan are its steps in groups, and every step is a registered unit of its
own.  Such a plan can be run, whether a target was planned or somebody wrote it down. -/
structure Runnable (p : OrderedPlan) (reg : Registry) : Prop where
  steps_eq : p.steps = p.levels.flatten
  nodup : p.steps.Nodup
  registered : ∀ id ∈ p.steps, reg.contains id = true

/-- A level of the plan names the one unit ahead of the other. -/
def Ahead (p : OrderedPlan) (first second : String) : Prop :=
  ∃ level ∈ p.levels, [first, second].Sublist level

theorem Schedules.runnable (hs : p.Schedules reg c target) : p.Runnable reg where
  steps_eq := hs.steps_eq
  nodup := hs.nodup
  registered := fun id hid => ((hs.mem_iff id).mp hid).registered

end OrderedPlan

namespace OrderedPlan.Runnable

variable {p : OrderedPlan} {reg : Registry}

theorem resolveSteps_eq (hp : p.Runnable reg) :
    reg.resolveSteps p.steps = .ok (reg.unitsOf p.steps) :=
  Registry.resolveSteps_eq hp.registered

theorem levels_eq (hp : p.Runnable reg) :
    p.levels.map (Registry.levelUnits (reg.unitsOf p.steps)) = p.levels.map reg.unitsOf := by
  refine List.map_congr_left fun level hlevel => Registry.levelUnits_eq fun id hid => ?_
  rw [hp.steps_eq]
  exact List.mem_flatten.mpr ⟨level, hlevel, hid⟩

theorem flatten_unitsOf (hp : p.Runnable reg) :
    (p.levels.map reg.unitsOf).flatten = reg.unitsOf p.steps := by
  rw [hp.steps_eq, Registry.unitsOf_flatten]

theorem map_id_unitsOf (hp : p.Runnable reg) : (reg.unitsOf p.steps).map WorkUnit.id = p.steps :=
  Registry.map_id_unitsOf hp.registered

theorem nodup_unitsOf (hp : p.Runnable reg) : (reg.unitsOf p.steps).Nodup :=
  .of_map WorkUnit.id (hp.map_id_unitsOf.symm ▸ hp.nodup)

theorem nodup_flatten (hp : p.Runnable reg) : (p.levels.map reg.unitsOf).flatten.Nodup :=
  hp.flatten_unitsOf ▸ hp.nodup_unitsOf

theorem map_id_levels (hp : p.Runnable reg) :
    (p.levels.map reg.unitsOf).map (List.map WorkUnit.id) = p.levels := by
  rw [List.map_map]
  refine (List.map_congr_left fun level hlevel => ?_).trans (List.map_id p.levels)
  refine Registry.map_id_unitsOf fun id hid => hp.registered id ?_
  rw [hp.steps_eq]
  exact List.mem_flatten.mpr ⟨level, hlevel, hid⟩

theorem runPlan_eq (hp : p.Runnable reg) (run : String) (c : Context) :
    reg.runPlan run p c = Run.sequence (reg.unitsOf p.steps) (Run.begin reg run p c) := by
  rw [Registry.runPlan, hp.resolveSteps_eq]

theorem runPlanParallel_eq (hp : p.Runnable reg) (run : String) (c : Context) :
    reg.runPlanParallel run p c =
      Run.levelByLevel (p.levels.map reg.unitsOf) (Run.begin reg run p c) := by
  rw [Registry.runPlanParallel, hp.resolveSteps_eq]
  show Run.levelByLevel (p.levels.map (Registry.levelUnits (reg.unitsOf p.steps))) _ = _
  rw [hp.levels_eq]

end OrderedPlan.Runnable

/-! ## The place of an element in levels -/

section Places

variable {α : Type} {levels before before' after after' : List (List α)} {level level' : List α}
  {x : α}

theorem split_of_distinct (hnodup : levels.flatten.Nodup) (h : levels = before ++ level :: after)
    (h' : levels = before' ++ level' :: after') (hx : x ∈ level) (hx' : x ∈ level') :
    before = before' ∧ level = level' := by
  have hapart : ∀ {before between after : List (List α)} {level level' : List α},
      levels = before ++ level :: (between ++ level' :: after) → x ∈ level → x ∉ level' := by
    intro before between after level level' hlevels hx hx'
    have hdisjoint := (List.nodup_flatten.mp (hlevels ▸ hnodup)).2
    have hlater := (List.pairwise_cons.mp (List.pairwise_append.mp hdisjoint).2.1).1
    exact hlater level' (by simp) hx hx'
  rcases List.append_eq_append_iff.mp (h.symm.trans h') with ⟨between, hb, ha⟩ | ⟨between, hb, ha⟩
  · cases between with
    | nil =>
        obtain ⟨rfl, -⟩ := List.cons.inj ha
        exact ⟨by simp [hb], rfl⟩
    | cons first between =>
        obtain ⟨rfl, rfl⟩ := List.cons.inj ha
        exact absurd hx' (hapart h hx)
  · cases between with
    | nil =>
        obtain ⟨rfl, -⟩ := List.cons.inj ha
        exact ⟨by simp [hb], rfl⟩
    | cons first between =>
        obtain ⟨rfl, rfl⟩ := List.cons.inj ha
        exact absurd hx (hapart h' hx')

theorem place_of_distinct {left left' right right' : List α}
    (hnodup : (left ++ x :: right).Nodup) (h : left ++ x :: right = left' ++ x :: right') :
    left = left' ∧ right = right' := by
  have hnot : x ∉ left ++ right := (List.nodup_cons.mp (List.nodup_middle.mp hnodup)).1
  obtain ⟨hleft, hright⟩ := not_or.mp (List.mem_append.not.mp hnot)
  obtain ⟨rfl, -, rfl⟩ := (List.append_cons_inj_of_notMem hleft hright).mp h
  exact ⟨rfl, rfl⟩

theorem pairwise_of_split {R : α → α → Prop} {xs : List α}
    (h : ∀ left y right, xs = left ++ y :: right → ∀ x ∈ left, R x y) : xs.Pairwise R := by
  rw [List.pairwise_iff_forall_sublist]
  intro x y hsub
  obtain ⟨front, back, rfl, hx, hy⟩ := List.cons_sublist_iff.mp hsub
  obtain ⟨middle, rest, rfl⟩ := List.append_of_mem (List.singleton_sublist.mp hy)
  exact h (front ++ middle) y rest (by simp) x (List.mem_append_left _ hx)

theorem mem_of_pair_sublist {y : α} {left right : List α} (hnodup : (left ++ x :: right).Nodup)
    (h : [x, y].Sublist (left ++ x :: right)) : y ∈ right := by
  obtain ⟨front, back, hsplit, hx, hy⟩ := List.cons_sublist_iff.mp h
  obtain ⟨first, middle, rfl⟩ := List.append_of_mem hx
  have hplace : left ++ x :: right = first ++ x :: (middle ++ back) := by
    rw [hsplit, List.append_assoc, List.cons_append]
  obtain ⟨-, rfl⟩ := place_of_distinct hnodup hplace
  exact List.mem_append_right _ (List.singleton_sublist.mp hy)

theorem pair_sublist_of_mem {y : α} {left right : List α} (h : y ∈ right) :
    [x, y].Sublist (left ++ x :: right) :=
  .trans ((List.singleton_sublist.mpr h).cons_cons x) (List.sublist_append_right _ _)

end Places

/-! ## A diamond

Two units require what the first one returns, and the last one requires what they declare.  Both of
them also return a key that neither declares. -/

/-- A branch of the diamond, which shares a key with the other branch. -/
def WorkUnit.branch (id key : String) : WorkUnit :=
  { WorkUnit.constant id ["token"] [(key, id)] with
    execute := fun _ => .returned (Table.ofList [(key, .ofString id), ("shared", .ofString id)]) }

def diamond : Registry := ({} : Registry).registerMany
  [.constant "auth" [] [("token", "t")], .branch "left" "l", .branch "right" "r",
    .constant "join" ["l", "r"] []]

def diamondPlan : OrderedPlan where
  target := "join"
  steps := ["auth", "left", "right", "join"]
  levels := [["auth"], ["left", "right"], ["join"]]

theorem diamondPlan_runnable : diamondPlan.Runnable diamond where
  steps_eq := rfl
  nodup := by decide
  registered := by decide

theorem unitsOf_diamondPlan : diamond.unitsOf diamondPlan.steps =
    [.constant "auth" [] [("token", "t")], .branch "left" "l", .branch "right" "r",
      .constant "join" ["l", "r"] []] := rfl

theorem diamond_checksSafely :
    ∀ id ∈ diamondPlan.steps, ∀ u, diamond.get? id = some u → u.ChecksSafely := by
  intro id hid u hu
  have hmem : u ∈ diamond.unitsOf diamondPlan.steps := Registry.mem_unitsOf.mpr ⟨id, hid, hu⟩
  simp only [unitsOf_diamondPlan, List.mem_cons, List.not_mem_nil, or_false] at hmem
  rcases hmem with rfl | rfl | rfl | rfl <;> exact fun _ _ => nofun

namespace OrderedPlan.Schedules

variable {p : OrderedPlan} {reg : Registry} {c : Context} {target : String}

theorem resolveSteps_eq (hs : p.Schedules reg c target) :
    reg.resolveSteps p.steps = .ok (reg.unitsOf p.steps) :=
  hs.runnable.resolveSteps_eq

theorem levels_eq (hs : p.Schedules reg c target) :
    p.levels.map (Registry.levelUnits (reg.unitsOf p.steps)) = p.levels.map reg.unitsOf :=
  hs.runnable.levels_eq

theorem map_id_unitsOf (hs : p.Schedules reg c target) :
    (reg.unitsOf p.steps).map WorkUnit.id = p.steps :=
  hs.runnable.map_id_unitsOf

/-- What a step waits for stands before it. -/
theorem awaited_earlier (hs : p.Schedules reg c target) {id q : String} (hid : id ∈ p.steps)
    (hq : reg.Awaits c id q) : ∃ before after, p.steps = before ++ id :: after ∧ q ∈ before := by
  rw [hs.steps_eq] at hid ⊢
  obtain ⟨level, hlevel, hmem⟩ := List.mem_flatten.mp hid
  obtain ⟨before, after, hlev⟩ := List.append_of_mem hlevel
  obtain ⟨left, right, hsplit⟩ := List.append_of_mem hmem
  refine ⟨before.flatten ++ left, right ++ after.flatten, ?_, ?_⟩
  · simp [hlev, hsplit]
  · exact List.mem_append_left left (hs.awaited_before before level after hlev id hmem q hq)

end OrderedPlan.Schedules

end Workplan
