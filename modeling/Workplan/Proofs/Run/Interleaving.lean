/-
# `Workplan.Proofs.Run.Interleaving` — the threads of a level may end in any order

The units of a level run on threads of their own, each on inputs that were taken before any of them
was spawned, and they are joined in the order in which they were spawned.  `Run.Interleaves` lets
the threads end in any order.  Every order leads to the same outcome, the one that
`Run.levelByLevel` computes: a thread that has ended holds what its unit makes of its own inputs,
whenever it did.

With this, a plan whose levels do not feed themselves comes to the same end on threads as one step
after the other.
-/
import Mathlib.Logic.Relation
import Workplan.Proofs.Run.Agreement
import Workplan.Proofs.Run.Course

namespace Workplan

/-! ## Threads -/

/-- A thread that performs a unit: with a result once it has ended. -/
structure Thread where
  unit : WorkUnit
  inputs : Inputs
  result : Option StepResult := none

namespace Thread

/-- The thread at its end. -/
def ended (t : Thread) : Thread := { t with result := some (t.unit.performContained t.inputs) }

/-- The unit and the inputs that a thread was spawned with. -/
def job (t : Thread) : WorkUnit × Inputs := (t.unit, t.inputs)

/-- A result of the thread is what its unit makes of its inputs. -/
def Sound (t : Thread) : Prop :=
  ∀ result, t.result = some result → result = t.unit.performContained t.inputs

theorem sound_ended (t : Thread) : t.ended.Sound := by
  rintro _ ⟨⟩
  rfl

end Thread

/-- One of the threads that are still running ends. -/
inductive ThreadEnds : List Thread → List Thread → Prop
  | head {t : Thread} {rest : List Thread} : t.result = none →
      ThreadEnds (t :: rest) (t.ended :: rest)
  | tail (t : Thread) {rest rest' : List Thread} : ThreadEnds rest rest' →
      ThreadEnds (t :: rest) (t :: rest')

/-- The threads end one by one, in some order. -/
abbrev ThreadsEnd : List Thread → List Thread → Prop := Relation.ReflTransGen ThreadEnds

/-- The units and their results in the order of the threads, once all of them have ended. -/
def joined : List Thread → Option (List (WorkUnit × StepResult))
  | [] => some []
  | t :: rest => do return (t.unit, ← t.result) :: (← joined rest)

theorem ThreadEnds.job_eq {threads later : List Thread} (h : ThreadEnds threads later) :
    later.map Thread.job = threads.map Thread.job := by
  induction h with
  | head h => rfl
  | tail t h ih => rw [List.map_cons, List.map_cons, ih]

theorem ThreadEnds.sound {threads later : List Thread} (h : ThreadEnds threads later)
    (hsound : ∀ t ∈ threads, t.Sound) : ∀ t ∈ later, t.Sound := by
  induction h with
  | head h =>
      exact List.forall_mem_cons.mpr ⟨Thread.sound_ended _, (List.forall_mem_cons.mp hsound).2⟩
  | tail t h ih =>
      obtain ⟨ht, hrest⟩ := List.forall_mem_cons.mp hsound
      exact List.forall_mem_cons.mpr ⟨ht, ih hrest⟩

/-- Threads keep their jobs, and their results are sound, however many of them have ended. -/
theorem ThreadsEnd.kept {threads later : List Thread} (h : ThreadsEnd threads later)
    (hsound : ∀ t ∈ threads, t.Sound) :
    later.map Thread.job = threads.map Thread.job ∧ ∀ t ∈ later, t.Sound := by
  induction h with
  | refl => exact ⟨rfl, hsound⟩
  | tail _ hend ih => exact ⟨hend.job_eq.trans ih.1, hend.sound ih.2⟩

theorem joined_eq {threads : List Thread} (hsound : ∀ t ∈ threads, t.Sound)
    {results : List (WorkUnit × StepResult)} (h : joined threads = some results) :
    results = (threads.map Thread.job).map fun job => (job.1, job.1.performContained job.2) := by
  induction threads generalizing results with
  | nil =>
      cases h
      rfl
  | cons t rest ih =>
      obtain ⟨ht, hrest⟩ := List.forall_mem_cons.mp hsound
      simp only [joined, Option.pure_def, Option.bind_eq_bind, Option.bind_eq_some_iff] at h
      obtain ⟨result, hresult, others, hothers, ⟨⟩⟩ := h
      rw [ih hrest hothers, ht result hresult]
      rfl

theorem exists_joined (threads : List Thread) :
    ∃ later results, ThreadsEnd threads later ∧ joined later = some results := by
  induction threads with
  | nil => exact ⟨[], [], .refl, rfl⟩
  | cons t rest ih =>
      obtain ⟨later, results, hend, hjoined⟩ := ih
      have hlift : ThreadsEnd (t :: rest) (t :: later) := hend.lift (t :: ·) fun _ _ => .tail t
      cases ht : t.result with
      | some result => exact ⟨t :: later, (t.unit, result) :: results, hlift, by
          simp [joined, ht, hjoined]⟩
      | none => exact ⟨t.ended :: later, (t.unit, t.unit.performContained t.inputs) :: results,
          hlift.tail (.head ht), by simp [joined, Thread.ended, hjoined]⟩

/-! ## Runs on threads -/

namespace Run

/-- The threads that are spawned for the units of a level. -/
def threads (r : Run) (units : List WorkUnit) : List Thread :=
  units.map fun u => { unit := u, inputs := r.inputsFor u }

/-- A run over levels in which the threads of each level end in some order.  Once all of them have
ended, their results are taken in, in the order of the level. -/
inductive Interleaves : List (List WorkUnit) → Run → RunOutcome → Prop
  | complete (r : Run) : Interleaves [] r r.complete
  | stop {level : List WorkUnit} {rest : List (List WorkUnit)} {r later : Run} {error : RunError}
      {ended : List Thread} {results : List (WorkUnit × StepResult)} :
      ThreadsEnd (r.threads level) ended → joined ended = some results →
      finishAll results (r.handedLevel level) = (later, some error) →
      Interleaves (level :: rest) r ⟨later.log, .failed error⟩
  | goOn {level : List WorkUnit} {rest : List (List WorkUnit)} {r later : Run} {o : RunOutcome}
      {ended : List Thread} {results : List (WorkUnit × StepResult)} :
      ThreadsEnd (r.threads level) ended → joined ended = some results →
      finishAll results (r.handedLevel level) = (later, none) →
      Interleaves rest later o → Interleaves (level :: rest) r o

/-- Threads just spawned, joined after any order of ending, have performed their level. -/
theorem performLevel_of_joined {r : Run} {level : List WorkUnit} {ended : List Thread}
    {results : List (WorkUnit × StepResult)} (hend : ThreadsEnd (r.threads level) ended)
    (hjoined : joined ended = some results) :
    finishAll results (r.handedLevel level) = r.performLevel level := by
  have hsound : ∀ t ∈ r.threads level, t.Sound := by
    intro t ht
    obtain ⟨u, -, rfl⟩ := List.mem_map.mp ht
    exact nofun
  obtain ⟨hjobs, hkept⟩ := hend.kept hsound
  rw [performLevel_eq, joined_eq hkept hjoined, hjobs, threads, List.map_map, List.map_map]
  rfl

/-- Every order in which the threads end leads to the outcome of the run level by level, and there
is such an order. -/
theorem interleaves_iff {levels : List (List WorkUnit)} {r : Run} {o : RunOutcome} :
    Interleaves levels r o ↔ o = levelByLevel levels r := by
  constructor
  · intro h
    induction h with
    | complete r => rfl
    | stop hend hjoined hfinish =>
        rw [levelByLevel, ← performLevel_of_joined hend hjoined, hfinish]
    | goOn hend hjoined hfinish _ ih =>
        rw [levelByLevel, ← performLevel_of_joined hend hjoined, hfinish]
        exact ih
  · rintro rfl
    induction levels generalizing r with
    | nil => exact .complete r
    | cons level rest ih =>
        obtain ⟨ended, results, hend, hjoined⟩ := exists_joined (r.threads level)
        have hlevel := performLevel_of_joined hend hjoined
        cases hfinish : finishAll results (r.handedLevel level) with
        | mk later error =>
            rw [levelByLevel, ← hlevel, hfinish]
            cases error with
            | some error => exact .stop hend hjoined hfinish
            | none => exact .goOn hend hjoined hfinish ih

end Run

/-- The run of a plan level by level, in which the threads of each level end in some order. -/
def Registry.Interleaves (reg : Registry) (run : String) (p : OrderedPlan) (c : Context)
    (o : RunOutcome) : Prop :=
  match reg.resolveSteps p.steps with
  | .error error => o = ⟨[], .failed error⟩
  | .ok units =>
    Run.Interleaves (p.levels.map (Registry.levelUnits units)) (Run.begin reg run p c) o

theorem Registry.interleaves_iff {reg : Registry} {run : String} {p : OrderedPlan} {c : Context}
    {o : RunOutcome} : reg.Interleaves run p c o ↔ o = reg.runPlanParallel run p c := by
  unfold Registry.Interleaves Registry.runPlanParallel
  cases reg.resolveSteps p.steps with
  | error error => exact Iff.rfl
  | ok units => exact Run.interleaves_iff

/-! ## Levels that do not feed themselves -/

/-- No unit of a level ever returns a declared input of a later unit of its level. -/
def OrderedPlan.PeersIndependent (p : OrderedPlan) (reg : Registry) : Prop :=
  ∀ level ∈ p.levels, (reg.unitsOf level).Pairwise fun u v =>
    ∀ key ∈ v.descriptor.inputs.keys, ¬ u.MayReturn key

/-- Run on threads, in whatever order these end, a plan whose levels do not feed themselves ends as
it does one step after the other: with the same records and the same context, or with the same
error. -/
theorem threads_agree_with_sequence {p : OrderedPlan} {reg : Registry} (hp : p.Runnable reg)
    (hchecks : ∀ id ∈ p.steps, ∀ u, reg.get? id = some u → u.ChecksSafely)
    (hindependent : p.PeersIndependent reg) (run run' : String) (c : Context) :
    (∃ o, reg.Interleaves run p c o) ∧
    ∀ o, reg.Interleaves run p c o →
      o = reg.runPlanParallel run p c ∧ o.ending.Agrees (reg.runPlan run' p c).ending := by
  refine ⟨⟨_, Registry.interleaves_iff.mpr rfl⟩, fun o ho => ?_⟩
  obtain rfl := Registry.interleaves_iff.mp ho
  refine ⟨rfl, ?_⟩
  have hspared : PeersSpared (fun key => (Run.begin reg run p c).context.contains key = true)
      (p.levels.map reg.unitsOf) := by
    refine .of_split fun before level after hsplit => ?_
    obtain ⟨ids, hids, rfl⟩ : ∃ ids ∈ p.levels, reg.unitsOf ids = level := by
      rw [← List.mem_map, hsplit]
      simp
    exact (hindependent ids hids).imp fun hpair key hkey hreturn =>
      absurd hreturn (hpair key hkey)
  have hagree := Run.loops_agree (Run.alike_begin reg run run' p c) rfl hspared
  rw [hp.flatten_unitsOf, ← hp.runPlan_eq, ← hp.runPlanParallel_eq] at hagree
  rcases hagree with ⟨crash, hcrash⟩ | ⟨hends, -⟩
  · rw [hp.runPlan_eq, Run.sequence_eq_levelByLevel (Registry.forall_mem_unitsOf.mpr hchecks)]
      at hcrash
    exact absurd hcrash (Run.levelByLevel_ne_crashed _ _ crash)
  · exact hends

/-- The branches of the diamond share a key, but neither of them reads it. -/
theorem diamondPlan_peersIndependent : diamondPlan.PeersIndependent diamond := by
  have hauth : diamond.unitsOf ["auth"] = [.constant "auth" [] [("token", "t")]] := rfl
  have hbranches : diamond.unitsOf ["left", "right"] = [.branch "left" "l", .branch "right" "r"] :=
    rfl
  have hjoin : diamond.unitsOf ["join"] = [.constant "join" ["l", "r"] []] := rfl
  intro level hlevel
  simp only [diamondPlan, List.mem_cons, List.not_mem_nil, or_false] at hlevel
  rcases hlevel with rfl | rfl | rfl
  · rw [hauth]
    exact List.pairwise_singleton _ _
  · rw [hbranches, List.pairwise_pair]
    rintro key hkey ⟨inputs, _, ⟨⟩, hreturned⟩
    obtain rfl : key = "token" := List.mem_singleton.mp hkey
    exact absurd hreturned (by decide)
  · rw [hjoin]
    exact List.pairwise_singleton _ _

theorem threads_agree_with_sequence_diamond :
    (∃ o, diamond.Interleaves "on threads" diamondPlan { policy := .strict } o) ∧
    ∀ o, diamond.Interleaves "on threads" diamondPlan { policy := .strict } o →
      o = diamond.runPlanParallel "on threads" diamondPlan { policy := .strict } ∧
      o.ending.Agrees (diamond.runPlan "in sequence" diamondPlan { policy := .strict }).ending :=
  threads_agree_with_sequence diamondPlan_runnable diamond_checksSafely
    diamondPlan_peersIndependent "on threads" "in sequence" { policy := .strict }

end Workplan
