/-
# `Workplan.Proofs.Run.FailureStates` — the state in which a failure is told

The event of a failed step carries the state in which the step ended.  A step ends before its
outputs are merged, so this is the failed state only where the step itself failed.  If its outputs
conflict with what is bound, the step has succeeded by then, and the event of its failure says so.

One event at most tells a failure, and it goes with the error in which the run ends
(`reportsFailure_iff`).  So the conflict is the only exception, and the first-wins policy has none.
-/
import Mathlib
import Workplan.Proofs.Run.Events

namespace Workplan

/-- The run reports the failure of a unit, in a state. -/
def RunOutcome.ReportsFailure (o : RunOutcome) (unit : String) (state : StepState) : Prop :=
  ∃ run text, .stepFailed run unit state text ∈ o.events

/-- The error of a run, and how its event tells it: a failed step as failed, a conflict as a step
that succeeded. -/
def RunError.ToldAs : RunError → String → StepState → Prop
  | .unitNotFound _, _, _ => False
  | .step unit _ _, id, state => id = unit ∧ state = .failed
  | .duplicateBinding _ unit, id, state => id = unit ∧ state = .succeeded

/-- The events tell no failure so far. -/
def Run.Unfailed (r : Run) : Prop := ∀ e ∈ eventsIn r.log, e.failed? = none

namespace Run

variable {r later : Run} {u : WorkUnit} {inputs : Inputs} {error : RunError}

theorem keeps_unfailed (levels : List (List WorkUnit)) :
    Keeps levels fun _ _ r => r.Unfailed where
  hand before level after done r hlevels hdone h := by
    intro e he
    rw [eventsIn_handedLevel] at he
    rcases List.mem_append.mp he with he | he
    · exact h e he
    · obtain ⟨u, -, rfl⟩ := List.mem_map.mp he
      rfl
  take done s waiting r h hexec hc := by
    intro e he
    rw [eventsIn_merged] at he
    rcases List.mem_append.mp he with he | he
    · exact h e he
    · obtain rfl := List.mem_singleton.mp he
      rfl

theorem Unfailed.not_mem (h : r.Unfailed) {run unit text : String} {state : StepState} :
    .stepFailed run unit state text ∉ eventsIn r.log := by
  intro he
  cases h _ he

theorem Unfailed.not_reportsFailure (h : r.Unfailed) {unit : String} {state : StepState} :
    ¬ r.complete.ReportsFailure unit state := by
  rintro ⟨run, text, he⟩
  rw [eventsIn_complete] at he
  rcases List.mem_append.mp he with he | he
  · exact h.not_mem he
  · cases List.mem_singleton.mp he

/-- A result that stops the run goes with the state in which it is told. -/
theorem toldAs_of_finish (h : r.finish u (u.performContained inputs) = (later, some error)) :
    ∀ unit state, error.ToldAs unit state ↔
      unit = u.id ∧ state = (u.performContained inputs).state := by
  intro unit state
  rcases error_of_finish h with ⟨cause, hout, rfl⟩ | ⟨outputs, key, hout, -, rfl⟩
  · rw [WorkUnit.state_of_performContained_error hout]
    exact Iff.rfl
  · rw [WorkUnit.state_of_performContained hout]
    exact Iff.rfl

theorem reportsFailure_of_finish (hr : r.Unfailed)
    (h : r.finish u (u.performContained inputs) = (later, some error)) (unit : String)
    (state : StepState) :
    RunOutcome.ReportsFailure ⟨later.log, .failed error⟩ unit state ↔ error.ToldAs unit state := by
  obtain ⟨-, text, hevents⟩ := eventsIn_finish h
  rw [toldAs_of_finish h]
  simp only [RunOutcome.ReportsFailure, RunOutcome.events, hevents, List.mem_append, List.mem_cons,
    List.not_mem_nil, or_false, hr.not_mem, false_or, RunEvent.stepFailed.injEq, reduceCtorEq]
  constructor
  · rintro ⟨run, text', -, hunit, hstate, -⟩
    exact ⟨hunit, hstate⟩
  · rintro ⟨hunit, hstate⟩
    exact ⟨r.run, text, rfl, hunit, hstate, rfl⟩

end Run

/-- A run reports a failure exactly if it fails at a step, and in the state that goes with its
error. -/
theorem reportsFailure_iff {reg : Registry} {run : String} {p : OrderedPlan} {c : Context}
    {o : RunOutcome} (ho : o = reg.runPlan run p c ∨ o = reg.runPlanParallel run p c)
    (unit : String) (state : StepState) :
    o.ReportsFailure unit state ↔ ∃ error, o.ending = .failed error ∧ error.ToldAs unit state := by
  have hbegin : (Run.begin reg run p c).Unfailed := by
    intro e he
    obtain rfl := List.mem_singleton.mp he
    rfl
  rcases Registry.loops_course Run.keeps_unfailed hbegin ho with
    ⟨id, rfl⟩ | ⟨levels, hcourse⟩ | ⟨u, done, mid, crash, hmid, rfl⟩
  · constructor
    · rintro ⟨run', text, he⟩
      cases he
    · rintro ⟨error, ⟨⟩, ⟨⟩⟩
  · cases hcourse with
    | completed hdone hr =>
        constructor
        · intro h
          exact absurd h hr.not_reportsFailure
        · rintro ⟨error, ⟨⟩, -⟩
    | stopped hlevels hdone hr hfinish =>
        rw [Run.reportsFailure_of_finish hr hfinish]
        constructor
        · intro htold
          exact ⟨_, rfl, htold⟩
        · rintro ⟨error, ⟨⟩, htold⟩
          exact htold
  · constructor
    · rintro ⟨run', text, he⟩
      exact absurd he hmid.not_mem
    · rintro ⟨error, ⟨⟩, -⟩

/-- In the events of a run a failure carries the failed state, unless the run ends with a conflict.
Then the one failure is told of a step that succeeded, the one whose outputs conflict.  Under the
first-wins policy there is no such run. -/
theorem failure_told_as_failed_iff {reg : Registry} {run : String} {p : OrderedPlan} {c : Context}
    {o : RunOutcome} (ho : o = reg.runPlan run p c ∨ o = reg.runPlanParallel run p c) :
    ((∀ unit state, o.ReportsFailure unit state → state = .failed) ↔
      ∀ key unit, o.ending ≠ .failed (.duplicateBinding key unit)) ∧
    (∀ unit n cause, o.ending = .failed (.step unit n cause) →
      ∀ id state, o.ReportsFailure id state ↔ id = unit ∧ state = .failed) ∧
    (∀ key unit, o.ending = .failed (.duplicateBinding key unit) →
      ∀ id state, o.ReportsFailure id state ↔ id = unit ∧ state = .succeeded) ∧
    (c.policy = .firstWins → ∀ unit state, o.ReportsFailure unit state → state = .failed) := by
  have htold := reportsFailure_iff ho
  have hstep : ∀ error, o.ending = .failed error →
      ∀ id state, o.ReportsFailure id state ↔ error.ToldAs id state := by
    intro error hending id state
    rw [htold, hending]
    constructor
    · rintro ⟨error', ⟨⟩, h⟩
      exact h
    · intro h
      exact ⟨error, rfl, h⟩
  have hfailed : (∀ key unit, o.ending ≠ .failed (.duplicateBinding key unit)) →
      ∀ unit state, o.ReportsFailure unit state → state = .failed := by
    intro hno unit state h
    obtain ⟨error, hending, htold⟩ := (htold unit state).mp h
    cases error with
    | unitNotFound id => cases htold
    | step id n cause => exact htold.2
    | duplicateBinding key id => exact absurd hending (hno key id)
  refine ⟨⟨?_, hfailed⟩, fun unit n cause h => hstep _ h, fun key unit h => hstep _ h, ?_⟩
  · intro hall key unit hending
    have hreport := (hstep _ hending unit .succeeded).mpr ⟨rfl, rfl⟩
    cases hall unit .succeeded hreport
  · intro hpolicy
    exact hfailed (Registry.ending_ne_conflict hpolicy ho)

/-! ## The diamond under the strict policy -/

theorem sequence_diamond_strict (run target planHash : String) (steps : UInt64) :
    (Run.sequence (diamond.unitsOf diamondPlan.steps)
      { run, target, planHash, context := { policy := .strict },
        log := [.event (.runStarted run target planHash steps)] }).ending =
      .failed (.duplicateBinding "shared" "right") := by
  cbv

theorem runPlan_diamond_strict :
    (diamond.runPlan "run" diamondPlan { policy := .strict }).ending =
      .failed (.duplicateBinding "shared" "right") :=
  sequence_diamond_strict _ _ _ _

theorem failure_told_as_failed_iff_diamond :
    (diamond.runPlan "run" diamondPlan { policy := .strict }).ReportsFailure "right" .succeeded ∧
    ¬ (diamond.runPlan "run" diamondPlan { policy := .strict }).ReportsFailure "right" .failed := by
  obtain ⟨-, -, htold, -⟩ := failure_told_as_failed_iff
    (o := diamond.runPlan "run" diamondPlan { policy := .strict }) (.inl rfl)
  have hright := htold "shared" "right" runPlan_diamond_strict "right"
  refine ⟨(hright .succeeded).mpr ⟨rfl, rfl⟩, fun hfailed => ?_⟩
  cases ((hright .failed).mp hfailed).2

/-- A failure need not be told as failed: the step that conflicts is told to have succeeded. -/
theorem conflict_told_as_succeeded :
    ∃ unit state, (diamond.runPlan "run" diamondPlan { policy := .strict }).ReportsFailure unit
      state ∧ state ≠ .failed :=
  ⟨"right", .succeeded, (reportsFailure_iff (.inl rfl) _ _).mpr
    ⟨_, runPlan_diamond_strict, rfl, rfl⟩, nofun⟩

end Workplan
