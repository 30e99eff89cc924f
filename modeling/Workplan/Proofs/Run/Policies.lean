/-
# `Workplan.Proofs.Run.Policies` — the strict policy refines the first-wins policy

Where a step returns a key that is bound, a strict run stops, and a first-wins run leaves the key
alone and goes on.  Up to there the two runs do the same, and this is all that sets them apart: a
strict run completes exactly if the first-wins run does without ever leaving a key alone, and then
with the same report.

`Run.lenient` is the run under the other policy.  `Lockstep` says how the two fare when they take in
the same results: both stop, both go on, or they part.  Once they have parted, the records of the
first-wins run show the key that it left alone until it ends (`Discards`), so it never looks like
the run of a strict policy again.
-/
import Workplan.Proofs.Run.FailureStates

namespace Workplan

/-! ## The same run under the other policy -/

def Context.lenient (c : Context) : Context := { c with policy := .firstWins }

def Run.lenient (r : Run) : Run := { r with context := r.context.lenient }

def RunReport.lenient (report : RunReport) : RunReport :=
  { report with context := report.context.lenient }

def RunEnding.lenient : RunEnding → RunEnding
  | .completed report => .completed report.lenient
  | ending => ending

def RunOutcome.lenient (o : RunOutcome) : RunOutcome := { o with ending := o.ending.lenient }

/-- Some step left a key of its outputs alone. -/
def Discards (steps : List StepRecord) : Prop := ∃ s ∈ steps, s.discarded ≠ []

theorem Discards.append {steps : List StepRecord} (h : Discards steps) (more : List StepRecord) :
    Discards (steps ++ more) := by
  obtain ⟨s, hs, hdiscarded⟩ := h
  exact ⟨s, List.mem_append_left more hs, hdiscarded⟩

/-- How a strict run and its first-wins counterpart fare with the same results: both stop alike,
both go on alike, or only the strict one stops, and if the other one goes on, it has discarded a
value. -/
inductive Run.Lockstep : Run × Option RunError → Run × Option RunError → Prop
  | stopped (later : Run) (error : RunError) :
      Lockstep (later, some error) (later.lenient, some error)
  | wentOn {next : Run} : next.context.policy = .strict →
      Lockstep (next, none) (next.lenient, none)
  | parted (later : Run) (key unit : String) {other : Run × Option RunError} :
      (∀ next, other = (next, none) → Discards next.steps) →
      Lockstep (later, some (.duplicateBinding key unit)) other

/-- How the outcomes of the two runs compare: they are the same, or the strict run ended with a
conflict, and the other one, if it completed, has discarded a value. -/
inductive RunOutcome.Refines : RunOutcome → RunOutcome → Prop
  | same (o : RunOutcome) : Refines o o.lenient
  | parted {o o' : RunOutcome} (key unit : String) :
      o.ending = .failed (.duplicateBinding key unit) →
      (∀ report, o'.ending = .completed report → Discards report.steps) → Refines o o'

namespace Run

variable {r : Run} {u : WorkUnit} {result : StepResult}

/-! ## A value that was discarded -/

theorem keeps_discards (levels : List (List WorkUnit)) :
    Keeps levels fun _ _ r => Discards r.steps where
  hand before level after done r hlevels hdone h := by
    rw [steps_handedLevel]
    exact h
  take done s waiting r h hexec hc := h.append _

theorem discards_finishAll {jobs : List (WorkUnit × StepResult)} {next : Run}
    (h : Discards r.steps) (hgo : finishAll jobs r = (next, none)) : Discards next.steps := by
  induction jobs generalizing r with
  | nil =>
      cases hgo
      exact h
  | cons job rest ih =>
      obtain ⟨u, result⟩ := job
      rcases finish_cases r u result with ⟨later, error, hf, -⟩ | ⟨outputs, -, -, hf⟩
      · simp only [finishAll, hf] at hgo
        cases hgo
      · simp only [finishAll, hf] at hgo
        exact ih (h.append _) hgo

theorem discards_levelByLevel {levels : List (List WorkUnit)} {report : RunReport}
    (h : Discards r.steps) (hreport : (levelByLevel levels r).ending = .completed report) :
    Discards report.steps := by
  have hcourse := levelByLevel_course (keeps_discards levels) h
  generalize levelByLevel levels r = o at hcourse hreport
  cases hcourse with
  | completed hdone hdiscards =>
      cases hreport
      exact hdiscards
  | stopped => cases hreport

theorem discards_sequence {units : List WorkUnit} {report : RunReport} (h : Discards r.steps)
    (hreport : (sequence units r).ending = .completed report) : Discards report.steps := by
  rcases sequence_cases units r with ⟨-, -, -, crash, -, -, hcrash⟩ | hs
  · rw [hcrash] at hreport
    cases hreport
  · rw [hs] at hreport
    exact discards_levelByLevel h hreport

/-! ## Both runs side by side -/

/-- A result either keeps the runs in step or parts them. -/
theorem finish_lenient (hpolicy : r.context.policy = .strict) (u : WorkUnit)
    (result : StepResult) : Lockstep (r.finish u result) (r.lenient.finish u result) := by
  cases hout : result.outcome with
  | error cause =>
      rw [finish_of_error hout, finish_of_error hout]
      exact .stopped _ _
  | ok outputs =>
      have hlenient : r.lenient.finish u result =
          (r.lenient.merged u result.state outputs, none) := finish_of_firstWins rfl hout
      have hfirst : (r.lenient.context.merge outputs).conflict = none :=
        Context.conflict_mergePairs_firstWins _ _
      rw [hlenient]
      cases hc : (r.context.merge outputs).conflict with
      | some key =>
          rw [finish_of_conflict hout hc]
          refine .parted _ key u.id fun next hnext => ?_
          cases hnext
          obtain ⟨hbound, hreturned⟩ := Context.contains_of_conflict hpolicy hc
          have hkey : key ∈ (r.lenient.context.merge outputs).discarded := by
            rw [Context.discarded_merge hfirst]
            exact List.mem_filter.mpr ⟨(outputs.contains_iff key).mp hreturned, hbound⟩
          exact ⟨_, List.mem_append_right _ List.mem_cons_self, List.ne_nil_of_mem hkey⟩
      | none =>
          have hmerge : r.lenient.context.merge outputs = r.context.merge outputs := by
            have hstrict := hc
            rw [Context.merge, hpolicy] at hstrict
            rw [Context.merge, Context.merge, hpolicy]
            exact (Context.mergePairs_firstWins_of_strict hstrict).1
          have hmerged : r.lenient.merged u result.state outputs =
              (r.merged u result.state outputs).lenient := by
            simp only [merged, Context.after, hmerge]
            rfl
          rw [finish_of_merged hout hc, hmerged]
          exact .wentOn hpolicy

theorem finishAll_lenient (hpolicy : r.context.policy = .strict)
    (jobs : List (WorkUnit × StepResult)) :
    Lockstep (finishAll jobs r) (finishAll jobs r.lenient) := by
  induction jobs generalizing r with
  | nil => exact .wentOn hpolicy
  | cons job rest ih =>
      obtain ⟨u, result⟩ := job
      have hstep := finish_lenient hpolicy u result
      rw [finishAll, finishAll]
      generalize r.finish u result = a at hstep ⊢
      generalize r.lenient.finish u result = a' at hstep ⊢
      cases hstep with
      | stopped later error => exact .stopped later error
      | wentOn hnext => exact ih hnext
      | parted later key unit hdiscards =>
          refine .parted later key unit fun next hgo => ?_
          obtain ⟨other, error⟩ := a'
          cases error with
          | some error => cases hgo
          | none => exact discards_finishAll (hdiscards other rfl) hgo

theorem performLevel_lenient (hpolicy : r.context.policy = .strict) (level : List WorkUnit) :
    Lockstep (r.performLevel level) (r.lenient.performLevel level) := by
  have hhanded : r.lenient.handedLevel level = (r.handedLevel level).lenient := by
    rw [handedLevel_eq, handedLevel_eq]
    rfl
  have hstrict : (r.handedLevel level).context.policy = .strict := by
    rw [context_handedLevel]
    exact hpolicy
  rw [performLevel_eq, performLevel_eq, hhanded]
  exact finishAll_lenient hstrict _

theorem levelByLevel_lenient (hpolicy : r.context.policy = .strict)
    (levels : List (List WorkUnit)) :
    (levelByLevel levels r).Refines (levelByLevel levels r.lenient) := by
  induction levels generalizing r with
  | nil => exact .same r.complete
  | cons level rest ih =>
      have hlevel := performLevel_lenient hpolicy level
      rw [levelByLevel, levelByLevel]
      generalize r.performLevel level = a at hlevel ⊢
      generalize r.lenient.performLevel level = a' at hlevel ⊢
      cases hlevel with
      | stopped later error => exact .same ⟨later.log, .failed error⟩
      | wentOn hnext => exact ih hnext
      | parted later key unit hdiscards =>
          refine .parted key unit rfl fun report hreport => ?_
          obtain ⟨other, error⟩ := a'
          cases error with
          | some error => cases hreport
          | none => exact discards_levelByLevel (hdiscards other rfl) hreport

theorem sequence_lenient (hpolicy : r.context.policy = .strict) (units : List WorkUnit) :
    (sequence units r).Refines (sequence units r.lenient) := by
  induction units generalizing r with
  | nil => exact .same r.complete
  | cons u rest ih =>
      cases hp : u.perform (r.inputsFor u) with
      | error crash =>
          rw [sequence_cons_of_crash hp, sequence_cons_of_crash (r := r.lenient) hp]
          exact .same ⟨(r.handed u).log, .crashed crash⟩
      | ok result =>
          have hstep := finish_lenient (r := r.handed u) hpolicy u result
          rw [sequence_cons_of_perform hp, sequence_cons_of_perform (r := r.lenient) hp]
          change Lockstep _ ((r.lenient.handed u).finish u result) at hstep
          generalize (r.handed u).finish u result = a at hstep ⊢
          generalize (r.lenient.handed u).finish u result = a' at hstep ⊢
          cases hstep with
          | stopped later error => exact .same ⟨later.log, .failed error⟩
          | wentOn hnext => exact ih hnext
          | parted later key unit hdiscards =>
              refine .parted key unit rfl fun report hreport => ?_
              obtain ⟨other, error⟩ := a'
              cases error with
              | some error => cases hreport
              | none => exact discards_sequence (hdiscards other rfl) hreport

end Run

/-! ## What a strict run keeps -/

/-- The events tell of a step that succeeded and returned the key. -/
def Supplies (events : List RunEvent) (key : String) : Prop :=
  ∃ run unit duration outputs,
    .stepSucceeded run unit duration outputs ∈ events ∧ key ∈ outputs

/-- The last that the events tell, behind these ones, is the failure of the unit. -/
def RunOutcome.FailsAfter (o : RunOutcome) (front : List RunEvent) (unit : String) : Prop :=
  ∃ run state text target succeeded failed total,
    o.events = front ++ [.stepFailed run unit state text,
      .runCompleted run target succeeded failed total]

/-- A strict run so far: it discarded nothing, and a key is bound from the beginning or by a step
that the events tell of. -/
structure Run.StrictSoFar (values : Table Value) (r : Run) : Prop where
  policy_eq : r.context.policy = .strict
  kept : ∀ s ∈ r.steps, s.discarded = []
  bound : ∀ key, r.context.contains key = true →
    values.contains key = true ∨ Supplies (eventsIn r.log) key

theorem Supplies.append {events : List RunEvent} {key : String} (h : Supplies events key)
    (more : List RunEvent) : Supplies (events ++ more) key := by
  obtain ⟨run, unit, duration, outputs, hevent, hkey⟩ := h
  exact ⟨run, unit, duration, outputs, List.mem_append_left more hevent, hkey⟩

namespace Run

variable {values : Table Value}

theorem keeps_strictSoFar (values : Table Value) (levels : List (List WorkUnit)) :
    Keeps levels fun _ _ r => r.StrictSoFar values where
  hand before level after done r hlevels hdone h := by
    refine ⟨?_, ?_, fun key hkey => ?_⟩
    · rw [context_handedLevel]
      exact h.policy_eq
    · rw [steps_handedLevel]
      exact h.kept
    · rw [context_handedLevel] at hkey
      rw [eventsIn_handedLevel]
      exact (h.bound key hkey).imp_right fun hsupplied => hsupplied.append _
  take done s waiting r h hexec hc := by
    refine ⟨h.policy_eq, List.forall_mem_append.mpr ⟨h.kept, ?_⟩, fun key hkey => ?_⟩
    · have hnone : (r.context.merge s.outputs).discarded = [] := by
        rw [Context.merge, h.policy_eq] at hc ⊢
        exact (Context.mergePairs_firstWins_of_strict hc).2
      exact List.forall_mem_singleton.mpr hnone
    · rw [eventsIn_merged]
      rw [context_merged, Context.contains_after hc, Bool.or_eq_true] at hkey
      rcases hkey with hold | hnew
      · exact (h.bound key hold).imp_right fun hsupplied => hsupplied.append _
      · refine Or.inr ⟨r.run, s.unit.id, _, _, List.mem_append_right _ List.mem_cons_self, ?_⟩
        exact (s.outputs.contains_iff key).mp hnew

theorem strictSoFar_begin (reg : Registry) (run : String) (p : OrderedPlan) (values : Table Value) :
    (begin reg run p { values, policy := .strict }).StrictSoFar values :=
  ⟨rfl, nofun, fun _ => Or.inl⟩

theorem StrictSoFar.conflict {r later : Run} {u : WorkUnit} {result : StepResult}
    {key unit : String} (h : r.StrictSoFar values)
    (hfinish : r.finish u result = (later, some (.duplicateBinding key unit))) :
    ∃ front, RunOutcome.FailsAfter ⟨later.log, .failed (.duplicateBinding key unit)⟩ front unit ∧
      (values.contains key = true ∨ Supplies front key) := by
  obtain ⟨hat, text, hevents⟩ := eventsIn_finish hfinish
  obtain rfl : unit = u.id := hat
  refine ⟨eventsIn r.log, ⟨_, _, _, _, _, _, _, hevents⟩, h.bound key ?_⟩
  rcases error_of_finish hfinish with ⟨cause, -, herror⟩ | ⟨outputs, key', -, hc, herror⟩
  · cases herror
  · cases herror
    exact (Context.contains_of_conflict h.policy_eq hc).1

end Run

/-! ## Whole runs -/

section Loops

variable {reg : Registry} {run : String} {p : OrderedPlan} {values : Table Value}

/-- Both loops go with their first-wins counterparts. -/
theorem loops_refine {loop : String → OrderedPlan → Context → RunOutcome}
    (hloop : loop = reg.runPlan ∨ loop = reg.runPlanParallel) (run : String) (p : OrderedPlan)
    (values : Table Value) :
    (loop run p { values, policy := .strict }).Refines
      (loop run p { values, policy := .firstWins }) := by
  have hlenient : (Run.begin reg run p { values, policy := .strict }).lenient =
      Run.begin reg run p { values, policy := .firstWins } := rfl
  rcases hloop with rfl | rfl
  · unfold Registry.runPlan
    cases reg.resolveSteps p.steps with
    | error error => exact .same ⟨[], .failed error⟩
    | ok units => exact hlenient ▸ Run.sequence_lenient rfl units
  · unfold Registry.runPlanParallel
    cases reg.resolveSteps p.steps with
    | error error => exact .same ⟨[], .failed error⟩
    | ok units => exact hlenient ▸ Run.levelByLevel_lenient rfl _

theorem discarded_eq_nil_of_completed {o : RunOutcome}
    (ho : o = reg.runPlan run p { values, policy := .strict } ∨
      o = reg.runPlanParallel run p { values, policy := .strict }) {report : RunReport}
    (hreport : o.ending = .completed report) : ∀ s ∈ report.steps, s.discarded = [] := by
  rcases Registry.loops_course (Run.keeps_strictSoFar values)
      (Run.strictSoFar_begin reg run p values) ho with
    ⟨id, rfl⟩ | ⟨levels, hcourse⟩ | ⟨u, done, mid, crash, -, rfl⟩
  · cases hreport
  · cases hcourse with
    | completed hdone hstrict =>
        cases hreport
        exact hstrict.kept
    | stopped => cases hreport
  · cases hreport

theorem failsAfter_of_conflict {o : RunOutcome}
    (ho : o = reg.runPlan run p { values, policy := .strict } ∨
      o = reg.runPlanParallel run p { values, policy := .strict }) {key unit : String}
    (hending : o.ending = .failed (.duplicateBinding key unit)) :
    ∃ front, o.FailsAfter front unit ∧ (values.contains key = true ∨ Supplies front key) := by
  rcases Registry.loops_course (Run.keeps_strictSoFar values)
      (Run.strictSoFar_begin reg run p values) ho with
    ⟨id, rfl⟩ | ⟨levels, hcourse⟩ | ⟨u, done, mid, crash, -, rfl⟩
  · cases hending
  · cases hcourse with
    | completed => cases hending
    | stopped hlevels hdone hstrict hfinish =>
        cases hending
        exact hstrict.conflict hfinish
  · cases hending

end Loops

/-- Whichever loop performs a plan, it completes under the strict policy exactly if it completes
under the first-wins policy without discarding a value.  The two runs then tell the same, and end
with the same report but for the policy.  Under the first-wins policy no run ends with a conflict;
under the strict one a run does only over a key that was bound before, at first or by a step that
the events tell of before the failure. -/
theorem strict_refines_firstWins {reg : Registry}
    {loop : String → OrderedPlan → Context → RunOutcome}
    (hloop : loop = reg.runPlan ∨ loop = reg.runPlanParallel) (run : String) (p : OrderedPlan)
    (values : Table Value) :
    ((∃ report, (loop run p { values, policy := .strict }).ending = .completed report) ↔
      ∃ report, (loop run p { values, policy := .firstWins }).ending = .completed report ∧
        ∀ s ∈ report.steps, s.discarded = []) ∧
    (∀ report, (loop run p { values, policy := .strict }).ending = .completed report →
      (loop run p { values, policy := .firstWins }).log =
          (loop run p { values, policy := .strict }).log ∧
        (loop run p { values, policy := .firstWins }).ending =
          .completed { report with context := { report.context with policy := .firstWins } }) ∧
    (∀ key unit, (loop run p { values, policy := .firstWins }).ending ≠
      .failed (.duplicateBinding key unit)) ∧
    ∀ key unit, (loop run p { values, policy := .strict }).ending =
        .failed (.duplicateBinding key unit) →
      ∃ front, (loop run p { values, policy := .strict }).FailsAfter front unit ∧
        (values.contains key = true ∨ Supplies front key) := by
  have hrefines := loops_refine hloop run p values
  have hruns : ∀ c, loop run p c = reg.runPlan run p c ∨
      loop run p c = reg.runPlanParallel run p c := by
    intro c
    exact hloop.imp (fun h => by rw [h]) (fun h => by rw [h])
  have hstrict := hruns { values, policy := .strict }
  have hfirst := Registry.ending_ne_conflict rfl (hruns { values, policy := .firstWins })
  generalize loop run p { values, policy := .strict } = o at hrefines hstrict ⊢
  generalize loop run p { values, policy := .firstWins } = o' at hrefines hfirst ⊢
  have hcompleted : ∀ report, o.ending = .completed report →
      o'.log = o.log ∧ o'.ending = .completed report.lenient := by
    intro report hreport
    cases hrefines with
    | same => exact ⟨rfl, congrArg RunEnding.lenient hreport⟩
    | parted key unit hconflict =>
        rw [hconflict] at hreport
        cases hreport
  refine ⟨⟨?_, ?_⟩, hcompleted, hfirst, fun key unit => failsAfter_of_conflict hstrict⟩
  · rintro ⟨report, hreport⟩
    have hkept := discarded_eq_nil_of_completed hstrict hreport
    exact ⟨report.lenient, (hcompleted report hreport).2, hkept⟩
  · rintro ⟨report', hreport', hkept⟩
    cases hrefines with
    | same =>
        cases hending : o.ending with
        | completed report => exact ⟨report, rfl⟩
        | failed error =>
            rw [RunOutcome.lenient, hending] at hreport'
            cases hreport'
        | crashed crash =>
            rw [RunOutcome.lenient, hending] at hreport'
            cases hreport'
    | parted key unit hconflict hdiscards =>
        obtain ⟨s, hs, hdiscarded⟩ := hdiscards report' hreport'
        exact absurd (hkept s hs) hdiscarded

/-- The branches of the diamond share a key, so the strict policy stops the second one. -/
theorem strict_refines_firstWins_diamond :
    (∃ front, (diamond.runPlan "run" diamondPlan { policy := .strict }).FailsAfter front "right" ∧
      (({} : Table Value).contains "shared" = true ∨ Supplies front "shared")) ∧
    ∀ key unit, (diamond.runPlan "run" diamondPlan {}).ending ≠
      .failed (.duplicateBinding key unit) := by
  obtain ⟨-, -, hfirst, hconflict⟩ := strict_refines_firstWins (.inl rfl) "run" diamondPlan {}
  exact ⟨hconflict "shared" "right" runPlan_diamond_strict, hfirst⟩

end Workplan
