/-
# `Workplan.Proofs.Run.Course` — what a run keeps from round to round

A run over levels makes two moves: it hands a whole level its inputs, and it takes in the outputs of
a step that succeeded.  `Keeps` says that both moves keep a property of the run, of the steps that
were handed inputs and of those among them that succeeded.  `levelByLevel_course` is the induction
over all runs, made once: the property holds where the run ends, be it complete or stopped by the
step whose turn it is.

The sequential loop needs no induction of its own.  Unless the check of a unit crashes, it is the
loop over levels of one unit each (`sequence_cases`).
-/
import Workplan.Proofs.Plan.Units
import Workplan.Proofs.Run.Trace

namespace Workplan

/-- A performed step as it was handed out. -/
def Performed.handout (s : Performed) : WorkUnit × Inputs := (s.unit, s.inputs)

namespace Run

/-! ## The two moves -/

/-- Both moves of a run over levels keep a property of the steps that were handed inputs, of those
that succeeded, and of the run. -/
structure Keeps (levels : List (List WorkUnit))
    (P : List (WorkUnit × Inputs) → List Performed → Run → Prop) : Prop where
  hand : ∀ before level after done r, levels = before ++ level :: after →
    done.map Performed.unit = before.flatten → P (done.map Performed.handout) done r →
    P (done.map Performed.handout ++ level.map fun u => (u, r.inputsFor u)) done
      (r.handedLevel level)
  take : ∀ done s waiting r, P (done.map Performed.handout ++ s.handout :: waiting) done r →
    s.unit.execute s.inputs = .returned s.outputs → (r.context.merge s.outputs).conflict = none →
    P (done.map Performed.handout ++ s.handout :: waiting) (done ++ [s])
      (r.merged s.unit .succeeded s.outputs)

theorem Keeps.and {levels : List (List WorkUnit)}
    {P Q : List (WorkUnit × Inputs) → List Performed → Run → Prop} (hP : Keeps levels P)
    (hQ : Keeps levels Q) :
    Keeps levels fun handed done r => P handed done r ∧ Q handed done r where
  hand before level after done r hlevels hdone h :=
    ⟨hP.hand before level after done r hlevels hdone h.1,
      hQ.hand before level after done r hlevels hdone h.2⟩
  take done s waiting r h hexec hc :=
    ⟨hP.take done s waiting r h.1 hexec hc, hQ.take done s waiting r h.2 hexec hc⟩

/-- How a run over levels ends, at a run with the property: complete, with all units performed, or
stopped by a unit of some level, with the units before it performed. -/
inductive Course (levels : List (List WorkUnit))
    (P : List (WorkUnit × Inputs) → List Performed → Run → Prop) : RunOutcome → Prop
  | completed {done : List Performed} {r : Run} : done.map Performed.unit = levels.flatten →
      P (done.map Performed.handout) done r → Course levels P r.complete
  | stopped {before after : List (List WorkUnit)} {left : List WorkUnit} {u : WorkUnit}
      {inputs : Inputs} {waiting : List (WorkUnit × Inputs)} {done : List Performed} {r later : Run}
      {error : RunError} :
      levels = before ++ (left ++ u :: waiting.map Prod.fst) :: after →
      done.map Performed.unit = before.flatten ++ left →
      P (done.map Performed.handout ++ (u, inputs) :: waiting) done r →
      r.finish u (u.performContained inputs) = (later, some error) →
      Course levels P ⟨later.log, .failed error⟩

variable {levels : List (List WorkUnit)}
  {P : List (WorkUnit × Inputs) → List Performed → Run → Prop}

/-- Taking in the results of what is left of a level keeps the property up to the end of the level,
or up to the step that stops the run. -/
theorem finishAll_course (hk : Keeps levels P) {before after : List (List WorkUnit)}
    {level : List WorkUnit} (hlevels : levels = before ++ level :: after)
    (inputs : WorkUnit → Inputs) (right left : List WorkUnit) (done : List Performed) (r : Run)
    (hlevel : level = left ++ right) (hdone : done.map Performed.unit = before.flatten ++ left)
    (h : P (done.map Performed.handout ++ right.map fun u => (u, inputs u)) done r) :
    (∃ later error,
      finishAll (right.map fun u => (u, u.performContained (inputs u))) r = (later, some error) ∧
        Course levels P ⟨later.log, .failed error⟩) ∨
    ∃ done' later,
      finishAll (right.map fun u => (u, u.performContained (inputs u))) r = (later, none) ∧
        done'.map Performed.unit = before.flatten ++ level ∧
        P (done'.map Performed.handout) done' later := by
  induction right generalizing left done r with
  | nil =>
      refine Or.inr ⟨done, r, rfl, ?_, by simpa using h⟩
      rw [hdone, hlevel, List.append_nil]
  | cons u rest ih =>
      rcases finish_cases r u (u.performContained (inputs u)) with
        ⟨later, error, hf, -, -⟩ | ⟨outputs, hok, hc, hf⟩
      · refine Or.inl ⟨later, error, by simp only [List.map_cons, finishAll, hf], ?_⟩
        have hrest : (rest.map fun u => (u, inputs u)).map Prod.fst = rest := by
          rw [List.map_map]
          exact List.map_id rest
        exact .stopped (by rw [hlevels, hlevel, hrest]) hdone h hf
      · rw [WorkUnit.state_of_performContained hok] at hf
        have hs := hk.take done ⟨u, inputs u, outputs⟩ _ r h
          (WorkUnit.execute_of_performContained hok) hc
        simp only [List.map_cons, finishAll, hf]
        refine ih (left ++ [u]) (done ++ [⟨u, inputs u, outputs⟩]) _ ?_ ?_ ?_
        · rw [hlevel, List.append_assoc, List.singleton_append]
        · rw [List.map_append, hdone, List.append_assoc]
          rfl
        · simpa [Performed.handout] using hs

theorem levelByLevel_course (hk : Keeps levels P) {r : Run} (h : P [] [] r) :
    Course levels P (levelByLevel levels r) := by
  suffices hrest : ∀ (rest before : List (List WorkUnit)) (done : List Performed) (r : Run),
      levels = before ++ rest → done.map Performed.unit = before.flatten →
      P (done.map Performed.handout) done r → Course levels P (levelByLevel rest r) from
    hrest levels [] [] r rfl rfl h
  intro rest
  induction rest with
  | nil =>
      intro before done r hlevels hdone h
      refine .completed ?_ h
      rw [hdone, hlevels, List.append_nil]
  | cons level rest ih =>
      intro before done r hlevels hdone h
      have hhanded := hk.hand before level rest done r hlevels hdone h
      rcases finishAll_course hk hlevels r.inputsFor level [] done _ rfl (by simpa using hdone)
          hhanded with
        ⟨later, error, hf, hstop⟩ | ⟨done', later, hf, hdone', h'⟩
      · rw [levelByLevel, performLevel_eq, hf]
        exact hstop
      · rw [levelByLevel, performLevel_eq, hf]
        exact ih (before ++ [level]) done' later (by simp [hlevels]) (by simpa using hdone') h'

theorem levelByLevel_ne_crashed (levels : List (List WorkUnit)) (r : Run) (crash : Crash) :
    (levelByLevel levels r).ending ≠ .crashed crash := by
  have hcourse : Course levels (fun _ _ _ => True) (levelByLevel levels r) :=
    levelByLevel_course ⟨fun _ _ _ _ _ _ _ _ => trivial, fun _ _ _ _ _ _ _ => trivial⟩ trivial
  generalize levelByLevel levels r = o at hcourse ⊢
  cases hcourse with
  | completed => exact nofun
  | stopped => exact nofun

/-! ## The sequential loop -/

theorem flatten_singles {α : Type} (xs : List α) : (xs.map fun x => [x]).flatten = xs :=
  List.flatMap_singleton' xs

/-- Where no check crashes, the sequential loop performs levels of one unit each. -/
theorem sequence_cases (units : List WorkUnit) (r : Run) :
    (∃ u ∈ units, ∃ inputs crash, u.perform inputs = .error crash ∧
      (u.id, inputs) ∈ (sequence units r).calls ∧ (sequence units r).ending = .crashed crash) ∨
    sequence units r = levelByLevel (units.map fun u => [u]) r := by
  induction units generalizing r with
  | nil => exact Or.inr rfl
  | cons u rest ih =>
      cases hp : u.perform (r.inputsFor u) with
      | error crash =>
          have hs := sequence_cons_of_crash hp rest
          refine Or.inl ⟨u, List.mem_cons_self, r.inputsFor u, crash, hp, ?_, by rw [hs]⟩
          rw [hs, RunOutcome.calls, callsIn_handed]
          simp
      | ok result =>
          have hlevel : r.performLevel [u] = finishAll [(u, result)] (r.handed u) := by
            rw [performLevel_eq, List.map_singleton, WorkUnit.performContained_of_perform hp]
            rfl
          cases hf : (r.handed u).finish u result with
          | mk next error =>
              cases error with
              | some error =>
                  refine Or.inr ?_
                  rw [sequence_cons_of_perform hp, hf]
                  simp only [List.map_cons, levelByLevel, hlevel, finishAll, hf]
              | none =>
                  have hs : sequence (u :: rest) r = sequence rest next := by
                    rw [sequence_cons_of_perform hp, hf]
                  have hl : levelByLevel ((u :: rest).map fun u => [u]) r =
                      levelByLevel (rest.map fun u => [u]) next := by
                    simp only [List.map_cons, levelByLevel, hlevel, finishAll, hf]
                  rw [hs, hl]
                  rcases ih next with ⟨v, hv, hcrash⟩ | hrest
                  · exact Or.inl ⟨v, List.mem_cons_of_mem _ hv, hcrash⟩
                  · exact Or.inr hrest

theorem complete_injective {r r' : Run} (h : r.complete = r'.complete) : r = r' := by
  obtain ⟨hlog, hending⟩ := RunOutcome.mk.inj h
  obtain ⟨hrun, htarget, hhash, hsteps, hcontext⟩ :=
    RunReport.mk.inj (RunEnding.completed.inj hending)
  obtain ⟨hlog, -⟩ := List.append_inj' hlog rfl
  cases r
  cases r'
  simp_all

/-- A crash of the sequential loop is that of a unit whose turn it is: the units before it make a
complete run of their own. -/
theorem sequence_crashed {units : List WorkUnit} {r : Run} {crash : Crash}
    (h : (sequence units r).ending = .crashed crash) :
    ∃ (before : List WorkUnit) (u : WorkUnit) (after : List WorkUnit) (mid : Run),
      units = before ++ u :: after ∧ sequence before r = mid.complete ∧
      u.perform (mid.inputsFor u) = .error crash ∧
      sequence units r = ⟨(mid.handed u).log, .crashed crash⟩ := by
  induction units generalizing r with
  | nil => cases h
  | cons u rest ih =>
      cases hp : u.perform (r.inputsFor u) with
      | error crash' =>
          have hs := sequence_cons_of_crash hp rest
          rw [hs] at h
          cases h
          exact ⟨[], u, rest, r, rfl, rfl, hp, hs⟩
      | ok result =>
          have hround := sequence_cons_of_perform hp
          cases hf : (r.handed u).finish u result with
          | mk next error =>
              rw [hf] at hround
              cases error with
              | some error =>
                  rw [hround rest] at h
                  cases h
              | none =>
                  rw [hround rest] at h ⊢
                  obtain ⟨before, v, after, mid, rfl, hbefore, hv, hs⟩ := ih h
                  exact ⟨u :: before, v, after, mid, rfl, (hround before).trans hbefore, hv, hs⟩

theorem Keeps.of_append {levels more : List (List WorkUnit)} (hk : Keeps (levels ++ more) P) :
    Keeps levels P where
  hand before level after done r hlevels hdone h :=
    hk.hand before level (after ++ more) done r (by rw [hlevels]; simp) hdone h
  take := hk.take

/-- The sequential loop ends as a run over levels of one unit each does, or where a unit was handed
its inputs and crashes on checking them. -/
theorem sequence_course {units : List WorkUnit} (hk : Keeps (units.map fun u => [u]) P) {r : Run}
    (h : P [] [] r) :
    Course (units.map fun u => [u]) P (sequence units r) ∨
    ∃ (before : List WorkUnit) (u : WorkUnit) (after : List WorkUnit) (done : List Performed)
      (mid : Run) (crash : Crash), units = before ++ u :: after ∧
      done.map Performed.unit = before ∧
      P (done.map Performed.handout ++ [(u, mid.inputsFor u)]) done (mid.handed u) ∧
      u.perform (mid.inputsFor u) = .error crash ∧
      sequence units r = ⟨(mid.handed u).log, .crashed crash⟩ := by
  rcases sequence_cases units r with ⟨-, -, -, crash, -, -, hcrash⟩ | hs
  · obtain ⟨before, u, after, mid, rfl, hbefore, hu, hs⟩ := sequence_crashed hcrash
    rw [List.map_append] at hk
    -- up to the crash the run is one over levels, and it completes
    have hlevels : sequence before r = levelByLevel (before.map fun u => [u]) r := by
      rcases sequence_cases before r with ⟨-, -, -, crash', -, -, hcrash'⟩ | hlevels
      · rw [hbefore] at hcrash'
        cases hcrash'
      · exact hlevels
    have hcourse := levelByLevel_course hk.of_append h
    rw [← hlevels, hbefore] at hcourse
    generalize ho : mid.complete = o at hcourse
    cases hcourse with
    | completed hdone hP =>
        cases complete_injective ho
        rw [flatten_singles] at hdone
        refine Or.inr ⟨before, u, after, _, mid, crash, rfl, hdone, ?_, hu, hs⟩
        exact hk.hand _ [u] _ _ mid rfl (by rw [hdone, flatten_singles]) hP
    | stopped => cases (RunOutcome.mk.inj ho).2
  · rw [hs]
    exact Or.inl (levelByLevel_course hk h)

theorem sequence_eq_levelByLevel {units : List WorkUnit} (h : ∀ u ∈ units, u.ChecksSafely)
    (r : Run) : sequence units r = levelByLevel (units.map fun u => [u]) r := by
  rcases sequence_cases units r with ⟨u, hu, inputs, crash, hp, -, -⟩ | hs
  · obtain ⟨result, hresult⟩ := (h u hu).exists_result inputs
    rw [hp] at hresult
    cases hresult
  · exact hs

end Run

/-- Where all moves keep a property that a run begins with, the run has it wherever it ends,
whichever loop performs the plan: on its course, or at a unit that crashes on checking its inputs.
A plan with a step that is not registered does not begin. -/
theorem Registry.loops_course {P : List (WorkUnit × Inputs) → List Performed → Run → Prop}
    (hk : ∀ levels, Run.Keeps levels P) {reg : Registry} {run : String} {p : OrderedPlan}
    {c : Context} (h : P [] [] (Run.begin reg run p c)) {o : RunOutcome}
    (ho : o = reg.runPlan run p c ∨ o = reg.runPlanParallel run p c) :
    (∃ id, o = ⟨[], .failed (.unitNotFound id)⟩) ∨ (∃ levels, Run.Course levels P o) ∨
    ∃ (u : WorkUnit) (done : List Performed) (mid : Run) (crash : Crash),
      P (done.map Performed.handout ++ [(u, mid.inputsFor u)]) done (mid.handed u) ∧
      o = ⟨(mid.handed u).log, .crashed crash⟩ := by
  rcases reg.loops_cases run p c with ⟨id, hseq, hpar⟩ | ⟨-, hseq, hpar⟩
  · rcases ho with rfl | rfl
    · exact Or.inl ⟨id, hseq⟩
    · exact Or.inl ⟨id, hpar⟩
  · rcases ho with rfl | rfl
    · rw [hseq]
      rcases Run.sequence_course (hk _) h with
        hcourse | ⟨-, u, -, done, mid, crash, -, -, hP, -, hs⟩
      · exact Or.inr (Or.inl ⟨_, hcourse⟩)
      · exact Or.inr (Or.inr ⟨u, done, mid, crash, hP, hs⟩)
    · rw [hpar]
      exact Or.inr (Or.inl ⟨_, Run.levelByLevel_course (hk _) h⟩)

theorem Registry.ending_ne_conflict {reg : Registry} {run : String} {p : OrderedPlan} {c : Context}
    (hpolicy : c.policy = .firstWins) {o : RunOutcome}
    (ho : o = reg.runPlan run p c ∨ o = reg.runPlanParallel run p c) (key unit : String) :
    o.ending ≠ .failed (.duplicateBinding key unit) := by
  have hk : ∀ levels, Run.Keeps levels fun _ _ r => r.context.policy = .firstWins := by
    intro levels
    refine ⟨fun _ level _ _ r _ _ h => ?_, fun _ _ _ _ h _ _ => h⟩
    rw [Run.context_handedLevel]
    exact h
  rcases Registry.loops_course hk hpolicy ho with
    ⟨id, rfl⟩ | ⟨levels, hcourse⟩ | ⟨-, -, -, -, -, rfl⟩
  · exact nofun
  · cases hcourse with
    | completed => exact nofun
    | @stopped _ _ _ u inputs _ _ r _ error _ _ hP hfinish =>
        rintro ⟨⟩
        rcases Run.error_of_finish hfinish with ⟨cause, -, herror⟩ | ⟨outputs, key, hout, -, -⟩
        · cases herror
        · rw [Run.finish_of_firstWins hP hout] at hfinish
          cases hfinish
  · exact nofun

theorem OrderedPlan.Runnable.completed_course {p : OrderedPlan} {reg : Registry}
    (hp : p.Runnable reg) {run : String} {c : Context}
    {P : List (WorkUnit × Inputs) → List Performed → Run → Prop}
    (hk : ∀ levels, Run.Keeps levels P) (h : P [] [] (Run.begin reg run p c)) {o : RunOutcome}
    (ho : o = reg.runPlan run p c ∨ o = reg.runPlanParallel run p c) {report : RunReport}
    (hreport : o.ending = .completed report) :
    ∃ done r, done.map Performed.unit = reg.unitsOf p.steps ∧
      P (done.map Performed.handout) done r ∧ o = r.complete := by
  have hlevels : ∃ levels, levels.flatten = reg.unitsOf p.steps ∧
      o = Run.levelByLevel levels (Run.begin reg run p c) := by
    rcases ho with rfl | rfl
    · rw [hp.runPlan_eq] at hreport ⊢
      rcases Run.sequence_cases (reg.unitsOf p.steps) (Run.begin reg run p c) with
        ⟨u, -, inputs, crash, -, -, hcrash⟩ | hs
      · rw [hcrash] at hreport
        cases hreport
      · exact ⟨_, Run.flatten_singles _, hs⟩
    · exact ⟨_, hp.flatten_unitsOf, hp.runPlanParallel_eq run c⟩
  obtain ⟨levels, hflat, rfl⟩ := hlevels
  have hcourse := Run.levelByLevel_course (hk levels) h
  generalize Run.levelByLevel levels (Run.begin reg run p c) = o at hcourse hreport
  cases hcourse with
  | completed hdone hP => exact ⟨_, _, hdone.trans hflat, hP, rfl⟩
  | stopped => cases hreport

end Workplan
