/-
# `Workplan.Proofs.Run.OpenSteps` — starts that are never followed by an outcome

A step that starts is expected to end: behind its start the events tell one outcome of it before the
run completes.  One after the other this holds, because a step ends before the next one starts.

Level by level all units of a level start before any outcome is told, and their outcomes are told
in order up to the first failure.  So the units that stand behind a failure in its level are left
open, although they were performed: the run completes without a word about them.  These are the
only ones (`steps_closed_unless_abandoned`).

`InOrder` is what both moves of a run keep: the outcomes told so far are those of the first starts,
in the order of these.  With distinct names an outcome then goes with one start, the one before it.
-/
import Workplan.Proofs.Run.FailureStates

namespace Workplan

/-! ## Starts and what follows them -/

/-- The events go on with this many outcomes of the unit, and then the run completes. -/
def Answered (n : Nat) (unit : String) (later : List RunEvent) : Prop :=
  ∃ between run target succeeded failed total,
    later = between ++ [.runCompleted run target succeeded failed total] ∧
    (∀ e ∈ between, e.ofStep = true) ∧ (between.filterMap RunEvent.ended?).count unit = n

/-- Every start of a step is followed by exactly one outcome of its unit before the run
completes. -/
def RunOutcome.ClosesSteps (o : RunOutcome) : Prop :=
  ∀ before run unit version later, o.events = before ++ .stepStarted run unit version :: later →
    Answered 1 unit later

/-- The run abandons a unit: it reports the failure of one that stands ahead of it in its level. -/
def RunOutcome.Abandons (o : RunOutcome) (p : OrderedPlan) (unit : String) : Prop :=
  ∃ failed state, o.ReportsFailure failed state ∧ p.Ahead failed unit

theorem Answered.unique {n m : Nat} {unit : String} {later : List RunEvent}
    (h : Answered n unit later) (h' : Answered m unit later) : n = m := by
  obtain ⟨between, run, target, succeeded, failed, total, rfl, -, rfl⟩ := h
  obtain ⟨between', run', target', succeeded', failed', total', hlater, -, rfl⟩ := h'
  obtain ⟨rfl, -⟩ := List.append_inj' hlater rfl
  rfl

/-! ## Outcomes in the order of the starts -/

/-- The outcomes told at any time are those of the first steps that have started by then. -/
def InOrder (body : List RunEvent) : Prop :=
  ∀ front, front <+: body → front.filterMap RunEvent.ended? <+: front.filterMap RunEvent.started?

namespace InOrder

variable {body : List RunEvent}

theorem nil : InOrder [] := by
  intro front hfront
  rw [List.prefix_nil.mp hfront]
  exact List.prefix_refl _

theorem concat (h : InOrder body) {e : RunEvent}
    (he : (body ++ [e]).filterMap RunEvent.ended? <+:
      (body ++ [e]).filterMap RunEvent.started?) : InOrder (body ++ [e]) := by
  intro front hfront
  rcases List.prefix_concat_iff.mp hfront with rfl | hfront
  · exact he
  · exact h front hfront

theorem append (h : InOrder body) {more : List RunEvent} (hmore : ∀ e ∈ more, e.ended? = none) :
    InOrder (body ++ more) := by
  induction more generalizing body with
  | nil => rwa [List.append_nil]
  | cons e rest ih =>
      obtain ⟨he, hrest⟩ := List.forall_mem_cons.mp hmore
      rw [List.append_cons]
      refine ih (h.concat ?_) hrest
      rw [List.filterMap_append, List.filterMap_cons_none he, List.filterMap_nil, List.append_nil,
        List.filterMap_append]
      exact (h body (List.prefix_refl _)).trans (List.prefix_append _ _)

/-- If the units that start are distinct, the start of one is followed by an outcome of it, and by
one only, exactly if there is an outcome of it at all. -/
theorem answered (h : InOrder body) (hdistinct : (body.filterMap RunEvent.started?).Nodup)
    (hofStep : ∀ e ∈ body, e.ofStep = true) {run run' target planHash : String} {steps : UInt64}
    {succeeded failed : UInt32} {total : Binary64} {before later : List RunEvent}
    {unit version : String}
    (hsplit : .runStarted run' target planHash steps ::
        (body ++ [.runCompleted run' target succeeded failed total]) =
      before ++ .stepStarted run unit version :: later) :
    Answered (if unit ∈ body.filterMap RunEvent.ended? then 1 else 0) unit later := by
  -- the start is neither the first nor the last event
  cases before with
  | nil => cases (List.cons.inj hsplit).1
  | cons first front =>
      have hrest : body ++ [.runCompleted run' target succeeded failed total] =
          front ++ .stepStarted run unit version :: later := (List.cons.inj hsplit).2
      rcases List.eq_nil_or_concat later with rfl | ⟨between, last, rfl⟩
      · obtain ⟨-, hlast⟩ := List.append_inj' hrest rfl
        cases hlast
      · rw [List.concat_eq_append, ← List.cons_append, ← List.append_assoc] at hrest
        obtain ⟨rfl, hlast⟩ := List.append_inj' hrest rfl
        cases hlast
        refine ⟨between, run', target, succeeded, failed, total, List.concat_eq_append, ?_, ?_⟩
        · intro e he
          exact hofStep e (by simp [he])
        -- none of the outcomes before the start is one of the unit
        have hstarted : (front ++ .stepStarted run unit version :: between).filterMap
            RunEvent.started? = front.filterMap RunEvent.started? ++
              unit :: between.filterMap RunEvent.started? := by
          rw [List.filterMap_append]
          rfl
        have hended : (front ++ .stepStarted run unit version :: between).filterMap
            RunEvent.ended? = front.filterMap RunEvent.ended? ++
              between.filterMap RunEvent.ended? := by
          rw [List.filterMap_append]
          rfl
        have hbefore : unit ∉ front.filterMap RunEvent.ended? := by
          intro hunit
          have hfirst := (h front (List.prefix_append _ _)).subset hunit
          rw [hstarted] at hdistinct
          exact (List.nodup_append.mp hdistinct).2.2 unit hfirst unit List.mem_cons_self rfl
        have hnodup := hdistinct.sublist (h _ (List.prefix_refl _)).sublist
        rw [hended] at hnodup ⊢
        rw [(List.nodup_append.mp hnodup).2.1.count]
        simp only [List.mem_append, hbefore, false_or]

end InOrder

theorem Recounts.ended_eq {begun : RunEvent} {run target : String} {body : List RunEvent}
    {handed : List (WorkUnit × Inputs)} {done : List Performed} {r : Run}
    (h : Recounts begun run target body handed done r) :
    body.filterMap RunEvent.ended? = done.map fun s => s.unit.id := by
  rw [← h.succeeded_eq]
  refine List.filterMap_congr fun e he => ?_
  rw [RunEvent.ended?, h.unfailed e he, Option.or_none]

/-- The events of a run under way, told in order. -/
def ToldInOrder (run target planHash : String) (steps : UInt64) (handed : List (WorkUnit × Inputs))
    (done : List Performed) (r : Run) : Prop :=
  ∃ body, Recounts (.runStarted run target planHash steps) run target body handed done r ∧
    InOrder body

theorem keeps_toldInOrder (run target planHash : String) (steps : UInt64)
    (levels : List (List WorkUnit)) :
    Run.Keeps levels (ToldInOrder run target planHash steps) where
  hand before level after done r hlevels hdone := by
    rintro ⟨body, h, horder⟩
    refine ⟨_, h.handedLevel level, horder.append fun e he => ?_⟩
    obtain ⟨u, -, rfl⟩ := List.mem_map.mp he
    rfl
  take done s waiting r := by
    rintro ⟨body, h, horder⟩ hexec hc
    refine ⟨_, h.merged s, horder.concat ?_⟩
    rw [(h.merged s).started_eq, List.filterMap_append, h.ended_eq]
    simp [RunEvent.ended?, RunEvent.succeeded?, Performed.handout, Function.comp_def]

/-! ## Whole runs -/

/-- What the events of a whole run tell, from the start of the run to its completion: the steps that
started, and the outcomes of the first of them. -/
def RunOutcome.Tells (o : RunOutcome) (started ended : List String) : Prop :=
  ∃ run target planHash steps body succeeded failed total,
    o.events = .runStarted run target planHash steps ::
      (body ++ [.runCompleted run target succeeded failed total]) ∧
    (∀ e ∈ body, e.ofStep = true) ∧ InOrder body ∧
    body.filterMap RunEvent.started? = started ∧ body.filterMap RunEvent.ended? = ended

namespace RunOutcome.Tells

variable {o : RunOutcome} {started ended : List String}

theorem started_eq (h : o.Tells started ended) :
    o.events.filterMap RunEvent.started? = started := by
  obtain ⟨run, target, planHash, steps, body, succeeded, failed, total, hevents, -, -, rfl, -⟩ := h
  rw [hevents, List.filterMap_cons_none rfl, List.filterMap_append]
  exact List.append_nil _

theorem ended_eq (h : o.Tells started ended) : o.events.filterMap RunEvent.ended? = ended := by
  obtain ⟨run, target, planHash, steps, body, succeeded, failed, total, hevents, -, -, -, rfl⟩ := h
  rw [hevents, List.filterMap_cons_none rfl, List.filterMap_append]
  exact List.append_nil _

theorem ended_prefix (h : o.Tells started ended) : ended <+: started := by
  obtain ⟨run, target, planHash, steps, body, succeeded, failed, total, -, -, horder, rfl, rfl⟩ := h
  exact horder body (List.prefix_refl _)

theorem mem_of_reportsFailure (h : o.Tells started ended) {failed : String} {state : StepState}
    (hfailed : o.ReportsFailure failed state) : failed ∈ started := by
  obtain ⟨run, text, hevent⟩ := hfailed
  refine h.ended_prefix.subset ?_
  rw [← h.ended_eq]
  exact List.mem_filterMap.mpr ⟨_, hevent, rfl⟩

theorem mem_of_start (h : o.Tells started ended) {before later : List RunEvent}
    {run unit version : String}
    (hsplit : o.events = before ++ .stepStarted run unit version :: later) :
    unit ∈ started := by
  rw [← h.started_eq, hsplit]
  exact List.mem_filterMap.mpr ⟨_, List.mem_append_right _ List.mem_cons_self, rfl⟩

theorem exists_start (h : o.Tells started ended) {unit : String} (hunit : unit ∈ started) :
    ∃ before run version later, o.events = before ++ .stepStarted run unit version :: later := by
  rw [← h.started_eq] at hunit
  obtain ⟨e, he, hname⟩ := List.mem_filterMap.mp hunit
  obtain ⟨before, later, hsplit⟩ := List.append_of_mem he
  cases e with
  | stepStarted run unit' version =>
      cases hname
      exact ⟨before, run, version, later, hsplit⟩
  | _ => cases hname

theorem answered (h : o.Tells started ended) (hdistinct : started.Nodup)
    {before later : List RunEvent} {run unit version : String}
    (hsplit : o.events = before ++ .stepStarted run unit version :: later) :
    Answered (if unit ∈ ended then 1 else 0) unit later := by
  obtain ⟨run', target, planHash, steps, body, succeeded, failed, total, hevents, hofStep, horder,
    rfl, rfl⟩ := h
  rw [hevents] at hsplit
  exact horder.answered hdistinct hofStep hsplit

theorem closesSteps_iff (h : o.Tells started ended) (hdistinct : started.Nodup) :
    o.ClosesSteps ↔ ∀ unit ∈ started, unit ∈ ended := by
  constructor
  · intro hcloses unit hunit
    obtain ⟨before, run, version, later, hsplit⟩ := h.exists_start hunit
    have hone := hcloses before run unit version later hsplit
    by_contra hnot
    have hzero := h.answered hdistinct hsplit
    rw [if_neg hnot] at hzero
    cases hzero.unique hone
  · intro hall before run unit version later hsplit
    have hanswered := h.answered hdistinct hsplit
    rwa [if_pos (hall unit (h.mem_of_start hsplit))] at hanswered

end RunOutcome.Tells

namespace ToldInOrder

variable {run target planHash : String} {steps : UInt64} {handed waiting : List (WorkUnit × Inputs)}
  {done : List Performed} {r later : Run} {u : WorkUnit} {inputs : Inputs} {result : StepResult}
  {error : RunError}

theorem unfailed (h : ToldInOrder run target planHash steps handed done r) : r.Unfailed := by
  obtain ⟨body, h, -⟩ := h
  intro e he
  rw [h.events_eq] at he
  rcases List.mem_cons.mp he with rfl | he
  · rfl
  · exact h.unfailed e he

theorem complete (h : ToldInOrder run target planHash steps (done.map Performed.handout) done r) :
    r.complete.Tells (done.map fun s => s.unit.id) (done.map fun s => s.unit.id) := by
  obtain ⟨body, h, horder⟩ := h
  have hevents := Run.eventsIn_complete r
  rw [h.events_eq, h.run_eq, h.target_eq, List.cons_append] at hevents
  have hstarted := h.started_eq
  rw [List.map_map] at hstarted
  exact ⟨run, target, planHash, steps, body, _, _, _, hevents, h.ofStep, horder, hstarted,
    h.ended_eq⟩

/-- A run that stops tells the outcome of the step at which it stops, and not of those waiting. -/
theorem stop
    (h : ToldInOrder run target planHash steps
      (done.map Performed.handout ++ (u, inputs) :: waiting) done r)
    (hfinish : r.finish u result = (later, some error)) :
    RunOutcome.Tells ⟨later.log, .failed error⟩
      (done.map (fun s => s.unit.id) ++ u.id :: waiting.map fun job => job.1.id)
      (done.map (fun s => s.unit.id) ++ [u.id]) := by
  obtain ⟨body, h, horder⟩ := h
  obtain ⟨-, text, hevents⟩ := Run.eventsIn_finish hfinish
  rw [h.events_eq, h.run_eq, h.target_eq, List.append_cons, List.cons_append, List.cons_append]
    at hevents
  have hstarted : (body ++ [RunEvent.stepFailed run u.id result.state text]).filterMap
      RunEvent.started? =
        done.map (fun s => s.unit.id) ++ u.id :: waiting.map fun job => job.1.id := by
    rw [List.filterMap_append, h.started_eq, List.map_append, List.map_map]
    exact List.append_nil _
  have hended : (body ++ [RunEvent.stepFailed run u.id result.state text]).filterMap
      RunEvent.ended? = done.map (fun s => s.unit.id) ++ [u.id] := by
    rw [List.filterMap_append, h.ended_eq]
    rfl
  refine ⟨run, target, planHash, steps, _, _, _, _, hevents, ?_, horder.concat ?_, hstarted, hended⟩
  · exact List.forall_mem_append.mpr ⟨h.ofStep, by simp [RunEvent.ofStep]⟩
  · rw [hstarted, hended]
    exact ⟨waiting.map fun job => job.1.id, List.append_cons .. |>.symm⟩

end ToldInOrder

/-- A run over levels of distinct units leaves open exactly those that stand behind a failure in
their level. -/
theorem tells_of_course {levels : List (List WorkUnit)} {ids : List (List String)}
    (hids : levels.map (List.map WorkUnit.id) = ids) (hdistinct : ids.flatten.Nodup)
    {run target planHash : String} {steps : UInt64} {o : RunOutcome}
    (hcourse : Run.Course levels (ToldInOrder run target planHash steps) o) :
    ∃ started ended, o.Tells started ended ∧ started <+: ids.flatten ∧
      ∀ unit, unit ∈ started ∧ unit ∉ ended ↔ ∃ failed state, o.ReportsFailure failed state ∧
        ∃ level ∈ ids, [failed, unit].Sublist level := by
  cases hcourse with
  | @completed done r hdone htold =>
      refine ⟨_, _, htold.complete, ?_, fun unit => ?_⟩
      · rw [← hids, ← List.map_flatten, ← hdone, List.map_map]
        exact List.prefix_refl _
      · constructor
        · rintro ⟨hunit, hnot⟩
          exact absurd hunit hnot
        · rintro ⟨failed, state, hfailed, -⟩
          exact absurd hfailed htold.unfailed.not_reportsFailure
  | @stopped before after left u inputs waiting done r later error hlevels hdone htold hfinish =>
      have hreports : ∀ unit state,
          RunOutcome.ReportsFailure ⟨later.log, .failed error⟩ unit state ↔
            unit = u.id ∧ state = (u.performContained inputs).state := fun unit state =>
        (Run.reportsFailure_of_finish htold.unfailed hfinish unit state).trans
          (Run.toldAs_of_finish hfinish unit state)
      have hnames : done.map (fun s => s.unit.id) =
          (before.map (List.map WorkUnit.id)).flatten ++ left.map WorkUnit.id := by
        rw [← List.map_flatten, ← List.map_append, ← hdone, List.map_map]
        rfl
      have hsplit : ids = before.map (List.map WorkUnit.id) ++
          (left.map WorkUnit.id ++ u.id :: waiting.map fun job => job.1.id) ::
            after.map (List.map WorkUnit.id) := by
        rw [← hids, hlevels]
        simp
      have hlevel : left.map WorkUnit.id ++ u.id :: waiting.map (fun job => job.1.id) ∈ ids := by
        rw [hsplit]
        simp
      have hprefix : done.map (fun s => s.unit.id) ++ u.id :: waiting.map (fun job => job.1.id) <+:
          ids.flatten := by
        refine ⟨(after.map (List.map WorkUnit.id)).flatten, ?_⟩
        rw [hnames, hsplit]
        simp
      have hnodup := hdistinct.sublist hprefix.sublist
      refine ⟨_, _, htold.stop hfinish, hprefix, fun unit => ?_⟩
      rw [List.append_cons] at hnodup ⊢
      constructor
      · rintro ⟨hunit, hnot⟩
        have hwaiting := (List.mem_append.mp hunit).resolve_left hnot
        exact ⟨u.id, _, (hreports _ _).mpr ⟨rfl, rfl⟩, _, hlevel, pair_sublist_of_mem hwaiting⟩
      · rintro ⟨failed, state, hfailed, level, hother, hpair⟩
        obtain ⟨rfl, -⟩ := (hreports _ _).mp hfailed
        -- the level that names the two is the one that failed
        obtain ⟨before', after', hsplit'⟩ := List.append_of_mem hother
        obtain ⟨-, rfl⟩ := split_of_distinct hdistinct hsplit hsplit'
          (List.mem_append_right _ List.mem_cons_self) (hpair.subset List.mem_cons_self)
        have hwaiting := mem_of_pair_sublist ((List.nodup_flatten.mp hdistinct).1 _ hlevel) hpair
        exact ⟨List.mem_append_right _ hwaiting,
          fun hended => (List.nodup_append.mp hnodup).2.2 _ hended _ hwaiting rfl⟩

theorem closesSteps_of_events_eq_nil {o : RunOutcome} (h : o.events = []) : o.ClosesSteps := by
  intro before run unit version later hsplit
  rw [h] at hsplit
  simp at hsplit

theorem not_abandons_of_events_eq_nil {o : RunOutcome} (h : o.events = []) {p : OrderedPlan}
    {unit : String} : ¬ o.Abandons p unit := by
  rintro ⟨failed, state, ⟨run, text, hevent⟩, -⟩
  rw [h] at hevent
  cases hevent

/-- Among the steps, those abandoned are the ones that stand behind a failure in what the levels
name of the steps. -/
theorem abandons_iff {o : RunOutcome} {p : OrderedPlan} {started ended : List String}
    (htells : o.Tells started ended) (hstarted : ∀ unit ∈ started, unit ∈ p.steps) {unit : String}
    (hunit : unit ∈ p.steps) :
    o.Abandons p unit ↔ ∃ failed state, o.ReportsFailure failed state ∧
      ∃ level ∈ p.levels.map (List.filter (· ∈ p.steps)), [failed, unit].Sublist level := by
  constructor
  · rintro ⟨failed, state, hfailed, level, hlevel, hpair⟩
    have hstep := hstarted failed (htells.mem_of_reportsFailure hfailed)
    have hfilter := hpair.filter (· ∈ p.steps)
    rw [List.filter_eq_self.mpr (by simp [hstep, hunit])] at hfilter
    exact ⟨failed, state, hfailed, _, List.mem_map_of_mem hlevel, hfilter⟩
  · rintro ⟨failed, state, hfailed, level, hlevel, hpair⟩
    obtain ⟨level', hlevel', rfl⟩ := List.mem_map.mp hlevel
    exact ⟨failed, state, hfailed, level', hlevel', hpair.trans List.filter_sublist⟩

/-- One after the other every step is closed, as long as no check crashes.  Level by level, with no
unit named twice, a start is followed by no outcome if the run abandons its unit, and by exactly one
if not.  So every step is closed exactly if the run abandons none. -/
theorem steps_closed_unless_abandoned {reg : Registry} {p : OrderedPlan} (hnodup : p.steps.Nodup)
    (hchecks : ∀ id ∈ p.steps, ∀ u, reg.get? id = some u → u.ChecksSafely)
    (run : String) (c : Context) :
    (reg.runPlan run p c).ClosesSteps ∧
    (p.levels.flatten.Nodup →
      (∀ before run' unit version later, (reg.runPlanParallel run p c).events =
          before ++ .stepStarted run' unit version :: later →
        ((reg.runPlanParallel run p c).Abandons p unit → Answered 0 unit later) ∧
        (¬ (reg.runPlanParallel run p c).Abandons p unit → Answered 1 unit later)) ∧
      ((reg.runPlanParallel run p c).ClosesSteps ↔
        ∀ unit ∈ p.steps, ¬ (reg.runPlanParallel run p c).Abandons p unit)) := by
  have hkeeps : ∀ levels, Run.Keeps levels (ToldInOrder run p.target (reg.fingerprint p)
      p.steps.length.toUInt64) := keeps_toldInOrder _ _ _ _
  have hbegin : ToldInOrder run p.target (reg.fingerprint p) p.steps.length.toUInt64 [] []
      (Run.begin reg run p c) := ⟨[], ⟨rfl, rfl, rfl, rfl, rfl, rfl, nofun, nofun⟩, .nil⟩
  rcases reg.loops_cases run p c with ⟨id, hseq, hpar⟩ | ⟨hregistered, hseq, hpar⟩
  · rw [hseq, hpar]
    refine ⟨closesSteps_of_events_eq_nil rfl, fun _ => ⟨?_, ?_⟩⟩
    · intro before run' unit version later hsplit
      simp [RunOutcome.events, eventsIn] at hsplit
    · constructor
      · exact fun _ unit _ => not_abandons_of_events_eq_nil rfl
      · exact fun _ => closesSteps_of_events_eq_nil rfl
  refine ⟨?_, fun hlevels => ?_⟩
  · have hids : ((reg.unitsOf p.steps).map fun u => [u]).map (List.map WorkUnit.id) =
        p.steps.map fun id => [id] := by
      rw [List.map_map]
      conv_rhs => rw [← Registry.map_id_unitsOf hregistered, List.map_map]
      rfl
    rw [hseq, Run.sequence_eq_levelByLevel (Registry.forall_mem_unitsOf.mpr hchecks)]
    obtain ⟨started, ended, htells, hstarted, hopen⟩ := tells_of_course hids
      (by rwa [Run.flatten_singles]) (Run.levelByLevel_course (hkeeps _) hbegin)
    rw [Run.flatten_singles] at hstarted
    refine (htells.closesSteps_iff (hnodup.sublist hstarted.sublist)).mpr fun unit hunit => ?_
    by_contra hnot
    obtain ⟨failed, state, -, level, hlevel, hpair⟩ := (hopen unit).mp ⟨hunit, hnot⟩
    obtain ⟨id, -, rfl⟩ := List.mem_map.mp hlevel
    exact absurd hpair.length_le (by simp)
  · have hids : (p.levels.map (Registry.levelUnits (reg.unitsOf p.steps))).map
        (List.map WorkUnit.id) = p.levels.map (List.filter (· ∈ p.steps)) := by
      rw [List.map_map]
      exact List.map_congr_left fun level _ => Registry.map_id_levelUnits hregistered level
    have hflat : (p.levels.map (List.filter (· ∈ p.steps))).flatten =
        p.levels.flatten.filter (· ∈ p.steps) := List.filter_flatten.symm
    rw [hpar]
    obtain ⟨started, ended, htells, hstarted, hopen⟩ := tells_of_course hids
      (by rw [hflat]; exact hlevels.filter _) (Run.levelByLevel_course (hkeeps _) hbegin)
    rw [hflat] at hstarted
    have hdistinct : started.Nodup := (hlevels.filter _).sublist hstarted.sublist
    have hsteps : ∀ unit ∈ started, unit ∈ p.steps := fun unit hunit =>
      of_decide_eq_true (List.mem_filter.mp (hstarted.subset hunit)).2
    have habandons : ∀ unit ∈ p.steps, RunOutcome.Abandons (Run.levelByLevel _ _) p unit ↔
        unit ∈ started ∧ unit ∉ ended := fun unit hunit =>
      (abandons_iff htells hsteps hunit).trans (hopen unit).symm
    refine ⟨?_, ?_⟩
    · intro before run' unit version later hsplit
      have hunit := htells.mem_of_start hsplit
      have hanswered := htells.answered hdistinct hsplit
      rw [habandons unit (hsteps unit hunit)]
      constructor
      · rintro ⟨-, hnot⟩
        rwa [if_neg hnot] at hanswered
      · intro hended
        rwa [if_pos (by simpa [hunit] using hended)] at hanswered
    · rw [htells.closesSteps_iff hdistinct]
      constructor
      · intro hall unit hunit habandoned
        obtain ⟨hstarted, hnot⟩ := (habandons unit hunit).mp habandoned
        exact hnot (hall unit hstarted)
      · intro hnone unit hunit
        by_contra hnot
        have hstep := hsteps unit hunit
        exact hnone unit hstep ((habandons unit hstep).mpr ⟨hunit, hnot⟩)

/-! ## A step behind a failure -/

/-- Two units of one level, of which the first one fails, and a target that requires what both of
them declare. -/
def halting : Registry := ({} : Registry).registerMany
  [{ WorkUnit.constant "a" [] [("k", "")] with execute := fun _ => .failed ["down"] },
    .constant "b" [] [("m", "")], .constant "t" ["k", "m"] []]

def haltingPlan : OrderedPlan where
  target := "t"
  steps := ["a", "b", "t"]
  levels := [["a", "b"], ["t"]]

theorem buildPlan_halting : halting.buildPlan "t" {} = .ok (.ordered haltingPlan) := by
  cbv

theorem halting_checksSafely :
    ∀ id ∈ haltingPlan.steps, ∀ u, halting.get? id = some u → u.ChecksSafely := by
  intro id hid u hu
  have hmem : u ∈ halting.unitsOf haltingPlan.steps := Registry.mem_unitsOf.mpr ⟨id, hid, hu⟩
  have hunits : halting.unitsOf haltingPlan.steps =
      [{ WorkUnit.constant "a" [] [("k", "")] with execute := fun _ => .failed ["down"] },
        .constant "b" [] [("m", "")], .constant "t" ["k", "m"] []] := rfl
  simp only [hunits, List.mem_cons, List.not_mem_nil, or_false] at hmem
  rcases hmem with rfl | rfl | rfl <;> exact fun _ _ => nofun

theorem levelByLevel_halting (run target planHash : String) (steps : UInt64) :
    (Run.levelByLevel (haltingPlan.levels.map (Registry.levelUnits
      (halting.unitsOf haltingPlan.steps)))
      { run, target, planHash, context := {},
        log := [.event (.runStarted run target planHash steps)] }).events =
      [.runStarted run target planHash steps, .stepStarted run "a" "1", .stepStarted run "b" "1",
        .stepFailed run "a" .failed "unit 'a' failed: down",
        .runCompleted run target 0 1 (.zero false)] := by
  cbv

theorem runPlanParallel_halting (run : String) :
    (halting.runPlanParallel run haltingPlan {}).events =
      [.runStarted run "t" (halting.fingerprint haltingPlan) 3, .stepStarted run "a" "1",
        .stepStarted run "b" "1", .stepFailed run "a" .failed "unit 'a' failed: down",
        .runCompleted run "t" 0 1 (.zero false)] :=
  levelByLevel_halting _ _ _ _

theorem steps_closed_unless_abandoned_halting :
    (halting.runPlan "run" haltingPlan {}).ClosesSteps ∧
    ((halting.runPlanParallel "run" haltingPlan {}).ClosesSteps ↔
      ∀ unit ∈ haltingPlan.steps, ¬ (halting.runPlanParallel "run" haltingPlan {}).Abandons
        haltingPlan unit) := by
  obtain ⟨hsequence, hlevels⟩ := steps_closed_unless_abandoned (p := haltingPlan) (by decide)
    halting_checksSafely "run" {}
  exact ⟨hsequence, (hlevels (by decide)).2⟩

/-- A step may stay open: `b` has started and is performed, but the failure of `a` is the last that
the journal tells. -/
theorem step_left_open :
    halting.buildPlan "t" {} = .ok (.ordered haltingPlan) ∧ haltingPlan.steps.Nodup ∧
    (∀ id ∈ haltingPlan.steps, halting.contains id = true) ∧
    (∀ id ∈ haltingPlan.steps, ∀ u, halting.get? id = some u → u.ChecksSafely) ∧
    ¬ (halting.runPlanParallel "run" haltingPlan {}).ClosesSteps := by
  refine ⟨buildPlan_halting, by decide, by decide, halting_checksSafely, fun hcloses => ?_⟩
  have hanswered := hcloses [_, _] "run" "b" "1" [_, _] (runPlanParallel_halting "run")
  have hopen : Answered 0 "b" [.stepFailed "run" "a" .failed "unit 'a' failed: down",
      .runCompleted "run" "t" 0 1 (.zero false)] :=
    ⟨[_], _, _, _, _, _, rfl, by simp [RunEvent.ofStep], by decide⟩
  cases hopen.unique hanswered

end Workplan
