/-
# `Workplan.Proofs.Run.Events` — the events of a run, from the first to the last

A run of a plan is told in events: it starts, then the steps start and end, and it completes.  The
events say where the run stopped.  The steps that succeeded are the first ones of the plan, the next
one is the step that failed, and nothing is told after its failure but the end of the run.

Events come from five places, two loops and two kinds of failure.  `Recounts` is what the events
tell at any time, next to what was handed out and what succeeded; both moves of a run keep it, and
what the end of the run adds is the same for all of them.  Level by level, the steps that started
are those of whole levels.  One after the other, a start is followed by its own outcome:
`TakesTurns`.
-/
import Workplan.Proofs.Run.Course

namespace Workplan

/-! ## Reading events -/

namespace RunEvent

/-- The unit of a step that starts. -/
def started? : RunEvent → Option String
  | .stepStarted _ unit _ => some unit
  | _ => none

/-- The unit of a step that ends in success. -/
def succeeded? : RunEvent → Option String
  | .stepSucceeded _ unit _ _ => some unit
  | _ => none

/-- The unit of a step that ends in failure. -/
def failed? : RunEvent → Option String
  | .stepFailed _ unit _ _ => some unit
  | _ => none

/-- The unit of a step that ends. -/
def ended? (e : RunEvent) : Option String := e.succeeded?.or e.failed?

/-- Whether the event is about a step, and not about the run as a whole. -/
def ofStep : RunEvent → Bool
  | .runStarted .. | .runCompleted .. => false
  | _ => true

end RunEvent

/-- The event among the entries of a record. -/
def LogEntry.event? : LogEntry → Option RunEvent
  | .event e => some e
  | _ => none

/-- The events among the entries of a record, in order. -/
def eventsIn (log : List LogEntry) : List RunEvent := log.filterMap LogEntry.event?

/-- The events that a run reports, in order. -/
def RunOutcome.events (o : RunOutcome) : List RunEvent := eventsIn o.log

/-- Each start of a step stands right before the end of the same step. -/
inductive Paired : List RunEvent → Prop
  | nil : Paired []
  | step {body : List RunEvent} {run unit version : String} {outcome : RunEvent} :
      Paired body → outcome.ended? = some unit →
      Paired (body ++ [.stepStarted run unit version, outcome])

/-! ## The journal of a run -/

/-- The error is about the unit, and tells how many steps succeeded before it. -/
def RunError.At : RunError → String → Nat → Prop
  | .unitNotFound _, _, _ => False
  | .step unit completed _, id, n => unit = id ∧ completed = n
  | .duplicateBinding _ unit, id, _ => unit = id

/-- How the events about steps and the count of failures go with the ending of a run in which `n`
steps succeeded: no failure if it completed, and if it did not, one, of the step behind these. -/
inductive OrderedPlan.Ends (p : OrderedPlan) (run : String) (n : Nat) :
    List RunEvent → UInt32 → RunEnding → Prop
  | completed {body : List RunEvent} {report : RunReport} : n = p.steps.length →
      (∀ e ∈ body, e.failed? = none) → p.Ends run n body 0 (.completed report)
  | failed {front : List RunEvent} {unit text : String} {state : StepState} {error : RunError} :
      p.steps[n]? = some unit → (∀ e ∈ front, e.failed? = none) → error.At unit n →
      p.Ends run n (front ++ [.stepFailed run unit state text]) 1 (.failed error)

/-- The events of a run of the plan in which `n` steps succeeded: the start of the run, events about
steps, and the end of the run. -/
structure RunOutcome.Journals (o : RunOutcome) (run : String) (p : OrderedPlan) (n : Nat)
    (body : List RunEvent) : Prop where
  events_eq : ∃ (planHash : String) (steps : UInt64) (succeeded failed : UInt32) (total : Binary64),
    steps.toNat = p.steps.length ∧ succeeded.toNat = n ∧
      o.events = .runStarted run p.target planHash steps ::
        (body ++ [.runCompleted run p.target succeeded failed total]) ∧
      p.Ends run n body failed o.ending
  ofStep : ∀ e ∈ body, e.ofStep = true
  succeeded_eq : body.filterMap RunEvent.succeeded? = p.steps.take n

/-! ## What the moves of a run report -/

@[simp] theorem eventsIn_append (xs ys : List LogEntry) :
    eventsIn (xs ++ ys) = eventsIn xs ++ eventsIn ys :=
  List.filterMap_append

@[simp] theorem eventsIn_warnings (ws : List Warning) : eventsIn (ws.map .warning) = [] := by
  simp [eventsIn, List.filterMap_map, LogEntry.event?]

namespace Run

variable {r later : Run} {u : WorkUnit} {result : StepResult} {error : RunError}

theorem eventsIn_handedLevel (r : Run) (units : List WorkUnit) :
    eventsIn (r.handedLevel units).log =
      eventsIn r.log ++ units.map fun u => .stepStarted r.run u.id u.version := by
  simp [handedLevel_eq, record, eventsIn, List.filterMap_map, Function.comp_def, LogEntry.event?]

theorem eventsIn_merged (r : Run) (u : WorkUnit) (state : StepState) (outputs : Outputs) :
    eventsIn (r.merged u state outputs).log =
      eventsIn r.log ++ [.stepSucceeded r.run u.id (.zero false) outputs.keys] := by
  simp only [merged, eventsIn_append, eventsIn_warnings, List.append_nil]
  rfl

theorem eventsIn_complete (r : Run) : r.complete.events =
    eventsIn r.log ++ [.runCompleted r.run r.target r.steps.length.toUInt32 0 (.zero false)] :=
  eventsIn_append r.log _

theorem eventsIn_fail (r : Run) (u : WorkUnit) (state : StepState) (text : String) :
    eventsIn (r.fail u state text).log =
      eventsIn r.log ++ [.stepFailed r.run u.id state text,
        .runCompleted r.run r.target r.steps.length.toUInt32 1 (.zero false)] :=
  eventsIn_append r.log _

/-- A result that stops the run is told by the same two events, whatever was wrong with it. -/
theorem eventsIn_finish (h : r.finish u result = (later, some error)) :
    error.At u.id r.steps.length ∧ ∃ text, eventsIn later.log =
      eventsIn r.log ++ [.stepFailed r.run u.id result.state text,
        .runCompleted r.run r.target r.steps.length.toUInt32 1 (.zero false)] := by
  cases hout : result.outcome with
  | error cause =>
      rw [finish_of_error hout] at h
      cases h
      refine ⟨⟨rfl, rfl⟩, cause.message, ?_⟩
      rw [eventsIn_fail, record, eventsIn_append]
      simp [eventsIn, LogEntry.event?]
  | ok outputs =>
      cases hc : (r.context.merge outputs).conflict with
      | none =>
          rw [finish_of_merged hout hc] at h
          cases h
      | some key =>
          rw [finish_of_conflict hout hc] at h
          cases h
          refine ⟨rfl, (RunError.duplicateBinding key u.id).message, ?_⟩
          rw [eventsIn_fail, record, eventsIn_append, eventsIn_warnings, List.append_nil]

end Run

/-! ## The events so far -/

/-- What the events of a run under way tell, behind the first one: which units were handed inputs,
and which of them succeeded. -/
structure Recounts (begun : RunEvent) (run target : String) (body : List RunEvent)
    (handed : List (WorkUnit × Inputs)) (done : List Performed) (r : Run) : Prop where
  events_eq : eventsIn r.log = begun :: body
  run_eq : r.run = run
  target_eq : r.target = target
  count_eq : r.steps.length = done.length
  started_eq : body.filterMap RunEvent.started? = handed.map fun h => h.1.id
  succeeded_eq : body.filterMap RunEvent.succeeded? = done.map fun s => s.unit.id
  ofStep : ∀ e ∈ body, e.ofStep = true
  unfailed : ∀ e ∈ body, e.failed? = none

/-- At most one step is under way, and each of the others ended before the next one started. -/
inductive TakesTurns : List RunEvent → List (WorkUnit × Inputs) → List Performed → Prop
  | idle {body : List RunEvent} {done : List Performed} : Paired body →
      TakesTurns body (done.map Performed.handout) done
  | busy {body : List RunEvent} {done : List Performed} {u : WorkUnit} {inputs : Inputs}
      {run : String} : Paired body →
      TakesTurns (body ++ [.stepStarted run u.id u.version])
        (done.map Performed.handout ++ [(u, inputs)]) done

namespace TakesTurns

variable {body : List RunEvent} {done : List Performed} {s : Performed} {u : WorkUnit}
  {inputs : Inputs} {waiting : List (WorkUnit × Inputs)}

theorem paired (h : TakesTurns body (done.map Performed.handout) done) : Paired body := by
  generalize hhanded : done.map Performed.handout = handed at h
  cases h with
  | idle h => exact h
  | busy h => simpa using congrArg List.length hhanded

theorem turn (h : TakesTurns body (done.map Performed.handout ++ (u, inputs) :: waiting) done) :
    waiting = [] ∧ ∃ front run, Paired front ∧
      body = front ++ [.stepStarted run u.id u.version] := by
  generalize hhanded : done.map Performed.handout ++ (u, inputs) :: waiting = handed at h
  cases h with
  | idle h => simpa using congrArg List.length hhanded
  | busy h =>
      obtain ⟨hu, hwaiting⟩ := List.cons.inj (List.append_cancel_left hhanded)
      cases hu
      exact ⟨hwaiting, _, _, h, rfl⟩

theorem ended (h : TakesTurns body (done.map Performed.handout ++ (u, inputs) :: waiting) done)
    {outcome : RunEvent} (houtcome : outcome.ended? = some u.id) : Paired (body ++ [outcome]) := by
  obtain ⟨-, front, run, hfront, rfl⟩ := h.turn
  rw [List.append_assoc]
  exact hfront.step houtcome

end TakesTurns

/-- The events of a run over levels so far.  If the levels are of one unit each, the steps take
turns. -/
def Told (begun : RunEvent) (run target : String) (levels : List (List WorkUnit))
    (handed : List (WorkUnit × Inputs)) (done : List Performed) (r : Run) : Prop :=
  ∃ body, Recounts begun run target body handed done r ∧
    ((∀ level ∈ levels, ∃ u, level = [u]) → TakesTurns body handed done)

theorem told_begin (reg : Registry) (run : String) (p : OrderedPlan) (c : Context)
    (levels : List (List WorkUnit)) :
    Told (.runStarted run p.target (reg.fingerprint p) p.steps.length.toUInt64) run p.target levels
      [] [] (Run.begin reg run p c) :=
  ⟨[], ⟨rfl, rfl, rfl, rfl, rfl, rfl, nofun, nofun⟩, fun _ => @TakesTurns.idle [] [] .nil⟩

theorem Recounts.handedLevel {begun : RunEvent} {run target : String} {body : List RunEvent}
    {handed : List (WorkUnit × Inputs)} {done : List Performed} {r : Run}
    (h : Recounts begun run target body handed done r) (level : List WorkUnit) :
    Recounts begun run target (body ++ level.map fun u => .stepStarted r.run u.id u.version)
      (handed ++ level.map fun u => (u, r.inputsFor u)) done (r.handedLevel level) where
  events_eq := by rw [Run.eventsIn_handedLevel, h.events_eq, List.cons_append]
  run_eq := by
    rw [Run.handedLevel_eq]
    exact h.run_eq
  target_eq := by
    rw [Run.handedLevel_eq]
    exact h.target_eq
  count_eq := by
    rw [Run.steps_handedLevel]
    exact h.count_eq
  started_eq := by
    simp [h.started_eq, List.filterMap_map, Function.comp_def, RunEvent.started?]
  succeeded_eq := by
    simp [h.succeeded_eq, List.filterMap_map, Function.comp_def, RunEvent.succeeded?]
  ofStep := List.forall_mem_append.mpr ⟨h.ofStep, by simp [RunEvent.ofStep]⟩
  unfailed := List.forall_mem_append.mpr ⟨h.unfailed, by simp [RunEvent.failed?]⟩

theorem Recounts.merged {begun : RunEvent} {run target : String} {body : List RunEvent}
    {handed : List (WorkUnit × Inputs)} {done : List Performed} {r : Run}
    (h : Recounts begun run target body handed done r) (s : Performed) :
    Recounts begun run target
      (body ++ [.stepSucceeded r.run s.unit.id (.zero false) s.outputs.keys]) handed (done ++ [s])
      (r.merged s.unit .succeeded s.outputs) where
  events_eq := by rw [Run.eventsIn_merged, h.events_eq, List.cons_append]
  run_eq := h.run_eq
  target_eq := h.target_eq
  count_eq := by simp [Run.merged, h.count_eq]
  started_eq := by simp [h.started_eq, RunEvent.started?]
  succeeded_eq := by simp [h.succeeded_eq, RunEvent.succeeded?]
  ofStep := List.forall_mem_append.mpr ⟨h.ofStep, by simp [RunEvent.ofStep]⟩
  unfailed := List.forall_mem_append.mpr ⟨h.unfailed, by simp [RunEvent.failed?]⟩

/-- Both moves of a run tell of what they do, and of nothing else. -/
theorem keeps_told (begun : RunEvent) (run target : String) (levels : List (List WorkUnit)) :
    Run.Keeps levels (Told begun run target levels) where
  hand before level after done r hlevels hdone := by
    rintro ⟨body, h, hturns⟩
    refine ⟨_, h.handedLevel level, fun hsingle => ?_⟩
    obtain ⟨u, rfl⟩ := hsingle level (by simp [hlevels])
    exact .busy (hturns hsingle).paired
  take done s waiting r := by
    rintro ⟨body, h, hturns⟩ hexec hc
    refine ⟨_, h.merged s, fun hsingle => ?_⟩
    obtain ⟨rfl, -⟩ := (hturns hsingle).turn
    have houtcome : RunEvent.ended? (.stepSucceeded r.run s.unit.id (.zero false)
        s.outputs.keys) = some s.unit.id := rfl
    have hhanded : done.map Performed.handout ++ [s.handout] =
        (done ++ [s]).map Performed.handout := by simp
    rw [hhanded]
    exact .idle ((hturns hsingle).ended houtcome)

/-! ## Where a run ends -/

namespace Recounts

variable {p : OrderedPlan} {run planHash : String} {body : List RunEvent}
  {handed : List (WorkUnit × Inputs)} {done : List Performed} {r : Run}

theorem steps_toNat (hshort : p.steps.length < 2 ^ 32) :
    p.steps.length.toUInt64.toNat = p.steps.length :=
  UInt64.toNat_ofNat_of_lt' (hshort.trans (by decide))

theorem complete
    (h : Recounts (.runStarted run p.target planHash p.steps.length.toUInt64) run p.target body
      handed done r) (hshort : p.steps.length < 2 ^ 32)
    (hall : done.map (fun s => s.unit.id) = p.steps) :
    r.complete.Journals run p p.steps.length body := by
  have hcount : r.steps.length = p.steps.length := by
    rw [h.count_eq, ← hall, List.length_map]
  refine ⟨⟨planHash, p.steps.length.toUInt64, r.steps.length.toUInt32, 0, .zero false,
    steps_toNat hshort, ?_, ?_, .completed rfl h.unfailed⟩, h.ofStep, ?_⟩
  · rw [hcount, UInt32.toNat_ofNat_of_lt' hshort]
  · rw [Run.eventsIn_complete, h.events_eq, h.run_eq, h.target_eq, List.cons_append]
  · rw [h.succeeded_eq, hall, List.take_length]

theorem stop
    (h : Recounts (.runStarted run p.target planHash p.steps.length.toUInt64) run p.target body
      handed done r) (hshort : p.steps.length < 2 ^ 32) {u : WorkUnit} {rest : List String}
    (hsplit : p.steps = done.map (fun s => s.unit.id) ++ u.id :: rest)
    {result : StepResult} {later : Run} {error : RunError}
    (hfinish : r.finish u result = (later, some error)) :
    ∃ text, RunOutcome.Journals ⟨later.log, .failed error⟩ run p done.length
      (body ++ [.stepFailed run u.id result.state text]) := by
  obtain ⟨hat, text, hevents⟩ := Run.eventsIn_finish hfinish
  rw [h.count_eq] at hat hevents
  have hcount : done.length = (done.map fun s => s.unit.id).length := by
    rw [List.length_map]
  have hn : done.length < 2 ^ 32 := by
    refine lt_of_le_of_lt ?_ hshort
    rw [hsplit, List.length_append, ← hcount]
    exact Nat.le_add_right _ _
  refine ⟨text, ⟨planHash, p.steps.length.toUInt64, done.length.toUInt32, 1, .zero false,
    steps_toNat hshort, UInt32.toNat_ofNat_of_lt' hn, ?_, .failed ?_ h.unfailed hat⟩, ?_, ?_⟩
  · rw [RunOutcome.events, hevents, h.events_eq, h.run_eq, h.target_eq]
    simp
  · rw [hsplit, hcount]
    simp
  · exact List.forall_mem_append.mpr ⟨h.ofStep, by simp [RunEvent.ofStep]⟩
  · rw [List.filterMap_append, h.succeeded_eq, hsplit, hcount, List.take_left]
    simp [RunEvent.succeeded?]

end Recounts

/-! ## Whole runs -/

/-- The units that started, next to the number of steps that succeeded: all of them, or those of the
levels up to the one in which the next step failed. -/
inductive StartedLevels (levels : List (List String)) (n : Nat) (started : List String) : Prop
  | all : n = levels.flatten.length → started = levels.flatten → StartedLevels levels n started
  | through (before after : List (List String)) (left right : List String) (unit : String) :
      levels = before ++ (left ++ unit :: right) :: after → n = (before.flatten ++ left).length →
      started = before.flatten ++ (left ++ unit :: right) → StartedLevels levels n started

/-- A run over the units of the levels writes the journal of the plan. -/
theorem journals_of_course {p : OrderedPlan} (hshort : p.steps.length < 2 ^ 32)
    {run planHash : String} {levels : List (List WorkUnit)}
    (hids : (levels.map (List.map WorkUnit.id)).flatten = p.steps) {o : RunOutcome}
    (hcourse : Run.Course levels (Told (.runStarted run p.target planHash
      p.steps.length.toUInt64) run p.target levels) o) :
    ∃ n body, o.Journals run p n body ∧
      StartedLevels (levels.map (List.map WorkUnit.id)) n (body.filterMap RunEvent.started?) ∧
      ((∀ level ∈ levels, ∃ u, level = [u]) → Paired body) := by
  cases hcourse with
  | @completed done r hdone htold =>
      obtain ⟨body, h, hturns⟩ := htold
      have hall : done.map (fun s => s.unit.id) = p.steps := by
        rw [← hids, ← List.map_flatten, ← hdone, List.map_map]
        rfl
      have hstarted : body.filterMap RunEvent.started? = p.steps := by
        rw [h.started_eq, List.map_map, ← hall]
        rfl
      exact ⟨p.steps.length, body, h.complete hshort hall, .all (by rw [hids])
        (by rw [hstarted, hids]), fun hsingle => (hturns hsingle).paired⟩
  | @stopped before after left u inputs waiting done r later error hsplit hdone htold hfinish =>
      obtain ⟨body, h, hturns⟩ := htold
      have hdone_ids : done.map (fun s => s.unit.id) =
          (before.map (List.map WorkUnit.id)).flatten ++ left.map WorkUnit.id := by
        rw [← List.map_flatten, ← List.map_append, ← hdone, List.map_map]
        rfl
      have hlevels : levels.map (List.map WorkUnit.id) = before.map (List.map WorkUnit.id) ++
          (left.map WorkUnit.id ++ u.id :: (waiting.map Prod.fst).map WorkUnit.id) ::
            after.map (List.map WorkUnit.id) := by
        rw [hsplit]
        simp
      obtain ⟨text, hjournals⟩ := h.stop (u := u) hshort
        (by rw [← hids, hlevels, hdone_ids]; simp; rfl) hfinish
      refine ⟨done.length, _, hjournals, .through _ _ _ _ _ hlevels ?_ ?_,
        fun hsingle => (hturns hsingle).ended rfl⟩
      · rw [← hdone_ids, List.length_map]
      · rw [List.filterMap_append, h.started_eq, List.map_append, List.map_map, ← List.append_assoc,
          ← hdone_ids]
        simp [RunEvent.started?, Performed.handout, Function.comp_def]

/-- Over levels of one unit each, the units that started are those that succeeded and the next
one. -/
theorem StartedLevels.eq_take {steps started : List String} {n : Nat}
    (h : StartedLevels (steps.map fun id => [id]) n started) : started = steps.take (n + 1) := by
  have hflat := Run.flatten_singles steps
  cases h with
  | all hn hstarted =>
      rw [hstarted, hn, hflat]
      exact (List.take_of_length_le (Nat.le_succ _)).symm
  | through before after left right unit hlevels hn hstarted =>
      have hlevel : left ++ unit :: right ∈ steps.map fun id => [id] := by simp [hlevels]
      obtain ⟨id, -, hid⟩ := List.mem_map.mp hlevel
      obtain ⟨rfl, -, rfl⟩ : left = [] ∧ unit = id ∧ right = [] := by
        cases left <;> simp_all
      have hsteps : steps = (before.flatten ++ [unit]) ++ after.flatten := by
        rw [← hflat, hlevels]
        simp
      have hlength : n + 1 = (before.flatten ++ [unit]).length := by simp [hn]
      rw [hstarted, hlength, hsteps, List.take_left]
      rfl

/-- A run of a plan of registered steps writes its journal, whichever loop performs it: the start of
the run, the successes of the first `n` steps, the failure of the next one if the run failed, and
the end of the run with these counts.  One after the other, every start is followed by its own
outcome, and nothing starts behind a failure; level by level, all units of a level start.  A plan
with a step that is not registered leaves no event. -/
theorem runs_write_journal {reg : Registry} {p : OrderedPlan}
    (hlevels : p.steps = p.levels.flatten) (hnodup : p.steps.Nodup)
    (hshort : p.steps.length < 2 ^ 32)
    (hchecks : ∀ id ∈ p.steps, ∀ u, reg.get? id = some u → u.ChecksSafely)
    (run : String) (c : Context) :
    ((∃ id ∈ p.steps, reg.contains id = false) →
      (reg.runPlan run p c).events = [] ∧ (reg.runPlanParallel run p c).events = []) ∧
    ((∀ id ∈ p.steps, reg.contains id = true) →
      (∃ n body, (reg.runPlan run p c).Journals run p n body ∧ Paired body ∧
        body.filterMap RunEvent.started? = p.steps.take (n + 1)) ∧
      ∃ n body, (reg.runPlanParallel run p c).Journals run p n body ∧
        StartedLevels p.levels n (body.filterMap RunEvent.started?)) := by
  refine ⟨fun hunregistered => ?_, fun hregistered => ?_⟩
  · obtain ⟨error, herror⟩ := Registry.resolveSteps_of_unregistered hunregistered
    rw [Registry.runPlan, Registry.runPlanParallel, herror]
    exact ⟨rfl, rfl⟩
  · have hp : p.Runnable reg := ⟨hlevels, hnodup, hregistered⟩
    refine ⟨?_, ?_⟩
    · have hids : ((reg.unitsOf p.steps).map fun u => [u]).map (List.map WorkUnit.id) =
          p.steps.map fun id => [id] := by
        rw [List.map_map]
        conv_rhs => rw [← hp.map_id_unitsOf, List.map_map]
        rfl
      rw [hp.runPlan_eq, Run.sequence_eq_levelByLevel (Registry.forall_mem_unitsOf.mpr hchecks)]
      obtain ⟨n, body, hjournals, hstarted, hpaired⟩ := journals_of_course hshort
        (by rw [hids, Run.flatten_singles])
        (Run.levelByLevel_course (keeps_told _ run p.target _) (told_begin reg run p c _))
      refine ⟨n, body, hjournals, hpaired fun level hlevel => ?_, (hids ▸ hstarted).eq_take⟩
      obtain ⟨u, -, rfl⟩ := List.mem_map.mp hlevel
      exact ⟨u, rfl⟩
    · rw [hp.runPlanParallel_eq]
      obtain ⟨n, body, hjournals, hstarted, -⟩ := journals_of_course hshort
        (by rw [hp.map_id_levels]; exact hlevels.symm)
        (Run.levelByLevel_course (keeps_told _ run p.target _) (told_begin reg run p c _))
      exact ⟨n, body, hjournals, hp.map_id_levels ▸ hstarted⟩

/-- Under the strict policy the second branch of the diamond conflicts with the first one. -/
theorem runs_write_journal_diamond :
    (∃ n body, (diamond.runPlan "run" diamondPlan { policy := .strict }).Journals "run"
      diamondPlan n body ∧ Paired body ∧ body.filterMap RunEvent.started? = diamondPlan.steps.take (n + 1)) ∧
    ∃ n body, (diamond.runPlanParallel "run" diamondPlan { policy := .strict }).Journals "run"
      diamondPlan n body ∧ StartedLevels diamondPlan.levels n (body.filterMap RunEvent.started?) :=
  (runs_write_journal diamondPlan_runnable.steps_eq diamondPlan_runnable.nodup (by decide)
    diamond_checksSafely "run" { policy := .strict }).2 diamondPlan_runnable.registered

end Workplan
