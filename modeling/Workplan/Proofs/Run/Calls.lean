/-
# `Workplan.Proofs.Run.Calls` — the inputs that a run hands out

The record of a run lists, among events and warnings, each start of a step and each call: a unit
and the inputs it was handed.  Only the start of a step adds one of either; what is recorded when
a result is taken in is quiet.

`finish` has three ways to end: at a failed step, at a key that conflicts, and with the outputs
merged.  `finish_cases` and `sequence_cons_cases` are all that later proofs know about it and
about one round of the sequential loop.
-/
import Workplan.Proofs.Run.Merge
import Workplan.Run.Basic

namespace Workplan

/-- The unit of a start event. -/
def LogEntry.started? : LogEntry → Option String
  | .event (.stepStarted _ unit _) => some unit
  | _ => none

/-- The unit and the inputs of a call. -/
def LogEntry.call? : LogEntry → Option (String × Inputs)
  | .call unit inputs => some (unit, inputs)
  | _ => none

/-- An entry that belongs to no start of a step. -/
def LogEntry.Quiet (e : LogEntry) : Prop := e.started? = none ∧ e.call? = none

/-- The units that a record reports as started, in order. -/
def startedIn (log : List LogEntry) : List String := log.filterMap LogEntry.started?

/-- The calls among the entries of a record, in order. -/
def callsIn (log : List LogEntry) : List (String × Inputs) := log.filterMap LogEntry.call?

/-- The inputs that a run handed to units, in order. -/
def RunOutcome.calls (o : RunOutcome) : List (String × Inputs) := callsIn o.log

@[simp] theorem startedIn_append (xs ys : List LogEntry) :
    startedIn (xs ++ ys) = startedIn xs ++ startedIn ys :=
  List.filterMap_append

@[simp] theorem callsIn_append (xs ys : List LogEntry) :
    callsIn (xs ++ ys) = callsIn xs ++ callsIn ys :=
  List.filterMap_append

/-! ## Records that go on without a start -/

/-- The later record goes on from the earlier one without starting a step. -/
def QuietlyExtends (log later : List LogEntry) : Prop :=
  ∃ entries, later = log ++ entries ∧ ∀ e ∈ entries, e.Quiet

namespace QuietlyExtends

variable {log later last : List LogEntry}

theorem trans (h : QuietlyExtends log later) (h' : QuietlyExtends later last) :
    QuietlyExtends log last := by
  obtain ⟨xs, rfl, hx⟩ := h
  obtain ⟨ys, rfl, hy⟩ := h'
  exact ⟨xs ++ ys, List.append_assoc log xs ys, List.forall_mem_append.mpr ⟨hx, hy⟩⟩

theorem startedIn_eq (h : QuietlyExtends log later) : startedIn later = startedIn log := by
  obtain ⟨entries, rfl, hq⟩ := h
  have hnil : startedIn entries = [] := List.filterMap_eq_nil_iff.mpr fun e he => (hq e he).1
  rw [startedIn_append, hnil, List.append_nil]

theorem callsIn_eq (h : QuietlyExtends log later) : callsIn later = callsIn log := by
  obtain ⟨entries, rfl, hq⟩ := h
  have hnil : callsIn entries = [] := List.filterMap_eq_nil_iff.mpr fun e he => (hq e he).2
  rw [callsIn_append, hnil, List.append_nil]

end QuietlyExtends

namespace Run

variable {r : Run} {u : WorkUnit} {result : StepResult}

theorem quietlyExtends_warnings (r : Run) (ws : List Warning) :
    QuietlyExtends r.log (r.record (ws.map .warning)).log := by
  refine ⟨ws.map .warning, rfl, fun e he => ?_⟩
  obtain ⟨w, -, rfl⟩ := List.mem_map.mp he
  exact ⟨rfl, rfl⟩

theorem quietlyExtends_fail (r : Run) (u : WorkUnit) (state : StepState) (text : String) :
    QuietlyExtends r.log (r.fail u state text).log :=
  ⟨_, rfl, by simp [LogEntry.Quiet, LogEntry.started?, LogEntry.call?, completedEvent]⟩

theorem quietlyExtends_complete (r : Run) : QuietlyExtends r.log r.complete.log :=
  ⟨_, rfl, by simp [LogEntry.Quiet, LogEntry.started?, LogEntry.call?, completedEvent]⟩

/-! ## The three ways to take in a result -/

theorem finish_of_error {cause : StepError} (h : result.outcome = .error cause) :
    r.finish u result =
      ((r.record [.warning (.stepFailed u.id cause.message)]).fail u result.state cause.message,
        some (.step u.id r.steps.length cause)) := by
  simp only [finish, h]
  rfl

theorem finish_of_conflict {outputs : Outputs} {key : String} (h : result.outcome = .ok outputs)
    (hc : (r.context.merge outputs).conflict = some key) :
    r.finish u result =
      (({ r.record (((r.context.merge outputs).warnings u.id).map .warning) with
          context := r.context.after outputs } : Run).fail u result.state
            (RunError.duplicateBinding key u.id).message,
        some (.duplicateBinding key u.id)) := by
  simp only [finish, h, hc]
  rfl

/-- The run after a step whose outputs are merged. -/
def merged (r : Run) (u : WorkUnit) (state : StepState) (outputs : Outputs) : Run :=
  { r with
    context := r.context.after outputs
    steps := r.steps ++ [⟨u.id, state, (r.context.merge outputs).bound,
      (r.context.merge outputs).discarded⟩]
    log := r.log ++ ((r.context.merge outputs).warnings u.id).map .warning ++
      [.event (.stepSucceeded r.run u.id (.zero false) outputs.keys)] }

theorem finish_of_merged {outputs : Outputs} (h : result.outcome = .ok outputs)
    (hc : (r.context.merge outputs).conflict = none) :
    r.finish u result = (r.merged u result.state outputs, none) := by
  simp only [finish, h, hc]
  rfl

theorem finish_of_firstWins {outputs : Outputs}
    (hpolicy : r.context.policy = .firstWins) (hok : result.outcome = .ok outputs) :
    r.finish u result = (r.merged u result.state outputs, none) := by
  refine finish_of_merged hok ?_
  rw [Context.merge, hpolicy]
  exact Context.conflict_mergePairs_firstWins _ _

@[simp] theorem context_merged (r : Run) (u : WorkUnit) (state : StepState) (outputs : Outputs) :
    (r.merged u state outputs).context = r.context.after outputs := rfl

theorem quietlyExtends_merged (r : Run) (u : WorkUnit) (state : StepState) (outputs : Outputs) :
    QuietlyExtends r.log (r.merged u state outputs).log :=
  (quietlyExtends_warnings r _).trans
    ⟨_, rfl, by simp [LogEntry.Quiet, LogEntry.started?, LogEntry.call?]⟩

/-- Why a run ends at a step: the step failed, or a key of its outputs conflicts. -/
inductive Stops (u : WorkUnit) (result : StepResult) : RunError → Prop
  | step {cause : StepError} (completed : Nat) : result.outcome = .error cause →
      Stops u result (.step u.id completed cause)
  | conflict (key : String) : Stops u result (.duplicateBinding key u.id)

theorem finish_cases (r : Run) (u : WorkUnit) (result : StepResult) :
    (∃ later error, r.finish u result = (later, some error) ∧ QuietlyExtends r.log later.log ∧
      Stops u result error) ∨
    ∃ outputs, result.outcome = .ok outputs ∧ (r.context.merge outputs).conflict = none ∧
      r.finish u result = (r.merged u result.state outputs, none) := by
  cases h : result.outcome with
  | error cause =>
      refine Or.inl ⟨_, _, finish_of_error h, ?_, .step _ h⟩
      exact (quietlyExtends_warnings r [.stepFailed u.id cause.message]).trans
        (quietlyExtends_fail _ u _ _)
  | ok outputs =>
      cases hc : (r.context.merge outputs).conflict with
      | some key =>
          refine Or.inl ⟨_, _, finish_of_conflict h hc, ?_, .conflict key⟩
          exact (quietlyExtends_warnings r _).trans (quietlyExtends_fail _ u _ _)
      | none => exact Or.inr ⟨outputs, rfl, hc, finish_of_merged h hc⟩

theorem error_of_finish {later : Run} {error : RunError}
    (h : r.finish u result = (later, some error)) :
    (∃ cause, result.outcome = .error cause ∧ error = .step u.id r.steps.length cause) ∨
    ∃ outputs key, result.outcome = .ok outputs ∧
      (r.context.merge outputs).conflict = some key ∧ error = .duplicateBinding key u.id := by
  cases hout : result.outcome with
  | error cause =>
      rw [finish_of_error hout] at h
      cases h
      exact Or.inl ⟨cause, rfl, rfl⟩
  | ok outputs =>
      cases hc : (r.context.merge outputs).conflict with
      | none =>
          rw [finish_of_merged hout hc] at h
          cases h
      | some key =>
          rw [finish_of_conflict hout hc] at h
          cases h
          exact Or.inr ⟨outputs, key, rfl, hc, rfl⟩

theorem quietlyExtends_finish {later : Run} {error : Option RunError}
    (h : r.finish u result = (later, error)) : QuietlyExtends r.log later.log := by
  rcases finish_cases r u result with ⟨_, _, hf, hlog, -⟩ | ⟨outputs, -, -, hf⟩
  · rw [h] at hf
    cases hf
    exact hlog
  · rw [h] at hf
    cases hf
    exact quietlyExtends_merged r u _ outputs

/-! ## One round of the sequential loop -/

/-- The run once a unit has been handed its inputs. -/
def handed (r : Run) (u : WorkUnit) : Run := (r.started u).record [.call u.id (r.inputsFor u)]

@[simp] theorem context_handed (r : Run) (u : WorkUnit) : (r.handed u).context = r.context := rfl

theorem callsIn_handed (r : Run) (u : WorkUnit) :
    callsIn (r.handed u).log = callsIn r.log ++ [(u.id, r.inputsFor u)] := by
  simp only [handed, started, record, List.append_assoc, callsIn_append]
  rfl

theorem sequence_cons_of_crash {u : WorkUnit} {r : Run} {crash : Crash}
    (h : u.perform (r.inputsFor u) = .error crash) (rest : List WorkUnit) :
    sequence (u :: rest) r = ⟨(r.handed u).log, .crashed crash⟩ := by
  simp only [sequence, h]
  rfl

theorem sequence_cons_of_perform {u : WorkUnit} {r : Run} {result : StepResult}
    (h : u.perform (r.inputsFor u) = .ok result) (rest : List WorkUnit) :
    sequence (u :: rest) r =
      match (r.handed u).finish u result with
      | (next, some error) => ⟨next.log, .failed error⟩
      | (next, none) => sequence rest next := by
  simp only [sequence, h]
  rfl

/-- A round ends in a crash, stops the run, or goes on with the outputs merged. -/
theorem sequence_cons_cases (u : WorkUnit) (rest : List WorkUnit) (r : Run) :
    (∃ crash, sequence (u :: rest) r = ⟨(r.handed u).log, .crashed crash⟩) ∨
    (∃ result later error, u.perform (r.inputsFor u) = .ok result ∧ Stops u result error ∧
      QuietlyExtends (r.handed u).log later ∧ sequence (u :: rest) r = ⟨later, .failed error⟩) ∨
    ∃ result outputs, u.perform (r.inputsFor u) = .ok result ∧ result.outcome = .ok outputs ∧
      (r.context.merge outputs).conflict = none ∧
      sequence (u :: rest) r = sequence rest ((r.handed u).merged u result.state outputs) := by
  cases hp : u.perform (r.inputsFor u) with
  | error crash => exact Or.inl ⟨crash, sequence_cons_of_crash hp rest⟩
  | ok result =>
      rcases finish_cases (r.handed u) u result with
        ⟨later, error, hf, hlog, hstop⟩ | ⟨outputs, hok, hc, hf⟩
      · refine Or.inr (Or.inl ⟨result, later.log, error, rfl, hstop, hlog, ?_⟩)
        simp only [handed] at hf
        simp only [sequence, hp, hf]
      · refine Or.inr (Or.inr ⟨result, outputs, rfl, hok, hc, ?_⟩)
        simp only [handed] at hf
        simp only [sequence, hp, hf]
        rfl

/-! ## One level -/

/-- The run once all units of a level have been handed their inputs. -/
def handedLevel (r : Run) (units : List WorkUnit) : Run :=
  (units.foldl started r).record (units.map fun u => .call u.id (r.inputsFor u))

theorem performLevel_eq (r : Run) (units : List WorkUnit) :
    r.performLevel units =
      finishAll (units.map fun u => (u, u.performContained (r.inputsFor u)))
        (r.handedLevel units) := by
  simp only [performLevel, handedLevel, List.map_map]
  rfl

theorem foldl_started (units : List WorkUnit) (r : Run) :
    units.foldl started r =
      r.record (units.map fun u => .event (.stepStarted r.run u.id u.version)) := by
  induction units generalizing r with
  | nil => simp [record]
  | cons u rest ih =>
      rw [List.foldl_cons, ih]
      simp [started, record]

theorem handedLevel_eq (r : Run) (units : List WorkUnit) :
    r.handedLevel units =
      r.record ((units.map fun u => .event (.stepStarted r.run u.id u.version)) ++
        units.map fun u => .call u.id (r.inputsFor u)) := by
  rw [handedLevel, foldl_started]
  simp [record]

@[simp] theorem context_handedLevel (r : Run) (units : List WorkUnit) :
    (r.handedLevel units).context = r.context := by
  rw [handedLevel_eq]
  rfl

@[simp] theorem steps_handedLevel (r : Run) (units : List WorkUnit) :
    (r.handedLevel units).steps = r.steps := by
  rw [handedLevel_eq]
  rfl

theorem startedIn_handedLevel (r : Run) (units : List WorkUnit) :
    startedIn (r.handedLevel units).log = startedIn r.log ++ units.map WorkUnit.id := by
  simp [handedLevel, foldl_started, record, startedIn, List.filterMap_map, Function.comp_def,
    LogEntry.started?]

theorem callsIn_handedLevel (r : Run) (units : List WorkUnit) :
    callsIn (r.handedLevel units).log =
      callsIn r.log ++ units.map fun u => (u.id, r.inputsFor u) := by
  simp [handedLevel, foldl_started, record, callsIn, List.filterMap_map, Function.comp_def,
    LogEntry.call?]

/-- Taking in the results of a level is quiet.  It stops at one of the jobs, or it binds, besides
what was bound before, the outputs of every job. -/
theorem finishAll_cases (jobs : List (WorkUnit × StepResult)) (r : Run) :
    (∃ later error, finishAll jobs r = (later, some error) ∧ QuietlyExtends r.log later.log ∧
      ∃ job ∈ jobs, Stops job.1 job.2 error) ∨
    ∃ later, finishAll jobs r = (later, none) ∧ QuietlyExtends r.log later.log ∧
      (∀ key, r.context.contains key = true → later.context.contains key = true) ∧
      ∀ job ∈ jobs, ∃ outputs, job.2.outcome = .ok outputs ∧
        ∀ key, outputs.contains key = true → later.context.contains key = true := by
  induction jobs generalizing r with
  | nil => exact Or.inr ⟨r, rfl, ⟨[], by simp, by simp⟩, fun _ h => h, by simp⟩
  | cons job rest ih =>
      obtain ⟨u, result⟩ := job
      rcases finish_cases r u result with
        ⟨later, error, hf, hlog, hstop⟩ | ⟨outputs, hok, hc, hf⟩
      · exact Or.inl ⟨later, error, by simp only [finishAll, hf], hlog, (u, result),
          List.mem_cons_self, hstop⟩
      · have hlog := quietlyExtends_merged r u result.state outputs
        have hbound : ∀ key, (r.merged u result.state outputs).context.contains key =
            (r.context.contains key || outputs.contains key) :=
          Context.contains_after hc
        rcases ih (r.merged u result.state outputs) with
          ⟨later, error, hr, hlater, job, hjob, hstop⟩ | ⟨later, hr, hlater, hold, hjobs⟩
        · exact Or.inl ⟨later, error, by simp only [finishAll, hf, hr], hlog.trans hlater, job,
            List.mem_cons_of_mem _ hjob, hstop⟩
        · refine Or.inr ⟨later, by simp only [finishAll, hf, hr], hlog.trans hlater,
            fun key h => hold key (by rw [hbound, h, Bool.true_or]), ?_⟩
          refine List.forall_mem_cons.mpr ⟨⟨outputs, hok, fun key h => ?_⟩, hjobs⟩
          exact hold key (by rw [hbound, h, Bool.or_true])

theorem quietlyExtends_finishAll {jobs : List (WorkUnit × StepResult)} {later : Run}
    {error : Option RunError} (h : finishAll jobs r = (later, error)) :
    QuietlyExtends r.log later.log := by
  rcases finishAll_cases jobs r with ⟨_, _, hf, hlog, -⟩ | ⟨_, hf, hlog, -⟩
  · rw [h] at hf
    cases hf
    exact hlog
  · rw [h] at hf
    cases hf
    exact hlog

end Run

end Workplan
