/-
# `Workplan.Proofs.Run.Agreement` — the two loops agree where no level feeds itself

Performed level by level, a unit is handed what was bound before its level; performed one after the
other, also what the units before it in the level have returned.  And the units behind a failure are
performed in the one loop and never started in the other.  Neither shows, as long as no unit returns
an input of a later unit of its level that is not bound by then: `PeersSpared`.

The proof follows the two loops side by side.  `Alike` says that two runs stand at the same point;
`sequence_level` takes the sequential loop through the units of one level while the other one takes
in the results of the level, and `loops_agree` goes from level to level.
-/
import Workplan.Proofs.Run.Calls
import Workplan.Proofs.Step

namespace Workplan

/-! ## Endings that agree -/

/-- Two runs end alike: both complete with the same records and the same context, or both fail with
the same error.  Neither crashes. -/
inductive RunEnding.Agrees : RunEnding → RunEnding → Prop
  | completed {a b : RunReport} : a.target = b.target → a.planHash = b.planHash →
      a.steps = b.steps → a.context = b.context → Agrees (.completed a) (.completed b)
  | failed (error : RunError) : Agrees (.failed error) (.failed error)

/-! ## Levels that do not feed themselves -/

/-- On some inputs the work returns the key. -/
def WorkUnit.MayReturn (u : WorkUnit) (key : String) : Prop :=
  ∃ inputs outputs, u.execute inputs = .returned outputs ∧ outputs.contains key = true

/-- Whenever the work returns, it returns the key. -/
def WorkUnit.AlwaysReturns (u : WorkUnit) (key : String) : Prop :=
  ∀ inputs outputs, u.execute inputs = .returned outputs → outputs.contains key = true

/-- No unit may return an input of a later unit of its level, except for keys that are bound when
the level begins: at first, or by what the units of the levels before it always return. -/
def PeersSpared (bound : String → Prop) : List (List WorkUnit) → Prop
  | [] => True
  | level :: rest =>
    level.Pairwise (fun u v => ∀ key ∈ v.descriptor.inputs.keys, u.MayReturn key → bound key) ∧
      PeersSpared (fun key => bound key ∨ ∃ u ∈ level, u.AlwaysReturns key) rest

theorem PeersSpared.mono {levels : List (List WorkUnit)} {bound more : String → Prop}
    (hmore : ∀ key, bound key → more key) (h : PeersSpared bound levels) :
    PeersSpared more levels := by
  induction levels generalizing bound more with
  | nil => trivial
  | cons level rest ih =>
      exact ⟨h.1.imp fun hpair key hkey hreturn => hmore key (hpair key hkey hreturn),
        ih (fun key => Or.imp_left (hmore key)) h.2⟩

/-- It does to look at each level on its own, next to what the levels before it always return. -/
theorem PeersSpared.of_split {levels : List (List WorkUnit)} {bound : String → Prop}
    (h : ∀ before level after, levels = before ++ level :: after →
      level.Pairwise fun u v => ∀ key ∈ v.descriptor.inputs.keys, u.MayReturn key →
        bound key ∨ ∃ w ∈ before.flatten, w.AlwaysReturns key) : PeersSpared bound levels := by
  induction levels generalizing bound with
  | nil => trivial
  | cons level rest ih =>
      refine ⟨?_, ih fun before next after hrest => ?_⟩
      · simpa using h [] level rest rfl
      · refine (h (level :: before) next after (by rw [hrest]; rfl)).imp ?_
        intro u v hpair key hkey hreturn
        rcases hpair key hkey hreturn with hbound | ⟨w, hw, hreturns⟩
        · exact Or.inl (Or.inl hbound)
        · rw [List.flatten_cons, List.mem_append] at hw
          rcases hw with hw | hw
          · exact Or.inl (Or.inr ⟨w, hw, hreturns⟩)
          · exact Or.inr ⟨w, hw, hreturns⟩

namespace Run

/-! ## Runs at the same point -/

/-- The runs stand at the same point: they differ in their names and records at most. -/
structure Alike (r r' : Run) : Prop where
  target_eq : r.target = r'.target
  planHash_eq : r.planHash = r'.planHash
  context_eq : r.context = r'.context
  steps_eq : r.steps = r'.steps

namespace Alike

variable {r r' : Run}

theorem complete (h : r.Alike r') : r.complete.ending.Agrees r'.complete.ending :=
  .completed h.target_eq h.planHash_eq h.steps_eq h.context_eq

theorem merged (h : r.Alike r') (u : WorkUnit) (state : StepState) (outputs : Outputs) :
    (r.merged u state outputs).Alike (r'.merged u state outputs) where
  target_eq := h.target_eq
  planHash_eq := h.planHash_eq
  context_eq := congrArg (fun c => Context.after c outputs) h.context_eq
  steps_eq := by
    show r.steps ++ _ = r'.steps ++ _
    rw [h.steps_eq, h.context_eq]

theorem handed (h : r.Alike r') (u : WorkUnit) : r.Alike (r'.handed u) :=
  ⟨h.target_eq, h.planHash_eq, h.context_eq, h.steps_eq⟩

theorem handedLevel (h : r.Alike r') (units : List WorkUnit) :
    (r.handedLevel units).Alike r' := by
  rw [handedLevel_eq]
  exact ⟨h.target_eq, h.planHash_eq, h.context_eq, h.steps_eq⟩

/-- At the same point a result is taken in alike: it stops both runs with the same error, or both go
on with its outputs. -/
theorem finish_cases (h : r.Alike r') (u : WorkUnit) (result : StepResult) :
    (∃ later later' error, r.finish u result = (later, some error) ∧
      r'.finish u result = (later', some error)) ∨
    ∃ outputs, result.outcome = .ok outputs ∧ (r.context.merge outputs).conflict = none ∧
      r.finish u result = (r.merged u result.state outputs, none) ∧
      r'.finish u result = (r'.merged u result.state outputs, none) := by
  cases hout : result.outcome with
  | error cause =>
      have hfinish := finish_of_error (r := r') (u := u) hout
      rw [← h.steps_eq] at hfinish
      exact Or.inl ⟨_, _, _, finish_of_error hout, hfinish⟩
  | ok outputs =>
      cases hc : (r.context.merge outputs).conflict with
      | some key =>
          exact Or.inl ⟨_, _, _, finish_of_conflict hout hc,
            finish_of_conflict hout (h.context_eq ▸ hc)⟩
      | none =>
          exact Or.inr ⟨outputs, rfl, hc, finish_of_merged hout hc,
            finish_of_merged hout (h.context_eq ▸ hc)⟩

end Alike

theorem alike_begin (reg : Registry) (run run' : String) (p : OrderedPlan) (c : Context) :
    (begin reg run p c).Alike (begin reg run' p c) :=
  ⟨rfl, rfl, rfl, rfl⟩

/-! ## One level -/

/-- Outputs that offer a unit none of its inputs anew do not change what it is handed. -/
theorem inputsFor_merged {r : Run} {u : WorkUnit} {state : StepState} {outputs : Outputs}
    (hc : (r.context.merge outputs).conflict = none) {v : WorkUnit}
    (hkeys : ∀ key ∈ v.descriptor.inputs.keys, outputs.contains key = true →
      r.context.contains key = true) :
    (r.merged u state outputs).inputsFor v = r.inputsFor v :=
  Context.slice_after hc hkeys

/-- What a unit and its inputs look like in the list of calls. -/
def handouts (units : List WorkUnit) (inputs : WorkUnit → Inputs) : List (String × Inputs) :=
  units.map fun u => (u.id, inputs u)

/-- How the sequential loop fares with the units of a level, next to a run that takes in the results
of the level: it crashes, both stop with the same error, or both go on alike. -/
inductive LevelAgreement (inputs : WorkUnit → Inputs) (units rest : List WorkUnit) (r r' : Run) :
    Prop
  | crashed (crash : Crash) : (sequence (units ++ rest) r').ending = .crashed crash →
      LevelAgreement inputs units rest r r'
  | stopped {later later' : Run} {error : RunError} (performed others : List WorkUnit) :
      finishAll (units.map fun u => (u, u.performContained (inputs u))) r = (later, some error) →
      sequence (units ++ rest) r' = ⟨later'.log, .failed error⟩ →
      units = performed ++ others →
      callsIn later'.log = callsIn r'.log ++ handouts performed inputs →
      LevelAgreement inputs units rest r r'
  | wentOn {next next' : Run} :
      finishAll (units.map fun u => (u, u.performContained (inputs u))) r = (next, none) →
      sequence (units ++ rest) r' = sequence rest next' → next.Alike next' →
      callsIn next'.log = callsIn r'.log ++ handouts units inputs →
      LevelAgreement inputs units rest r r'

namespace LevelAgreement

variable {inputs : WorkUnit → Inputs} {u : WorkUnit} {others rest : List WorkUnit}
  {r r' next next' : Run} {result : StepResult}

theorem of_stop {error : RunError} (hp : u.perform (inputs u) = .ok result)
    (hu : r'.inputsFor u = inputs u) (hf : r.finish u result = (next, some error))
    (hf' : (r'.handed u).finish u result = (next', some error)) :
    LevelAgreement inputs (u :: others) rest r r' := by
  have hround := sequence_cons_of_perform (hu ▸ hp) (others ++ rest)
  rw [hf'] at hround
  have hstop : finishAll ((u :: others).map fun u => (u, u.performContained (inputs u))) r =
      (next, some error) := by
    simp only [List.map_cons, WorkUnit.performContained_of_perform hp, finishAll, hf]
  refine .stopped [u] others hstop hround rfl ?_
  · rw [(quietlyExtends_finish hf').callsIn_eq, callsIn_handed, hu]
    rfl

theorem cons (hp : u.perform (inputs u) = .ok result) (hu : r'.inputsFor u = inputs u)
    (hf : r.finish u result = (next, none))
    (hf' : (r'.handed u).finish u result = (next', none))
    (h : LevelAgreement inputs others rest next next') :
    LevelAgreement inputs (u :: others) rest r r' := by
  have hround := sequence_cons_of_perform (hu ▸ hp) (others ++ rest)
  rw [hf'] at hround
  have hgo : finishAll ((u :: others).map fun u => (u, u.performContained (inputs u))) r =
      finishAll (others.map fun u => (u, u.performContained (inputs u))) next := by
    simp only [List.map_cons, WorkUnit.performContained_of_perform hp, finishAll, hf]
  have hcalls : callsIn next'.log = callsIn r'.log ++ [(u.id, inputs u)] := by
    rw [(quietlyExtends_finish hf').callsIn_eq, callsIn_handed, hu]
  cases h with
  | crashed crash hs => exact .crashed crash (hround ▸ hs)
  | stopped performed others' hfinish hs hsplit hlog =>
      refine .stopped (u :: performed) others' (hgo.trans hfinish) (hround.trans hs)
        (congrArg (u :: ·) hsplit) ?_
      rw [hlog, hcalls, List.append_assoc]
      rfl
  | wentOn hfinish hs halike hlog =>
      refine .wentOn (hgo.trans hfinish) (hround.trans hs) halike ?_
      rw [hlog, hcalls, List.append_assoc]
      rfl

end LevelAgreement

/-- The sequential loop fares with the units of a level as a run that takes in their results does,
provided that it hands each of them the same inputs, now and after the units before it. -/
theorem sequence_level (inputs : WorkUnit → Inputs) {units : List WorkUnit}
    (rest : List WorkUnit) {r r' : Run} (h : r.Alike r')
    (hinputs : ∀ v ∈ units, r'.inputsFor v = inputs v)
    (hspared : units.Pairwise fun u v => ∀ key ∈ v.descriptor.inputs.keys, u.MayReturn key →
      r.context.contains key = true) :
    LevelAgreement inputs units rest r r' := by
  induction units generalizing r r' with
  | nil => exact .wentOn rfl rfl h (by simp [handouts])
  | cons u others ih =>
      obtain ⟨hu, hothers⟩ := List.forall_mem_cons.mp hinputs
      obtain ⟨hreads, hspared⟩ := List.pairwise_cons.mp hspared
      cases hp : u.perform (inputs u) with
      | error crash =>
          refine .crashed crash ?_
          simp only [List.cons_append, sequence, hu, hp]
      | ok result =>
          rcases (h.handed u).finish_cases u result with
            ⟨later, later', error, hf, hf'⟩ | ⟨outputs, hok, hc, hf, hf'⟩
          · exact .of_stop hp hu hf hf'
          · refine .cons hp hu hf hf' (ih ((h.handed u).merged u _ outputs) (fun v hv => ?_) ?_)
            · -- what `u` returned is no input of the units behind it, or was bound already
              rw [← hothers v hv]
              refine inputsFor_merged (h.context_eq ▸ hc) fun key hkey hout => ?_
              rw [context_handed, ← h.context_eq]
              exact hreads v hv key hkey
                ⟨inputs u, outputs, WorkUnit.execute_of_perform hp hok, hout⟩
            · refine hspared.imp fun hpair key hkey hreturn => ?_
              rw [context_merged, Context.contains_after hc, hpair key hkey hreturn, Bool.true_or]

/-! ## All levels -/

/-- How a run over levels and a sequential run compare: the sequential one crashes, or both end
alike.  In the latter case the sequential one hands out nothing that the other one does not, and
where it completes nothing less either. -/
def LoopsAgree (parallel sequential : RunOutcome) : Prop :=
  (∃ crash, sequential.ending = .crashed crash) ∨
    parallel.ending.Agrees sequential.ending ∧ sequential.calls <+: parallel.calls ∧
      ((∃ report, sequential.ending = .completed report) → sequential.calls = parallel.calls)

theorem loops_agree {levels : List (List WorkUnit)} {r r' : Run} (h : r.Alike r')
    (hcalls : callsIn r.log = callsIn r'.log)
    (hspared : PeersSpared (fun key => r.context.contains key = true) levels) :
    LoopsAgree (levelByLevel levels r) (sequence levels.flatten r') := by
  induction levels generalizing r r' with
  | nil =>
      have hsame : r'.complete.calls = r.complete.calls := by
        rw [RunOutcome.calls, r'.quietlyExtends_complete.callsIn_eq, ← hcalls,
          ← r.quietlyExtends_complete.callsIn_eq, RunOutcome.calls]
      exact Or.inr ⟨h.complete, hsame ▸ List.prefix_refl _, fun _ => hsame⟩
  | cons level rest ih =>
      obtain ⟨hlevel, hrest⟩ := hspared
      have hhanded : callsIn (r.handedLevel level).log =
          callsIn r'.log ++ handouts level r.inputsFor := by
        rw [callsIn_handedLevel, hcalls]
        rfl
      have hagree : LevelAgreement r.inputsFor level rest.flatten (r.handedLevel level) r' := by
        refine sequence_level r.inputsFor rest.flatten (h.handedLevel level) (fun v _ => ?_) ?_
        · rw [inputsFor, inputsFor, h.context_eq]
        · simpa using hlevel
      rw [List.flatten_cons]
      cases hagree with
      | crashed crash hs => exact Or.inl ⟨crash, hs⟩
      | @stopped later later' error performed others hfinish hs hsplit hlog =>
          have hlater := (quietlyExtends_finishAll hfinish).callsIn_eq
          rw [levelByLevel, performLevel_eq, hfinish, hs]
          refine Or.inr ⟨.failed error, ?_, by rintro ⟨report, ⟨⟩⟩⟩
          show callsIn later'.log <+: callsIn later.log
          rw [hlater, hhanded, hlog, hsplit, handouts, handouts, List.map_append,
            ← List.append_assoc]
          exact List.prefix_append _ _
      | @wentOn next next' hfinish hs halike hlog =>
          have hnext := (quietlyExtends_finishAll hfinish).callsIn_eq
          rw [levelByLevel, performLevel_eq, hfinish, hs]
          refine ih halike (by rw [hnext, hhanded, hlog]) (hrest.mono fun key hkey => ?_)
          rcases finishAll_cases (level.map fun u => (u, u.performContained (r.inputsFor u)))
              (r.handedLevel level) with
            ⟨_, _, hf, -⟩ | ⟨_, hf, -, hold, hjobs⟩
          · rw [hfinish] at hf
            cases hf
          · rw [hfinish] at hf
            cases hf
            rcases hkey with hkey | ⟨u, hu, hreturns⟩
            · exact hold key (by rw [context_handedLevel, hkey])
            · obtain ⟨outputs, hok, hbinds⟩ := hjobs _ (List.mem_map_of_mem hu)
              exact hbinds key (hreturns _ _ (WorkUnit.execute_of_performContained hok))

end Run

end Workplan
