/-
# `Workplan.Proofs.Run.Containment` — crashes that a run contains, and the one that it does not

Three pieces of a unit's code run in a step: the verifiers of its inputs, its own check and its
work.  Each of them may crash.  A run contains a crash if it goes on as if the code had failed in
the ordinary way, with the note about the crash for its text.  `WorkUnit.contained` is the unit
whose code does fail so, and a run cannot tell the two apart: not level by level, and one after the
other neither, unless a unit crashes on its own check.  That crash ends the sequential run without a
report or an error.

What a failure comes to is the same for all of them.  A unit that was handed inputs and fails on
them is the one that the error of the run names; level by level a unit ahead of it may have stopped
the run before.
-/
import Mathlib
import Workplan.Proofs.Run.Events

namespace Workplan

/-! ## Crashes of a step -/

/-- Where code of a unit runs in a step. -/
inductive CrashSite where
  | verifier (key name : String)
  | check
  | work
deriving DecidableEq

/-- How a step reports a crash that it contains. -/
def CrashSite.cause (unit : String) (crash : Crash) : CrashSite → StepError
  | .verifier key name => .invalid unit (.verificationFailed key name (some crash.note))
  | .check | .work => .unitExecution unit [crash.note]

/-- On these inputs the step gets to some code of the unit, and the code crashes. -/
inductive WorkUnit.CrashesAt (u : WorkUnit) (inputs : Inputs) : CrashSite → Crash → Prop
  | verifier {before after : List (String × Property)} {key : String} {property : Property}
      {value : Value} {accepting others : List Verifier} {v : Verifier} {crash : Crash} :
      u.descriptor.missingInput? inputs = none →
      (∀ e ∈ u.descriptor.inputs.entries, Descriptor.typeViolation? inputs e.1 e.2 = none) →
      u.descriptor.inputs.entries = before ++ (key, property) :: after →
      (∀ e ∈ before, Descriptor.verifierViolation? inputs e.1 e.2 = none) →
      inputs.get? key = some value → property.verifiers = accepting ++ v :: others →
      (∀ w ∈ accepting, w.judge key value inputs = .accepted) →
      v.judge key value inputs = .crashed crash →
      CrashesAt u inputs (.verifier key v.name) crash
  | check {crash : Crash} : u.descriptor.violation? inputs = none →
      u.check inputs = .crashed crash → CrashesAt u inputs .check crash
  | work {crash : Crash} : u.descriptor.violation? inputs = none → u.check inputs = .accepted →
      u.execute inputs = .crashed crash → CrashesAt u inputs .work crash

namespace WorkUnit

variable {u : WorkUnit} {inputs : Inputs} {site : CrashSite} {crash : Crash}

theorem CrashesAt.violation?_eq {key name : String}
    (h : u.CrashesAt inputs (.verifier key name) crash) :
    u.descriptor.violation? inputs = some (.verificationFailed key name (some crash.note)) := by
  cases h with
  | @verifier before after _ property value accepting others v _ hmissing htypes hentries hbefore
      hvalue hverifiers haccept hcrash =>
      have htype : (u.descriptor.inputs.entries.findSome? fun e =>
          Descriptor.typeViolation? inputs e.1 e.2) = none := List.findSome?_eq_none_iff.mpr htypes
      have hfront : (before.findSome? fun e => Descriptor.verifierViolation? inputs e.1 e.2) =
          none := List.findSome?_eq_none_iff.mpr hbefore
      have haccepted : (accepting.findSome? fun w =>
          Descriptor.verdictViolation? key w.name (w.judge key value inputs)) = none := by
        refine List.findSome?_eq_none_iff.mpr fun w hw => ?_
        rw [haccept w hw]
        rfl
      have hproperty : Descriptor.verifierViolation? inputs key property =
          some (.verificationFailed key v.name (some crash.note)) := by
        simp only [Descriptor.verifierViolation?, hvalue, hverifiers, List.findSome?_append,
          haccepted, List.findSome?_cons, hcrash, Option.none_or]
        rfl
      simp only [Descriptor.violation?, hmissing, htype, Option.none_or]
      rw [hentries, List.findSome?_append, hfront, Option.none_or, List.findSome?_cons, hproperty]

/-- A crash anywhere but in the unit's own check is a failure of the step. -/
theorem CrashesAt.exists_result (h : u.CrashesAt inputs site crash) (hsite : site ≠ .check) :
    ∃ result, u.perform inputs = .ok result ∧
      result.outcome = .error (site.cause u.id crash) := by
  cases site with
  | verifier key name =>
      refine ⟨⟨refusedPath,
        .error (.invalid u.id (.verificationFailed key name (some crash.note)))⟩, ?_, rfl⟩
      simp only [perform, h.violation?_eq]
  | check => exact absurd rfl hsite
  | work =>
      cases h with
      | work hv hcheck hexec =>
          refine ⟨u.executeStep inputs, by simp only [perform, hv, hcheck], ?_⟩
          simp only [executeStep, hexec]
          rfl

theorem perform_eq_error_iff :
    u.perform inputs = .error crash ↔ u.CrashesAt inputs .check crash := by
  constructor
  · intro h
    unfold perform at h
    split at h
    · cases h
    · rename_i hv
      split at h
      · rename_i crash' hcheck
        cases h
        exact .check hv hcheck
      · cases h
      · cases h
  · rintro (_ | ⟨hv, hcheck⟩)
    simp only [perform, hv, hcheck]

/-- With its own check contained as well, every crash of a unit is a failure of the step. -/
theorem CrashesAt.outcome_eq (h : u.CrashesAt inputs site crash) :
    (u.performContained inputs).outcome = .error (site.cause u.id crash) := by
  by_cases hsite : site = .check
  · subst hsite
    simp only [performContained, perform_eq_error_iff.mpr h]
    rfl
  · obtain ⟨result, hp, hout⟩ := h.exists_result hsite
    rw [performContained_of_perform hp, hout]

end WorkUnit

/-! ## Code that fails where other code crashes -/

def Verdict.contained : Verdict → Verdict
  | .crashed crash => .failed crash.note
  | verdict => verdict

def Execution.contained : Execution → Execution
  | .crashed crash => .failed [crash.note]
  | execution => execution

def Verifier.contained (v : Verifier) : Verifier :=
  { v with judge := fun key value inputs => (v.judge key value inputs).contained }

def Property.contained (p : Property) : Property :=
  { p with verifiers := p.verifiers.map Verifier.contained }

def Descriptor.contained (d : Descriptor) : Descriptor :=
  { d with inputs := d.inputs.map Property.contained }

/-- The unit whose code fails with the note about the crash where that of `u` crashes.  A crash of
the check is left to the work, which fails instead of being done. -/
def WorkUnit.contained (u : WorkUnit) : WorkUnit where
  descriptor := u.descriptor.contained
  check inputs :=
    match u.check inputs with
    | .crashed _ => .accepted
    | verdict => verdict
  execute inputs :=
    match u.check inputs with
    | .crashed crash => .failed [crash.note]
    | _ => (u.execute inputs).contained

def Registry.contained (reg : Registry) : Registry where
  units := reg.units.map WorkUnit.contained
  keyed := by
    intro e he
    obtain ⟨e', he', rfl⟩ := List.mem_map.mp he
    exact reg.keyed e' he'
  named := by
    intro e he
    obtain ⟨e', he', rfl⟩ := List.mem_map.mp he
    exact reg.named e' he'

theorem Verdict.contained_ne_crashed (v : Verdict) (crash : Crash) :
    v.contained ≠ .crashed crash := by
  cases v <;> exact nofun

theorem Execution.contained_ne_crashed (e : Execution) (crash : Crash) :
    e.contained ≠ .crashed crash := by
  cases e <;> exact nofun

namespace Descriptor

variable {inputs : Inputs}

theorem verifierViolation?_contained (key : String) (p : Property) :
    verifierViolation? inputs key p.contained = verifierViolation? inputs key p := by
  have hverdict : ∀ name v, verdictViolation? key name (Verdict.contained v) =
      verdictViolation? key name v := by
    intro name v
    cases v <;> rfl
  unfold verifierViolation?
  cases inputs.get? key with
  | none => rfl
  | some value =>
      simp only [Property.contained, List.findSome?_map, Function.comp_def, Verifier.contained,
        hverdict]

theorem requiredKeys_contained (d : Descriptor) : d.contained.requiredKeys = d.requiredKeys := by
  simp only [requiredKeys, contained, Table.map, List.filter_map, List.map_map]
  rfl

theorem violation?_contained (d : Descriptor) (inputs : Inputs) :
    d.contained.violation? inputs = d.violation? inputs := by
  simp only [violation?, missingInput?, requiredKeys_contained]
  simp only [contained, Table.map, List.findSome?_map, Function.comp_def,
    verifierViolation?_contained]
  rfl

end Descriptor

namespace WorkUnit

variable {u : WorkUnit} {inputs : Inputs}

theorem contained_checksSafely (u : WorkUnit) : u.contained.ChecksSafely := by
  intro inputs crash h
  simp only [contained] at h
  cases hcheck : u.check inputs with
  | crashed crash' => simp [hcheck] at h
  | rejected reason => simp [hcheck] at h
  | accepted => simp [hcheck] at h

theorem not_crashesAt_contained {site : CrashSite} {crash : Crash} :
    ¬ u.contained.CrashesAt inputs site crash := by
  rintro (@⟨before, after, key, property, value, accepting, others, v, crash, -, -, hentries, -, -,
    hverifiers, -, hcrash⟩ | ⟨-, hcheck⟩ | ⟨-, -, hexec⟩)
  · have hmem : (key, property) ∈ u.descriptor.contained.inputs.entries := by
      show (key, property) ∈ u.contained.descriptor.inputs.entries
      simp [hentries]
    obtain ⟨e, -, he⟩ := List.mem_map.mp hmem
    cases he
    have hv : v ∈ (Property.contained e.2).verifiers := by simp [hverifiers]
    obtain ⟨v, -, rfl⟩ := List.mem_map.mp hv
    exact Verdict.contained_ne_crashed _ _ hcrash
  · exact u.contained_checksSafely inputs _ hcheck
  · simp only [contained] at hexec
    split at hexec
    · cases hexec
    · exact Execution.contained_ne_crashed _ _ hexec

theorem performContained_contained (u : WorkUnit) (inputs : Inputs) :
    (u.contained.performContained inputs).outcome = (u.performContained inputs).outcome ∧
      (u.contained.performContained inputs).state = (u.performContained inputs).state := by
  have hv : u.contained.descriptor.violation? inputs = u.descriptor.violation? inputs :=
    u.descriptor.violation?_contained inputs
  unfold performContained perform
  rw [hv]
  cases u.descriptor.violation? inputs with
  | some v => exact ⟨rfl, rfl⟩
  | none =>
      cases hcheck : u.check inputs with
      | crashed crash =>
          simp only [contained, hcheck, executeStep]
          exact ⟨rfl, rfl⟩
      | rejected reason =>
          simp only [contained, hcheck]
          exact ⟨rfl, rfl⟩
      | accepted =>
          simp only [contained, hcheck, executeStep]
          cases u.execute inputs <;> exact ⟨rfl, rfl⟩

end WorkUnit

/-! ## Runs of contained code -/

namespace Run

theorem inputsFor_contained (r : Run) (u : WorkUnit) : r.inputsFor u.contained = r.inputsFor u := by
  have hkeys : u.contained.descriptor.inputs.keys = u.descriptor.inputs.keys := by
    simp only [WorkUnit.contained, Descriptor.contained, Table.keys, Table.map, List.map_map]
    rfl
  rw [inputsFor, inputsFor, Context.slice, Context.slice, hkeys]

theorem handedLevel_contained (r : Run) (units : List WorkUnit) :
    r.handedLevel (units.map WorkUnit.contained) = r.handedLevel units := by
  simp only [handedLevel_eq, List.map_map, Function.comp_def, inputsFor_contained]
  rfl

theorem finish_contained (r : Run) (u : WorkUnit) (inputs : Inputs) :
    r.finish u.contained (u.contained.performContained inputs) =
      r.finish u (u.performContained inputs) := by
  obtain ⟨hout, hstate⟩ := u.performContained_contained inputs
  have hid : u.contained.id = u.id := rfl
  simp only [finish, fail, hout, hstate, hid]

theorem finishAll_contained (inputs : WorkUnit → Inputs) (units : List WorkUnit) (r : Run) :
    finishAll (units.map fun u => (u.contained, u.contained.performContained (inputs u))) r =
      finishAll (units.map fun u => (u, u.performContained (inputs u))) r := by
  induction units generalizing r with
  | nil => rfl
  | cons u rest ih =>
      simp only [List.map_cons, finishAll, finish_contained, ih]

theorem levelByLevel_contained (levels : List (List WorkUnit)) (r : Run) :
    levelByLevel (levels.map (List.map WorkUnit.contained)) r = levelByLevel levels r := by
  have hlevel : ∀ (units : List WorkUnit) (r : Run),
      r.performLevel (units.map WorkUnit.contained) = r.performLevel units := by
    intro units r
    rw [performLevel_eq, performLevel_eq, handedLevel_contained, List.map_map,
      ← finishAll_contained]
    simp only [Function.comp_def, inputsFor_contained]
  induction levels generalizing r with
  | nil => rfl
  | cons level rest ih =>
      simp only [List.map_cons, levelByLevel, hlevel, ih]

/-- The sequential loop can tell contained code only where a check crashes. -/
theorem sequence_contained {units : List WorkUnit} {r : Run}
    (h : ∀ crash, (sequence units r).ending ≠ .crashed crash) :
    sequence (units.map WorkUnit.contained) r = sequence units r := by
  have hsafe : ∀ u ∈ units.map WorkUnit.contained, u.ChecksSafely := by
    intro u hu
    obtain ⟨u, -, rfl⟩ := List.mem_map.mp hu
    exact u.contained_checksSafely
  rcases sequence_cases units r with ⟨-, -, -, crash, -, -, hcrash⟩ | hs
  · exact absurd hcrash (h crash)
  · have hlevels : (units.map WorkUnit.contained).map (fun u => [u]) =
        (units.map fun u => [u]).map (List.map WorkUnit.contained) := by
      rw [List.map_map, List.map_map]
      rfl
    rw [sequence_eq_levelByLevel hsafe, hlevels, levelByLevel_contained, hs]

end Run

namespace Registry

variable (reg : Registry)

theorem get?_contained (id : String) :
    reg.contained.get? id = (reg.get? id).map WorkUnit.contained := by
  suffices hfind : ∀ es : List (String × WorkUnit),
      Table.findEntry id (es.map fun e => (e.1, e.2.contained)) =
        (Table.findEntry id es).map WorkUnit.contained from
    hfind reg.units.entries
  intro es
  induction es with
  | nil => rfl
  | cons e rest ih =>
      simp only [List.map_cons, Table.findEntry, ih]
      split <;> rfl

theorem resolveSteps_contained (ids : List String) :
    reg.contained.resolveSteps ids = (reg.resolveSteps ids).map (List.map WorkUnit.contained) := by
  induction ids with
  | nil => rfl
  | cons id rest ih =>
      simp only [resolveSteps, get?_contained, ih]
      cases reg.get? id with
      | none => rfl
      | some u => cases reg.resolveSteps rest <;> rfl

theorem levelUnits_contained (units : List WorkUnit) (level : List String) :
    levelUnits (units.map WorkUnit.contained) level =
      (levelUnits units level).map WorkUnit.contained := by
  rw [levelUnits, levelUnits, List.map_filterMap]
  refine List.filterMap_congr fun id _ => ?_
  rw [List.find?_map]
  rfl

theorem begin_contained (run : String) (p : OrderedPlan) (c : Context) :
    Run.begin reg.contained run p c = Run.begin reg run p c := by
  have hversion : ∀ id, reg.contained.versionOf id = reg.versionOf id := by
    intro id
    simp only [versionOf, get?_contained]
    cases reg.get? id <;> rfl
  simp only [Run.begin, fingerprint, hversion]

theorem runPlanParallel_contained (run : String) (p : OrderedPlan) (c : Context) :
    reg.contained.runPlanParallel run p c = reg.runPlanParallel run p c := by
  rw [runPlanParallel, runPlanParallel, resolveSteps_contained, begin_contained]
  cases reg.resolveSteps p.steps with
  | error error => rfl
  | ok units =>
      have hlevels : p.levels.map (levelUnits (units.map WorkUnit.contained)) =
          (p.levels.map (levelUnits units)).map (List.map WorkUnit.contained) := by
        rw [List.map_map]
        exact List.map_congr_left fun level _ => levelUnits_contained units level
      show Run.levelByLevel (p.levels.map (levelUnits (units.map WorkUnit.contained))) _ = _
      rw [hlevels, Run.levelByLevel_contained]

theorem runPlan_contained {run : String} {p : OrderedPlan} {c : Context}
    (h : ∀ crash, (reg.runPlan run p c).ending ≠ .crashed crash) :
    reg.contained.runPlan run p c = reg.runPlan run p c := by
  rw [runPlan] at h ⊢
  rw [runPlan, resolveSteps_contained, begin_contained]
  cases hunits : reg.resolveSteps p.steps with
  | error error => rfl
  | ok units =>
      rw [hunits] at h
      exact Run.sequence_contained h

end Registry

/-! ## What a failure of a unit comes to -/

namespace Run

variable {r later : Run} {u : WorkUnit} {result : StepResult} {cause : StepError}

theorem finishAll_of_error {jobs : List (WorkUnit × StepResult)} {job : WorkUnit × StepResult}
    (hjob : job ∈ jobs) (hcause : job.2.outcome = .error cause) (r : Run) :
    ∃ later error, finishAll jobs r = (later, some error) ∧
      ((∃ n, error = .step job.1.id n cause) ∨
        ∃ other n, error.At other.id n ∧ [other, job.1].Sublist (jobs.map Prod.fst)) := by
  induction jobs generalizing r with
  | nil => cases hjob
  | cons head rest ih =>
      obtain ⟨u, result⟩ := head
      cases hf : r.finish u result with
      | mk next error =>
          simp only [finishAll, hf]
          cases error with
          | some error =>
              refine ⟨next, error, rfl, ?_⟩
              rcases List.mem_cons.mp hjob with rfl | hjob
              · rw [finish_of_error hcause] at hf
                cases hf
                exact Or.inl ⟨_, rfl⟩
              · refine Or.inr ⟨u, _, (eventsIn_finish hf).1, ?_⟩
                exact (List.singleton_sublist.mpr (List.mem_map_of_mem hjob)).cons_cons u
          | none =>
              rcases List.mem_cons.mp hjob with rfl | hjob
              · rw [finish_of_error hcause] at hf
                cases hf
              · obtain ⟨later, error, hrest, hend⟩ := ih hjob next
                refine ⟨later, error, hrest, hend.imp_right ?_⟩
                rintro ⟨other, n, hat, hahead⟩
                exact ⟨other, n, hat, hahead.cons u⟩

/-- A unit that fails on what a level is handed stops the run, unless one ahead of it does so
before. -/
theorem performLevel_of_error {level : List WorkUnit} (hu : u ∈ level)
    (hcause : (u.performContained (r.inputsFor u)).outcome = .error cause) :
    ∃ later error, r.performLevel level = (later, some error) ∧
      ((∃ n, error = .step u.id n cause) ∨
        ∃ other n, error.At other.id n ∧ [other, u].Sublist level) := by
  have hunits : (level.map fun u => (u, u.performContained (r.inputsFor u))).map Prod.fst =
      level := by
    rw [List.map_map]
    exact List.map_id level
  have hjob : (u, u.performContained (r.inputsFor u)) ∈
      level.map fun u => (u, u.performContained (r.inputsFor u)) := List.mem_map_of_mem hu
  have hstop := finishAll_of_error hjob hcause (r.handedLevel level)
  rwa [hunits, ← performLevel_eq] at hstop

theorem callsIn_performLevel {level : List WorkUnit} {error : Option RunError}
    (h : r.performLevel level = (later, error)) :
    callsIn later.log = callsIn r.log ++ level.map fun u => (u.id, r.inputsFor u) := by
  rw [performLevel_eq] at h
  rw [(quietlyExtends_finishAll h).callsIn_eq, callsIn_handedLevel]

theorem levelByLevel_of_error {levels : List (List WorkUnit)} {r : Run} {id : String}
    {inputs : Inputs} (hcall : (id, inputs) ∈ (levelByLevel levels r).calls) :
    (id, inputs) ∈ callsIn r.log ∨ ∃ u ∈ levels.flatten, u.id = id ∧
      ∀ cause, (u.performContained inputs).outcome = .error cause →
        ∃ error, (levelByLevel levels r).ending = .failed error ∧
          ((∃ n, error = .step id n cause) ∨ ∃ other n, error.At other.id n ∧
            ∃ level ∈ levels, [other, u].Sublist level) := by
  induction levels generalizing r with
  | nil =>
      rw [levelByLevel, RunOutcome.calls, r.quietlyExtends_complete.callsIn_eq] at hcall
      exact Or.inl hcall
  | cons level rest ih =>
      rw [levelByLevel] at hcall ⊢
      cases hf : r.performLevel level with
      | mk next error =>
          have hcalls := callsIn_performLevel hf
          simp only [hf] at hcall ⊢
          cases error with
          | some error =>
              simp only [RunOutcome.calls, hcalls] at hcall
              refine (List.mem_append.mp hcall).imp_right fun hcall => ?_
              obtain ⟨u, hu, hhandout⟩ := List.mem_map.mp hcall
              cases hhandout
              refine ⟨u, List.mem_append_left _ hu, rfl, fun cause hcause => ?_⟩
              obtain ⟨later, error', hf', hend⟩ := performLevel_of_error hu hcause
              rw [hf] at hf'
              cases hf'
              refine ⟨error, rfl, hend.imp_right ?_⟩
              rintro ⟨other, n, hat, hahead⟩
              exact ⟨other, n, hat, level, List.mem_cons_self, hahead⟩
          | none =>
              rcases ih hcall with hcall | ⟨u, hu, hid, hend⟩
              · rw [hcalls] at hcall
                refine (List.mem_append.mp hcall).imp_right fun hcall => ?_
                obtain ⟨u, hu, hhandout⟩ := List.mem_map.mp hcall
                cases hhandout
                refine ⟨u, List.mem_append_left _ hu, rfl, fun cause hcause => ?_⟩
                -- the level would have stopped the run
                obtain ⟨later, error', hf', -⟩ := performLevel_of_error hu hcause
                rw [hf] at hf'
                cases hf'
              · refine Or.inr ⟨u, List.mem_append_right _ hu, hid, fun cause hcause => ?_⟩
                obtain ⟨error, hending, hend⟩ := hend cause hcause
                refine ⟨error, hending, hend.imp_right ?_⟩
                rintro ⟨other, n, hat, level', hlevel', hahead⟩
                exact ⟨other, n, hat, level', List.mem_cons_of_mem _ hlevel', hahead⟩

/-- If the unit crashes or fails on these inputs, the run ends so. -/
def EndsOn (u : WorkUnit) (inputs : Inputs) (ending : RunEnding) : Prop :=
  (∀ crash, u.perform inputs = .error crash → ending = .crashed crash) ∧
  ∀ result cause, u.perform inputs = .ok result → result.outcome = .error cause →
    ∃ n, ending = .failed (.step u.id n cause)

theorem sequence_round (u : WorkUnit) (rest : List WorkUnit) (r : Run) :
    EndsOn u (r.inputsFor u) (sequence (u :: rest) r).ending ∧
    ((sequence (u :: rest) r).calls = callsIn r.log ++ [(u.id, r.inputsFor u)] ∨
      ∃ next, callsIn next.log = callsIn r.log ++ [(u.id, r.inputsFor u)] ∧
        sequence (u :: rest) r = sequence rest next) := by
  have hhanded := callsIn_handed r u
  cases hp : u.perform (r.inputsFor u) with
  | error crash =>
      rw [sequence_cons_of_crash hp]
      refine ⟨⟨fun crash' hcrash => ?_, fun result cause hresult => ?_⟩, Or.inl hhanded⟩
      · rw [hp] at hcrash
        cases hcrash
        rfl
      · rw [hp] at hresult
        cases hresult
  | ok result =>
      have hround := sequence_cons_of_perform hp rest
      refine ⟨⟨fun crash hcrash => ?_, fun result' cause hresult hcause => ?_⟩, ?_⟩
      · rw [hp] at hcrash
        cases hcrash
      · rw [hp] at hresult
        cases hresult
        rw [hround, finish_of_error hcause]
        exact ⟨_, rfl⟩
      · cases hf : (r.handed u).finish u result with
        | mk next error =>
            have hcalls := (quietlyExtends_finish hf).callsIn_eq.trans hhanded
            rw [hf] at hround
            cases error with
            | some error => exact Or.inl (hround ▸ hcalls)
            | none => exact Or.inr ⟨next, hcalls, hround⟩

theorem sequence_of_error {units : List WorkUnit} {r : Run} {id : String} {inputs : Inputs}
    (hcall : (id, inputs) ∈ (sequence units r).calls) :
    (id, inputs) ∈ callsIn r.log ∨ ∃ u ∈ units, u.id = id ∧
      EndsOn u inputs (sequence units r).ending := by
  induction units generalizing r with
  | nil =>
      rw [sequence, RunOutcome.calls, r.quietlyExtends_complete.callsIn_eq] at hcall
      exact Or.inl hcall
  | cons u rest ih =>
      obtain ⟨hends, hround⟩ := sequence_round u rest r
      have hfirst : (id, inputs) ∈ callsIn r.log ++ [(u.id, r.inputsFor u)] →
          (id, inputs) ∈ callsIn r.log ∨ ∃ v ∈ u :: rest, v.id = id ∧
            EndsOn v inputs (sequence (u :: rest) r).ending := by
        intro hcall
        refine (List.mem_append.mp hcall).imp_right fun hcall => ?_
        cases List.mem_singleton.mp hcall
        exact ⟨u, List.mem_cons_self, rfl, hends⟩
      rcases hround with hcalls | ⟨next, hcalls, hs⟩
      · exact hfirst (hcalls ▸ hcall)
      · rw [hs] at hcall
        rcases ih hcall with hcall | ⟨v, hv, hid, hends⟩
        · exact hfirst (hcalls ▸ hcall)
        · rw [hs]
          exact Or.inr ⟨v, List.mem_cons_of_mem _ hv, hid, hends⟩

end Run

/-! ## Whole runs -/

variable {reg : Registry} {run : String} {p : OrderedPlan} {c : Context} {u : WorkUnit}
  {inputs : Inputs} {site : CrashSite} {crash : Crash}

/-- The loop over levels contains the crash of a unit: the run fails, and if no unit ahead of it
fails before, it names the unit. -/
theorem failed_of_crashesAt_parallel (hu : reg.get? u.id = some u)
    (hcrash : u.CrashesAt inputs site crash)
    (hcall : (u.id, inputs) ∈ (reg.runPlanParallel run p c).calls) :
    ∃ error, (reg.runPlanParallel run p c).ending = .failed error ∧
      ((∃ n, error = .step u.id n (site.cause u.id crash)) ∨
        ∃ other n, error.At other n ∧ p.Ahead other u.id) := by
  rcases reg.loops_cases run p c with ⟨id, -, hpar⟩ | ⟨hregistered, -, hpar⟩
  · rw [hpar] at hcall
    cases hcall
  · rw [hpar] at hcall ⊢
    rcases Run.levelByLevel_of_error hcall with hbegin | ⟨v, hv, hid, hend⟩
    · cases hbegin
    · obtain ⟨level, hlevel, hmem⟩ := List.mem_flatten.mp hv
      obtain ⟨names, -, rfl⟩ := List.mem_map.mp hlevel
      obtain ⟨name, -, hfind⟩ := List.mem_filterMap.mp hmem
      have hget := Registry.get?_of_mem_unitsOf (List.mem_of_find?_eq_some hfind)
      rw [hid, hu] at hget
      cases hget
      obtain ⟨error, hending, hend⟩ := hend _ hcrash.outcome_eq
      refine ⟨error, hending, hend.imp_right ?_⟩
      rintro ⟨other, n, hat, level', hlevel', hahead⟩
      obtain ⟨names', hnames', rfl⟩ := List.mem_map.mp hlevel'
      have hids := hahead.map WorkUnit.id
      rw [Registry.map_id_levelUnits hregistered] at hids
      exact ⟨other.id, n, hat, names', hnames', hids.trans List.filter_sublist⟩

/-- The sequential loop ends on the crash of a unit: with an error that names the unit, or, if the
unit's own check crashes, in this crash. -/
theorem ending_of_crashesAt (hu : reg.get? u.id = some u) (hcrash : u.CrashesAt inputs site crash)
    (hcall : (u.id, inputs) ∈ (reg.runPlan run p c).calls) :
    if site = .check then (reg.runPlan run p c).ending = .crashed crash
    else ∃ n, (reg.runPlan run p c).ending = .failed (.step u.id n (site.cause u.id crash)) := by
  rcases reg.loops_cases run p c with ⟨id, hseq, -⟩ | ⟨-, hseq, -⟩
  · rw [hseq] at hcall
    cases hcall
  · rw [hseq] at hcall ⊢
    rcases Run.sequence_of_error hcall with hbegin | ⟨v, hv, hid, hends⟩
    · cases hbegin
    · have hget := Registry.get?_of_mem_unitsOf hv
      rw [hid, hu] at hget
      cases hget
      split
      · rename_i hsite
        subst hsite
        exact hends.1 crash (WorkUnit.perform_eq_error_iff.mpr hcrash)
      · rename_i hsite
        obtain ⟨result, hp, hout⟩ := hcrash.exists_result hsite
        exact hends.2 result _ hp hout

theorem exists_crashesAt_of_crashed (h : (reg.runPlan run p c).ending = .crashed crash) :
    ∃ u inputs, reg.get? u.id = some u ∧ (u.id, inputs) ∈ (reg.runPlan run p c).calls ∧
      u.CrashesAt inputs .check crash := by
  rcases reg.loops_cases run p c with ⟨id, hseq, -⟩ | ⟨-, hseq, -⟩
  · rw [hseq] at h
    cases h
  · rw [hseq] at h ⊢
    rcases Run.sequence_cases (reg.unitsOf p.steps) (Run.begin reg run p c) with
      ⟨u, hu, inputs, crash', hp, hcall, hending⟩ | hs
    · rw [hending] at h
      cases h
      exact ⟨u, inputs, Registry.get?_of_mem_unitsOf hu, hcall,
        WorkUnit.perform_eq_error_iff.mp hp⟩
    · rw [hs] at h
      exact absurd h (Run.levelByLevel_ne_crashed _ _ _)

/-- Contained code never crashes.  Level by level every crash is contained: the run is the one of
the contained code, so it names the unit whose code crashed, or one ahead of it that failed before.
One after the other this holds of verifiers and of the work, but a crash of a unit's own check is
that of the run, and there is no other crash of a run. -/
theorem crashes_contained_but_own_check (reg : Registry) (run : String) (p : OrderedPlan)
    (c : Context) :
    (∀ id u, reg.contained.get? id = some u →
      ∀ inputs site crash, ¬ u.CrashesAt inputs site crash) ∧
    (reg.runPlanParallel run p c = reg.contained.runPlanParallel run p c ∧
      (∀ crash, (reg.runPlanParallel run p c).ending ≠ .crashed crash) ∧
      ∀ u inputs site crash, reg.get? u.id = some u → u.CrashesAt inputs site crash →
        (u.id, inputs) ∈ (reg.runPlanParallel run p c).calls →
        ∃ error, (reg.runPlanParallel run p c).ending = .failed error ∧
          ((∃ n, error = .step u.id n (site.cause u.id crash)) ∨
            ∃ other n, error.At other n ∧ p.Ahead other u.id)) ∧
    ((∀ crash, (reg.runPlan run p c).ending ≠ .crashed crash) →
      reg.runPlan run p c = reg.contained.runPlan run p c) ∧
    (∀ u inputs site crash, reg.get? u.id = some u → u.CrashesAt inputs site crash →
      (u.id, inputs) ∈ (reg.runPlan run p c).calls →
      if site = .check then (reg.runPlan run p c).ending = .crashed crash
      else ∃ n, (reg.runPlan run p c).ending = .failed (.step u.id n (site.cause u.id crash))) ∧
    ∀ crash, (reg.runPlan run p c).ending = .crashed crash →
      ∃ u inputs, reg.get? u.id = some u ∧ (u.id, inputs) ∈ (reg.runPlan run p c).calls ∧
        u.CrashesAt inputs .check crash := by
  refine ⟨fun id u hu inputs site crash => ?_,
    ⟨(reg.runPlanParallel_contained run p c).symm, fun crash hcrash => ?_,
      fun u inputs site crash => failed_of_crashesAt_parallel⟩,
    fun h => (reg.runPlan_contained h).symm, fun u inputs site crash => ending_of_crashesAt,
    fun crash => exists_crashesAt_of_crashed⟩
  · rw [Registry.get?_contained] at hu
    obtain ⟨v, -, rfl⟩ := Option.map_eq_some_iff.mp hu
    exact WorkUnit.not_crashesAt_contained
  · rcases reg.loops_cases run p c with ⟨id, -, hpar⟩ | ⟨-, -, hpar⟩
    · rw [hpar] at hcrash
      cases hcrash
    · rw [hpar] at hcrash
      exact Run.levelByLevel_ne_crashed _ _ _ hcrash

/-! ## A check that crashes -/

/-- A unit that crashes on checking whatever it is handed. -/
def WorkUnit.brittle : WorkUnit :=
  { WorkUnit.constant "u" [] [] with check := fun _ => .crashed ⟨some "boom"⟩ }

def brittle : Registry := ({} : Registry).register .brittle

def brittlePlan : OrderedPlan where
  target := "u"
  steps := ["u"]
  levels := [["u"]]

theorem crashesAt_brittle : WorkUnit.brittle.CrashesAt {} .check ⟨some "boom"⟩ := .check rfl rfl

theorem buildPlan_brittle : brittle.buildPlan "u" {} = .ok (.ordered brittlePlan) := by
  cbv

theorem sequence_brittle (run target planHash : String) (steps : UInt64) :
    Run.sequence (brittle.unitsOf brittlePlan.steps)
      { run, target, planHash, context := {},
        log := [.event (.runStarted run target planHash steps)] } =
      ⟨[.event (.runStarted run target planHash steps), .event (.stepStarted run "u" "1"),
        .call "u" {}], .crashed ⟨some "boom"⟩⟩ := rfl

theorem runPlan_brittle (run : String) :
    brittle.runPlan run brittlePlan {} =
      ⟨[.event (.runStarted run "u" (brittle.fingerprint brittlePlan) 1),
        .event (.stepStarted run "u" "1"), .call "u" {}], .crashed ⟨some "boom"⟩⟩ :=
  sequence_brittle _ _ _ _

theorem levelByLevel_brittle (run target planHash : String) (steps : UInt64) :
    (Run.levelByLevel (brittlePlan.levels.map (Registry.levelUnits
      (brittle.unitsOf brittlePlan.steps)))
      { run, target, planHash, context := {},
        log := [.event (.runStarted run target planHash steps)] }).calls = [("u", {})] := rfl

theorem calls_runPlanParallel_brittle (run : String) :
    (brittle.runPlanParallel run brittlePlan {}).calls = [("u", {})] :=
  levelByLevel_brittle _ _ _ _

theorem crashes_contained_but_own_check_brittle :
    (∃ error, (brittle.runPlanParallel "run" brittlePlan {}).ending = .failed error ∧
      ((∃ n, error = .step "u" n (.unitExecution "u" ["panicked: boom"])) ∨
        ∃ other n, error.At other n ∧ brittlePlan.Ahead other "u")) ∧
    (brittle.runPlan "run" brittlePlan {}).ending = .crashed ⟨some "boom"⟩ := by
  obtain ⟨-, ⟨-, -, hparallel⟩, -, hsequence, -⟩ :=
    crashes_contained_but_own_check brittle "run" brittlePlan {}
  refine ⟨hparallel .brittle {} .check _ rfl crashesAt_brittle ?_,
    hsequence .brittle {} .check _ rfl crashesAt_brittle ?_⟩
  · rw [calls_runPlanParallel_brittle]
    exact List.mem_singleton.mpr rfl
  · rw [runPlan_brittle]
    exact List.mem_singleton.mpr rfl

/-- A crash need not be contained: that of a unit's own check is the end of the sequential loop. -/
theorem own_check_crashes_run :
    brittle.buildPlan "u" {} = .ok (.ordered brittlePlan) ∧
    (∀ id ∈ brittlePlan.steps, brittle.contains id = true) ∧
    brittle.get? "u" = some .brittle ∧ WorkUnit.brittle.CrashesAt {} .check ⟨some "boom"⟩ ∧
    ("u", {}) ∈ (brittle.runPlan "run" brittlePlan {}).calls ∧
    ¬ ∃ error, (brittle.runPlan "run" brittlePlan {}).ending = .failed error := by
  refine ⟨buildPlan_brittle, by decide, rfl, crashesAt_brittle, ?_, ?_⟩
  · rw [runPlan_brittle]
    exact List.mem_singleton.mpr rfl
  · rw [runPlan_brittle]
    rintro ⟨error, ⟨⟩⟩

end Workplan
