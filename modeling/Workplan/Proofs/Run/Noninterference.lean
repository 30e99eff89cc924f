/-
# `Workplan.Proofs.Run.Noninterference` — keys that no unit knows of

A key is hidden from a registry if no unit declares it as an input, none names it as the condition
of a request, and none ever returns it.  Whatever a context binds under hidden keys is carried along
and makes no difference.  Planning looks up required keys and conditions only (`Registry.SeesSame`).
A step is handed declared keys only, and merging its outputs tests and adds returned keys only.

So a run can be followed without the hidden keys: `Context.without` takes them out of a context,
`Run.without` out of a run under way, and every operation of a run commutes with taking them out,
up to whole runs.  Two runs that begin alike without them therefore end alike without them.  What
stood under hidden keys is still there at the end, since the merges of a run add none of them.
-/
import Workplan.Proofs.Run.Course
import Workplan.Proofs.Run.Supply

namespace Workplan

/-! ## Some of the keys of a table -/

namespace Table

variable {α : Type} {keep : String → Bool}

/-- The entries whose keys pass a test, in their order. -/
def restrict (keep : String → Bool) (t : Table α) : Table α where
  entries := t.entries.filter fun e => keep e.1
  distinct := t.distinct.sublist (List.filter_sublist.map Prod.fst)

theorem eq_of_entries {t t' : Table α} (h : t.entries = t'.entries) : t = t' := by
  cases t
  cases t'
  cases h
  rfl

theorem get?_restrict (t : Table α) {key : String} (hkey : keep key = true) :
    (t.restrict keep).get? key = t.get? key := by
  suffices hfind : ∀ es : List (String × α),
      findEntry key (es.filter fun e => keep e.1) = findEntry key es from hfind t.entries
  intro es
  induction es with
  | nil => rfl
  | cons e rest ih =>
      obtain ⟨k, v⟩ := e
      cases hk : keep k with
      | true => simp only [List.filter_cons, hk, if_true, findEntry, ih]
      | false =>
          have hne : k ≠ key := by
            rintro rfl
            rw [hk] at hkey
            cases hkey
          simp only [List.filter_cons, hk, Bool.false_eq_true, if_false, findEntry, hne, ih]

theorem contains_restrict (t : Table α) {key : String} (hkey : keep key = true) :
    (t.restrict keep).contains key = t.contains key := by
  rw [contains, contains, get?_restrict t hkey]

theorem filter_putEntry (keep : String → Bool) (key : String) (value : α)
    (es : List (String × α)) :
    (putEntry key value es).filter (fun e => keep e.1) =
      if keep key then putEntry key value (es.filter fun e => keep e.1)
      else es.filter fun e => keep e.1 := by
  induction es with
  | nil => cases hkey : keep key <;> simp [putEntry, hkey]
  | cons e rest ih =>
      obtain ⟨k, v⟩ := e
      by_cases hk : k = key
      · subst hk
        cases hkey : keep k <;> simp [putEntry, hkey]
      · cases hkeep : keep k with
        | true =>
            simp only [putEntry, hk, if_false, List.filter_cons, hkeep, if_true, ih]
            split <;> rfl
        | false =>
            simp only [putEntry, hk, if_false, List.filter_cons, hkeep, Bool.false_eq_true, ih]

theorem restrict_insert (t : Table α) {key : String} (value : α) (hkey : keep key = true) :
    (t.insert key value).restrict keep = (t.restrict keep).insert key value :=
  eq_of_entries (by simp [restrict, insert, filter_putEntry, hkey])

theorem restrict_insert_of_not (t : Table α) {key : String} (value : α)
    (hkey : keep key = false) : (t.insert key value).restrict keep = t.restrict keep :=
  eq_of_entries (by simp [restrict, insert, filter_putEntry, hkey])

end Table

/-! ## Contexts with and without the hidden keys -/

namespace Context

variable {keep hidden : String → Bool} {policy : BindingPolicy}

/-- What a context binds of some keys. -/
def only (keys : String → Bool) (c : Context) : Context :=
  { c with values := c.values.restrict keys }

/-- What a context binds of all other keys. -/
def without (keys : String → Bool) (c : Context) : Context := c.only fun key => !keys key

theorem mergePairs_restrict (keep : String → Bool) {pairs : List (String × Value)}
    (h : ∀ e ∈ pairs, keep e.1 = true) (values : Table Value) :
    mergePairs policy (values.restrict keep) pairs =
      { mergePairs policy values pairs with
        values := (mergePairs policy values pairs).values.restrict keep } := by
  induction pairs generalizing values with
  | nil => rfl
  | cons pair rest ih =>
      obtain ⟨k, v⟩ := pair
      obtain ⟨hk, hrest⟩ := List.forall_mem_cons.mp h
      simp only [mergePairs, values.contains_restrict hk]
      cases values.contains k with
      | true => cases policy <;> simp [ih hrest]
      | false => simp [← values.restrict_insert v hk, ih hrest]

theorem restrict_mergePairs {pairs : List (String × Value)} (h : ∀ e ∈ pairs, keep e.1 = false)
    (values : Table Value) :
    (mergePairs policy values pairs).values.restrict keep = values.restrict keep := by
  induction pairs generalizing values with
  | nil => rfl
  | cons pair rest ih =>
      obtain ⟨k, v⟩ := pair
      obtain ⟨hk, hrest⟩ := List.forall_mem_cons.mp h
      simp only [mergePairs]
      cases values.contains k with
      | true =>
          cases policy with
          | strict => rfl
          | firstWins => exact ih hrest values
      | false => exact (ih hrest _).trans (values.restrict_insert_of_not v hk)

variable (c : Context)

theorem get?_without {key : String} (hkey : hidden key = false) :
    (c.without hidden).get? key = c.get? key :=
  c.values.get?_restrict (by simp [hkey])

theorem contains_without {key : String} (hkey : hidden key = false) :
    (c.without hidden).contains key = c.contains key :=
  c.values.contains_restrict (by simp [hkey])

theorem slice_without {d : Descriptor} (h : ∀ key ∈ d.inputs.keys, hidden key = false) :
    (c.without hidden).slice d = c.slice d := by
  have hpick : pick (c.without hidden).values d.inputs.keys = pick c.values d.inputs.keys :=
    List.filterMap_congr fun key hkey => by
      rw [show (c.without hidden).values.get? key = c.values.get? key from
        c.get?_without (h key hkey)]
  rw [slice, slice, hpick]

theorem merge_without {outputs : Outputs} (h : ∀ key ∈ outputs.keys, hidden key = false) :
    (c.without hidden).merge outputs =
      { c.merge outputs with
        values := (c.merge outputs).values.restrict fun key => !hidden key } := by
  have hvisible : ∀ e ∈ outputs.entries, (!hidden e.1) = true := by
    intro e he
    simp [h e.1 (List.mem_map_of_mem he)]
  exact mergePairs_restrict (fun key => !hidden key) hvisible c.values

theorem only_after {outputs : Outputs} (h : ∀ key ∈ outputs.keys, hidden key = false) :
    (c.after outputs).only hidden = c.only hidden := by
  simp only [only, after, merge, restrict_mergePairs (List.forall_mem_map.mp h)]

end Context

/-! ## Units that ignore keys -/

/-- The unit does not know of the hidden keys: it declares none of them as an input, makes no
request on condition of one, and never returns one. -/
structure WorkUnit.Ignores (u : WorkUnit) (hidden : String → Bool) : Prop where
  inputs : ∀ key ∈ u.descriptor.inputs.keys, hidden key = false
  conditions : ∀ q ∈ u.descriptor.requests, ∀ key, q.condition = some key → hidden key = false
  outputs : ∀ inputs outputs, u.execute inputs = .returned outputs →
    ∀ key ∈ outputs.keys, hidden key = false

/-- No registered unit knows of the hidden keys. -/
def Registry.Ignores (reg : Registry) (hidden : String → Bool) : Prop :=
  ∀ id u, reg.get? id = some u → u.Ignores hidden

variable {hidden : String → Bool}

/-! ## What planning looks up -/

namespace Registry

variable {r : Registry} {c c' : Context}

/-- Two contexts in which registered units find the same of their required keys bound, and the same
of their requests active. -/
structure SeesSame (r : Registry) (c c' : Context) : Prop where
  required : ∀ id u, r.get? id = some u → ∀ key ∈ u.descriptor.requiredKeys,
    c.contains key = c'.contains key
  active : ∀ id u, r.get? id = some u → ∀ q ∈ u.descriptor.requests, q.active c = q.active c'

namespace SeesSame

variable (h : r.SeesSame c c') {id : String} {u : WorkUnit} (hu : r.get? id = some u)

include h hu

theorem activeRequests_eq : activeRequests c u.descriptor = activeRequests c' u.descriptor := by
  rw [activeRequests, activeRequests, List.filter_congr (h.active id u hu)]

theorem edgesInto_eq : r.edgesInto c u.descriptor id = r.edgesInto c' u.descriptor id := by
  have hsupply : u.descriptor.requiredKeys.map (r.supplyEdge c id) =
      u.descriptor.requiredKeys.map (r.supplyEdge c' id) :=
    List.map_congr_left fun key hkey => by
      rw [supplyEdge, supplyEdge, h.required id u hu key hkey]
  rw [edgesInto, edgesInto, hsupply, h.activeRequests_eq hu]

theorem ambiguities_eq : u.descriptor.requiredKeys.filterMap (r.ambiguity? c) =
    u.descriptor.requiredKeys.filterMap (r.ambiguity? c') :=
  List.filterMap_congr fun key hkey => by
    rw [ambiguity?, ambiguity?, h.required id u hu key hkey]

theorem expand_eq (s : Search) :
    Search.expand r c s id u.descriptor = Search.expand r c' s id u.descriptor := by
  simp only [Search.expand, h.edgesInto_eq hu, h.ambiguities_eq hu]

omit hu

theorem search_eq (rounds : Nat) (s : Search) : r.search c rounds s = r.search c' rounds s := by
  induction rounds generalizing s with
  | zero => rfl
  | succ rounds ih =>
      rw [search, search]
      cases s.queue.dropWhile s.visited.contains with
      | nil => rfl
      | cons id queue =>
          cases hu : r.get? id with
          | none => simp only [hu, ih]
          | some u =>
              simp only [hu, h.activeRequests_eq hu, h.ambiguities_eq hu, h.expand_eq hu, ih]

theorem findProviders_eq (target : String) :
    r.findProviders target c = r.findProviders target c' := by
  rw [findProviders, findProviders, h.search_eq]

theorem buildPlan_eq (target : String) : r.buildPlan target c = r.buildPlan target c' := by
  rw [buildPlan, buildPlan, buildGraph, buildGraph, h.findProviders_eq]

end SeesSame

/-- Planning does not look at keys that no unit knows of. -/
theorem seesSame_without (hr : r.Ignores hidden) (c : Context) :
    r.SeesSame (c.without hidden) c where
  required id u hu key hkey :=
    c.contains_without ((hr id u hu).inputs key (Descriptor.mem_keys_of_mem_requiredKeys hkey))
  active id u hu q hq := by
    cases hcond : q.condition with
    | none => simp only [Request.active, hcond]
    | some key =>
        have hvisible := (hr id u hu).conditions q hq key hcond
        simp only [Request.active, hcond, Context.truthy, c.get?_without hvisible]

end Registry

/-! ## Runs without the hidden keys -/

/-- A run under way, its context without the hidden keys. -/
def Run.without (hidden : String → Bool) (r : Run) : Run :=
  { r with context := r.context.without hidden }

/-- How a run ends, the reported context without the hidden keys. -/
def RunEnding.without (hidden : String → Bool) : RunEnding → RunEnding
  | .completed report => .completed { report with context := report.context.without hidden }
  | ending => ending

def RunOutcome.without (hidden : String → Bool) (o : RunOutcome) : RunOutcome :=
  { o with ending := o.ending.without hidden }

namespace Run

variable {r : Run} {u : WorkUnit}

theorem inputsFor_without (hu : u.Ignores hidden) :
    (r.without hidden).inputsFor u = r.inputsFor u :=
  r.context.slice_without hu.inputs

theorem handed_without (hu : u.Ignores hidden) :
    (r.without hidden).handed u = (r.handed u).without hidden := by
  rw [handed, handed, inputsFor_without hu]
  rfl

theorem handedLevel_without {units : List WorkUnit} (hunits : ∀ u ∈ units, u.Ignores hidden) :
    (r.without hidden).handedLevel units = (r.handedLevel units).without hidden := by
  have hcalls : (units.map fun u => LogEntry.call u.id ((r.without hidden).inputsFor u)) =
      units.map fun u => LogEntry.call u.id (r.inputsFor u) :=
    List.map_congr_left fun u hu => by rw [inputsFor_without (hunits u hu)]
  rw [handedLevel_eq, handedLevel_eq, hcalls]
  rfl

/-- Results of visible keys only. -/
def VisibleResult (hidden : String → Bool) (result : StepResult) : Prop :=
  ∀ outputs, result.outcome = .ok outputs → ∀ key ∈ outputs.keys, hidden key = false

theorem finish_without {result : StepResult} (h : VisibleResult hidden result) :
    (r.without hidden).finish u result =
      ((r.finish u result).1.without hidden, (r.finish u result).2) := by
  cases hout : result.outcome with
  | error cause =>
      rw [finish_of_error hout, finish_of_error hout]
      rfl
  | ok outputs =>
      have hmerge := r.context.merge_without (h outputs hout)
      have hconflict : ((r.context.without hidden).merge outputs).conflict =
          (r.context.merge outputs).conflict := by
        rw [hmerge]
      cases hc : (r.context.merge outputs).conflict with
      | some key =>
          rw [finish_of_conflict hout hc, finish_of_conflict hout (hconflict.trans hc)]
          simp only [without, Context.after, hmerge]
          rfl
      | none =>
          rw [finish_of_merged hout hc, finish_of_merged hout (hconflict.trans hc)]
          simp only [merged, without, Context.after, hmerge]
          rfl

theorem finishAll_without {jobs : List (WorkUnit × StepResult)}
    (h : ∀ job ∈ jobs, VisibleResult hidden job.2) :
    finishAll jobs (r.without hidden) =
      ((finishAll jobs r).1.without hidden, (finishAll jobs r).2) := by
  induction jobs generalizing r with
  | nil => rfl
  | cons job rest ih =>
      obtain ⟨u, result⟩ := job
      obtain ⟨hresult, hrest⟩ := List.forall_mem_cons.mp h
      simp only [finishAll, finish_without hresult]
      cases hf : r.finish u result with
      | mk next error =>
          cases error with
          | some error => rfl
          | none => exact ih hrest

theorem performLevel_without {units : List WorkUnit} (hunits : ∀ u ∈ units, u.Ignores hidden) :
    (r.without hidden).performLevel units =
      ((r.performLevel units).1.without hidden, (r.performLevel units).2) := by
  have hjobs : (units.map fun u => (u, u.performContained ((r.without hidden).inputsFor u))) =
      units.map fun u => (u, u.performContained (r.inputsFor u)) :=
    List.map_congr_left fun u hu => by rw [inputsFor_without (hunits u hu)]
  rw [performLevel_eq, performLevel_eq, handedLevel_without hunits, hjobs]
  refine finishAll_without fun job hjob outputs hok => ?_
  obtain ⟨u, hu, rfl⟩ := List.mem_map.mp hjob
  exact (hunits u hu).outputs _ outputs (WorkUnit.execute_of_performContained hok)

theorem levelByLevel_without {levels : List (List WorkUnit)}
    (hlevels : ∀ level ∈ levels, ∀ u ∈ level, u.Ignores hidden) :
    levelByLevel levels (r.without hidden) = (levelByLevel levels r).without hidden := by
  induction levels generalizing r with
  | nil => rfl
  | cons level rest ih =>
      obtain ⟨hlevel, hrest⟩ := List.forall_mem_cons.mp hlevels
      rw [levelByLevel, levelByLevel, performLevel_without hlevel]
      cases r.performLevel level with
      | mk next error =>
          cases error with
          | some error => rfl
          | none => exact ih hrest

theorem sequence_without {units : List WorkUnit} (hunits : ∀ u ∈ units, u.Ignores hidden) :
    sequence units (r.without hidden) = (sequence units r).without hidden := by
  induction units generalizing r with
  | nil => rfl
  | cons u rest ih =>
      obtain ⟨hu, hrest⟩ := List.forall_mem_cons.mp hunits
      have hinputs := inputsFor_without (r := r) hu
      cases hp : u.perform (r.inputsFor u) with
      | error crash =>
          rw [sequence_cons_of_crash hp, sequence_cons_of_crash (hinputs ▸ hp), handed_without hu]
          rfl
      | ok result =>
          have hresult : VisibleResult hidden result := fun outputs hok =>
            hu.outputs _ outputs (WorkUnit.execute_of_perform hp hok)
          rw [sequence_cons_of_perform hp, sequence_cons_of_perform (hinputs ▸ hp),
            handed_without hu, finish_without hresult]
          cases (r.handed u).finish u result with
          | mk next error =>
              cases error with
              | some error => rfl
              | none => exact ih hrest

/-! ## What stays under the hidden keys -/

/-- As long as the units that were handed inputs ignore the hidden keys, those are bound as at the
beginning. -/
theorem keeps_hidden (hidden : String → Bool) (c : Context) (levels : List (List WorkUnit)) :
    Keeps levels fun handed _ r =>
      (∀ job ∈ handed, job.1.Ignores hidden) → r.context.only hidden = c.only hidden where
  hand before level after done r hlevels hdone h hunits := by
    rw [context_handedLevel]
    exact h fun job hjob => hunits job (List.mem_append_left _ hjob)
  take done s waiting r h hexec hc hunits := by
    have hs : s.unit.Ignores hidden := hunits s.handout (by simp)
    rw [context_merged, r.context.only_after (hs.outputs _ _ hexec)]
    exact h hunits

theorem only_of_levelByLevel {levels : List (List WorkUnit)}
    (hlevels : ∀ level ∈ levels, ∀ u ∈ level, u.Ignores hidden) {report : RunReport}
    (hreport : (levelByLevel levels r).ending = .completed report) :
    report.context.only hidden = r.context.only hidden := by
  have hcourse := levelByLevel_course (keeps_hidden hidden r.context levels) fun _ => rfl
  generalize levelByLevel levels r = o at hcourse hreport
  cases hcourse with
  | completed hdone h =>
      cases hreport
      refine h fun job hjob => ?_
      obtain ⟨s, hs, rfl⟩ := List.mem_map.mp hjob
      have hunit := List.mem_map_of_mem (f := Performed.unit) hs
      rw [hdone] at hunit
      obtain ⟨level, hlevel, hu⟩ := List.mem_flatten.mp hunit
      exact hlevels level hlevel _ hu
  | stopped => cases hreport

theorem only_of_sequence {units : List WorkUnit} (hunits : ∀ u ∈ units, u.Ignores hidden)
    {report : RunReport} (hreport : (sequence units r).ending = .completed report) :
    report.context.only hidden = r.context.only hidden := by
  rcases sequence_cases units r with ⟨-, -, -, crash, -, -, hcrash⟩ | hs
  · rw [hcrash] at hreport
    cases hreport
  · rw [hs] at hreport
    refine only_of_levelByLevel (fun level hlevel u hu => ?_) hreport
    obtain ⟨v, hv, rfl⟩ := List.mem_map.mp hlevel
    rw [List.mem_singleton.mp hu]
    exact hunits v hv

end Run

/-! ## Whole runs -/

namespace Registry

variable {reg : Registry} (hreg : reg.Ignores hidden) (run : String) (p : OrderedPlan)
  (c : Context)

include hreg

theorem Ignores.unitsOf (ids : List String) : ∀ u ∈ reg.unitsOf ids, u.Ignores hidden :=
  forall_mem_unitsOf.mpr fun id _ u hu => hreg id u hu

theorem Ignores.levelUnits (ids : List String) :
    ∀ level ∈ p.levels.map (Registry.levelUnits (reg.unitsOf ids)), ∀ u ∈ level,
      u.Ignores hidden := by
  intro level hlevel u hu
  obtain ⟨names, -, rfl⟩ := List.mem_map.mp hlevel
  obtain ⟨name, -, hfind⟩ := List.mem_filterMap.mp hu
  exact hreg.unitsOf ids u (List.mem_of_find?_eq_some hfind)

theorem runs_without :
    reg.runPlan run p (c.without hidden) = (reg.runPlan run p c).without hidden ∧
      reg.runPlanParallel run p (c.without hidden) =
        (reg.runPlanParallel run p c).without hidden := by
  unfold runPlan runPlanParallel
  rcases resolveSteps_cases reg p.steps with ⟨id, -, -, herror⟩ | ⟨-, hok⟩
  · rw [herror]
    exact ⟨rfl, rfl⟩
  · rw [hok]
    exact ⟨Run.sequence_without (r := Run.begin reg run p c) (hreg.unitsOf p.steps),
      Run.levelByLevel_without (r := Run.begin reg run p c) (hreg.levelUnits p p.steps)⟩

theorem only_of_completed {o : RunOutcome}
    (ho : o = reg.runPlan run p c ∨ o = reg.runPlanParallel run p c) {report : RunReport}
    (hreport : o.ending = .completed report) : report.context.only hidden = c.only hidden := by
  rcases reg.loops_cases run p c with ⟨id, hseq, hpar⟩ | ⟨-, hseq, hpar⟩
  · rw [hseq, hpar, or_self] at ho
    rw [ho] at hreport
    cases hreport
  · rcases ho with rfl | rfl
    · rw [hseq] at hreport
      exact Run.only_of_sequence (hreg.unitsOf p.steps) hreport
    · rw [hpar] at hreport
      exact Run.only_of_levelByLevel (hreg.levelUnits p p.steps) hreport

end Registry

/-- Two endings that differ at most under the hidden keys, which are bound as two contexts bound
them. -/
inductive RunEnding.AlikeBut (hidden : String → Bool) (c₁ c₂ : Context) :
    RunEnding → RunEnding → Prop
  | completed {report : RunReport} {d₁ d₂ : Context} :
      d₁.without hidden = d₂.without hidden →
      d₁.only hidden = c₁.only hidden → d₂.only hidden = c₂.only hidden →
      AlikeBut hidden c₁ c₂ (.completed { report with context := d₁ })
        (.completed { report with context := d₂ })
  | failed (error : RunError) : AlikeBut hidden c₁ c₂ (.failed error) (.failed error)
  | crashed (crash : Crash) : AlikeBut hidden c₁ c₂ (.crashed crash) (.crashed crash)

/-- Two runs with the same record, which holds all inputs that were handed out, and with endings
that differ at most under the hidden keys. -/
structure RunOutcome.AlikeBut (hidden : String → Bool) (c₁ c₂ : Context) (o₁ o₂ : RunOutcome) :
    Prop where
  log : o₁.log = o₂.log
  ending : o₁.ending.AlikeBut hidden c₁ c₂ o₂.ending

theorem RunOutcome.alikeBut_of_without {c₁ c₂ : Context} {o₁ o₂ : RunOutcome}
    (h : o₁.without hidden = o₂.without hidden)
    (h₁ : ∀ report, o₁.ending = .completed report → report.context.only hidden = c₁.only hidden)
    (h₂ : ∀ report, o₂.ending = .completed report → report.context.only hidden = c₂.only hidden) :
    o₁.AlikeBut hidden c₁ c₂ o₂ := by
  obtain ⟨log₁, ending₁⟩ := o₁
  obtain ⟨log₂, ending₂⟩ := o₂
  obtain ⟨hlog, hending⟩ := RunOutcome.mk.inj h
  refine ⟨hlog, ?_⟩
  cases ending₁ with
  | completed report₁ =>
      cases ending₂ with
      | completed report₂ =>
          have hreport := RunEnding.completed.inj hending
          obtain ⟨hrun, htarget, hhash, hsteps, hcontext⟩ := RunReport.mk.inj hreport
          have halike : report₁ = { report₂ with context := report₁.context } := by
            rw [← hrun, ← htarget, ← hhash, ← hsteps]
          rw [halike]
          exact .completed hcontext (h₁ report₁ rfl) (h₂ report₂ rfl)
      | failed error => cases hending
      | crashed crash => cases hending
  | failed error =>
      cases ending₂ with
      | completed report => cases hending
      | failed error' =>
          cases hending
          exact .failed error
      | crashed crash => cases hending
  | crashed crash =>
      cases ending₂ with
      | completed report => cases hending
      | failed error => cases hending
      | crashed crash' =>
          cases hending
          exact .crashed crash

/-- Hidden keys do not interfere.  Two contexts that agree without the keys that no registered unit
knows of give the same plan for every target.  Every plan, this one among them, is run alike from
both, by either loop: with the same record and so the same inputs for each unit, and to the same
error or the same report, but for the hidden keys, under which each run ends with what it began
with. -/
theorem hidden_keys_do_not_interfere {reg : Registry} (hreg : reg.Ignores hidden) {c₁ c₂ : Context}
    (h : c₁.without hidden = c₂.without hidden) (target run : String) :
    reg.buildPlan target c₁ = reg.buildPlan target c₂ ∧
    ∀ p, (reg.runPlan run p c₁).AlikeBut hidden c₁ c₂ (reg.runPlan run p c₂) ∧
      (reg.runPlanParallel run p c₁).AlikeBut hidden c₁ c₂ (reg.runPlanParallel run p c₂) := by
  constructor
  · calc reg.buildPlan target c₁
        = reg.buildPlan target (c₁.without hidden) :=
          ((Registry.seesSame_without hreg c₁).buildPlan_eq target).symm
      _ = reg.buildPlan target (c₂.without hidden) := by rw [h]
      _ = reg.buildPlan target c₂ := (Registry.seesSame_without hreg c₂).buildPlan_eq target
  · intro p
    obtain ⟨hseq₁, hpar₁⟩ := Registry.runs_without hreg run p c₁
    obtain ⟨hseq₂, hpar₂⟩ := Registry.runs_without hreg run p c₂
    rw [h] at hseq₁ hpar₁
    constructor
    · exact RunOutcome.alikeBut_of_without (hseq₁.symm.trans hseq₂)
        (fun _ => Registry.only_of_completed hreg run p c₁ (Or.inl rfl))
        (fun _ => Registry.only_of_completed hreg run p c₂ (Or.inl rfl))
    · exact RunOutcome.alikeBut_of_without (hpar₁.symm.trans hpar₂)
        (fun _ => Registry.only_of_completed hreg run p c₁ (Or.inr rfl))
        (fun _ => Registry.only_of_completed hreg run p c₂ (Or.inr rfl))

/-! ## The two producers, with a note of the host's -/

theorem ignores_twoProducers : twoProducers.Ignores (· == "note") := by
  intro id u hu
  have hdeclared : ∀ e ∈ twoProducers.units.entries,
      (∀ key ∈ e.2.descriptor.inputs.keys, (key == "note") = false) ∧
      (∀ q ∈ e.2.descriptor.requests, ∀ key ∈ q.condition, (key == "note") = false) ∧
      ∀ key ∈ e.2.descriptor.outputs.toList, (key == "note") = false := by
    decide
  obtain ⟨hinputs, hconditions, houtputs⟩ := hdeclared (id, u) (Table.get?_eq_some_iff.mp hu)
  refine ⟨hinputs, hconditions, fun inputs outputs hexec key hkey => houtputs key ?_⟩
  have hproduces := twoProducers_returnsExactly hu inputs outputs hexec key
  rw [(outputs.contains_iff key).mpr hkey] at hproduces
  exact (u.descriptor.outputs.contains_iff key).mp hproduces.symm

/-- A context with a note in front of a given `k`. -/
def noted : Context := (Context.insert {} "note" (.ofString "seen")).insert "k" (.ofString "given")

/-- The same context without the note. -/
def unnoted : Context := Context.insert {} "k" (.ofString "given")

theorem hidden_keys_do_not_interfere_twoProducers :
    noted.without (· == "note") = unnoted.without (· == "note") ∧
    twoProducers.buildPlan "u" noted = twoProducers.buildPlan "u" unnoted ∧
    (twoProducers.runPlan "run" twoProducersPlan noted).AlikeBut (· == "note") noted unnoted
      (twoProducers.runPlan "run" twoProducersPlan unnoted) := by
  have hsame : noted.without (· == "note") = unnoted.without (· == "note") := rfl
  obtain ⟨hplan, hruns⟩ := hidden_keys_do_not_interfere ignores_twoProducers hsame "u" "run"
  exact ⟨hsame, hplan, (hruns twoProducersPlan).1⟩

end Workplan
