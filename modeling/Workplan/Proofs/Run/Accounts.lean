/-
# `Workplan.Proofs.Run.Accounts` — a completed run accounts for every step and every key

A run only ever adds to its context.  Its report tells how: one record for each step, which divides
the keys that the step returned into those that it bound and those that it came too late for.  The
bindings at the end are those at the start, followed by what the records call bound, with the values
that the steps returned.

`Account` is this balance for any part of a run.  It starts out even, and taking in the outputs of a
step keeps it (`Account.merge`); both loops and both policies share the bookkeeping, so one
invariant does for all four.
-/
import Mathlib
import Workplan.Proofs.Run.Course

namespace Workplan

/-! ## Records and the steps they tell of -/

/-- The record tells of the step: it succeeded, and each key that it returned was bound or
discarded, one of the two and once, in the order in which they were returned. -/
structure StepRecord.Accounts (record : StepRecord) (s : Performed) : Prop where
  unit_eq : record.unit = s.unit.id
  state_eq : record.state = .succeeded
  bound_sublist : record.bound.Sublist s.outputs.keys
  discarded_sublist : record.discarded.Sublist s.outputs.keys
  divided : (record.bound ++ record.discarded).Perm s.outputs.keys

/-- What a step added to the context: the keys that its record calls bound, with the values that it
returned. -/
def StepRecord.entries (record : StepRecord) (s : Performed) : List (String × Value) :=
  Context.pick s.outputs record.bound

/-- The records tell of the steps, and what the steps added is all that the context gained. -/
structure Account (c : Context) (trace : List Performed) (records : List StepRecord)
    (last : Context) : Prop where
  told : List.Forall₂ StepRecord.Accounts records trace
  entries_eq : last.values.entries =
    c.values.entries ++ (List.zipWith StepRecord.entries records trace).flatten

namespace Context

theorem pick_filter_keys (t : Table Value) (q : String → Bool) :
    pick t (t.keys.filter q) = t.entries.filter fun e => q e.1 := by
  have hentry : ∀ e ∈ t.entries, (t.get? e.1).map (fun v => (e.1, v)) = some e := by
    rintro ⟨k, v⟩ he
    rw [Table.get?_eq_some_iff.mpr he, Option.map_some]
  simp only [pick, Table.keys, List.filter_map, List.filterMap_map, Function.comp_def]
  calc (t.entries.filter fun e => q e.1).filterMap (fun e => (t.get? e.1).map fun v => (e.1, v))
      = (t.entries.filter fun e => q e.1).filterMap some :=
        List.filterMap_congr fun e he => hentry e (List.mem_filter.mp he).1
    _ = t.entries.filter fun e => q e.1 := List.filterMap_some

theorem map_fst_pick {t : Table Value} {keys : List String} (h : ∀ k ∈ keys, t.contains k = true) :
    (pick t keys).map Prod.fst = keys := by
  have hkey : ∀ k ∈ keys, ((t.get? k).map fun v => (k, v)).map Prod.fst = some k := by
    intro k hk
    obtain ⟨v, hv⟩ := Table.contains_eq_true_iff.mp (h k hk)
    rw [hv, Option.map_some, Option.map_some]
  rw [pick, List.map_filterMap, List.filterMap_congr hkey]
  exact List.filterMap_some

end Context

namespace StepRecord.Accounts

variable {record : StepRecord} {s : Performed}

/-- The keys that a step bound are keys that it returned, so they have values. -/
theorem map_fst_entries (h : record.Accounts s) : (record.entries s).map Prod.fst = record.bound :=
  Context.map_fst_pick fun k hk => (s.outputs.contains_iff k).mpr (h.bound_sublist.subset hk)

theorem map_fst_flatten_entries {records : List StepRecord} {trace : List Performed}
    (h : List.Forall₂ StepRecord.Accounts records trace) :
    (List.zipWith StepRecord.entries records trace).flatten.map Prod.fst =
      records.flatMap StepRecord.bound := by
  induction h with
  | nil => rfl
  | cons hs _ ih =>
      rw [List.zipWith_cons_cons, List.flatten_cons, List.map_append, ih, hs.map_fst_entries,
        List.flatMap_cons]

theorem of_merge {c : Context} (hc : (c.merge s.outputs).conflict = none) :
    StepRecord.Accounts ⟨s.unit.id, .succeeded, (c.merge s.outputs).bound,
      (c.merge s.outputs).discarded⟩ s where
  unit_eq := rfl
  state_eq := rfl
  bound_sublist := by
    rw [Context.bound_merge hc]
    exact List.filter_sublist
  discarded_sublist := by
    rw [Context.discarded_merge hc]
    exact List.filter_sublist
  divided := by
    rw [Context.bound_merge hc, Context.discarded_merge hc]
    exact List.perm_append_comm.trans (List.filter_append_perm c.contains s.outputs.keys)

end StepRecord.Accounts

/-! ## The balance, and what keeps it -/

namespace Account

variable {c last : Context} {trace : List Performed} {records : List StepRecord} {s : Performed}

theorem start (c : Context) : Account c [] [] c := ⟨.nil, by simp⟩

theorem merge (h : Account c trace records last) (hc : (last.merge s.outputs).conflict = none) :
    Account c (trace ++ [s])
      (records ++ [⟨s.unit.id, .succeeded, (last.merge s.outputs).bound,
        (last.merge s.outputs).discarded⟩])
      (last.after s.outputs) where
  told := List.rel_append h.told (.cons (.of_merge hc) .nil)
  entries_eq := by
    rw [List.zipWith_append h.told.length_eq, List.flatten_append, ← List.append_assoc,
      ← h.entries_eq, Context.entries_after hc]
    congr 1
    simp only [List.zipWith_cons_cons, List.zipWith_nil_left, List.flatten_cons, List.flatten_nil,
      List.append_nil, StepRecord.entries, Context.bound_merge hc]
    exact (Context.pick_filter_keys s.outputs fun k => !last.contains k).symm

theorem keys_eq (h : Account c trace records last) :
    last.keys = c.keys ++ records.flatMap StepRecord.bound := by
  have hkeys := congrArg (List.map Prod.fst) h.entries_eq
  rw [List.map_append, StepRecord.Accounts.map_fst_flatten_entries h.told] at hkeys
  exact hkeys

theorem map_unit_eq (h : Account c trace records last) :
    records.map StepRecord.unit = trace.map fun s => s.unit.id := by
  obtain ⟨hrecords, -⟩ := h
  induction hrecords with
  | nil => rfl
  | cons hs _ ih => rw [List.map_cons, List.map_cons, hs.unit_eq, ih]

theorem state_eq (h : Account c trace records last) {record : StepRecord} (hr : record ∈ records) :
    record.state = .succeeded := by
  obtain ⟨hrecords, -⟩ := h
  induction hrecords with
  | nil => cases hr
  | cons hs _ ih =>
      rcases List.mem_cons.mp hr with rfl | hr
      · exact hs.state_eq
      · exact ih hr

end Account

/-! ## Runs -/

/-- What the trace says was performed is what the run did: these units were handed these inputs, and
returned these outputs on them. -/
structure RunOutcome.Performs (o : RunOutcome) (reg : Registry) (trace : List Performed) : Prop
    where
  calls_eq : o.calls = trace.map fun s => (s.unit.id, s.inputs)
  registered : ∀ s ∈ trace, reg.get? s.unit.id = some s.unit
  returned : ∀ s ∈ trace, s.unit.execute s.inputs = .returned s.outputs

/-- The invariant of a run under way: the account of what it has taken in, which was handed out and
returned as the record of the run says. -/
structure Accounted (c : Context) (handed : List (WorkUnit × Inputs)) (done : List Performed)
    (r : Run) : Prop where
  account : Account c done r.steps r.context
  calls_eq : callsIn r.log = handed.map fun h => (h.1.id, h.2)
  returned : ∀ s ∈ done, s.unit.execute s.inputs = .returned s.outputs

theorem accounted_begin (reg : Registry) (run : String) (p : OrderedPlan) (c : Context) :
    Accounted c [] [] (Run.begin reg run p c) :=
  ⟨.start c, rfl, nofun⟩

theorem keeps_accounted (c : Context) (levels : List (List WorkUnit)) :
    Run.Keeps levels (Accounted c) where
  hand before level after done r hlevels hdone h := by
    refine ⟨?_, ?_, h.returned⟩
    · rw [Run.steps_handedLevel, Run.context_handedLevel]
      exact h.account
    · rw [Run.callsIn_handedLevel, h.calls_eq, List.map_append, List.map_map (l := level)]
      rfl
  take done s waiting r h hexec hc := by
    refine ⟨h.account.merge hc, ?_, ?_⟩
    · rw [(Run.quietlyExtends_merged r s.unit _ s.outputs).callsIn_eq, h.calls_eq]
    · exact List.forall_mem_append.mpr ⟨h.returned, by simpa using hexec⟩

/-- The report of a completed run, by either loop and under either policy, accounts for the plan:
one record of success for each step in order, and a context that holds the bindings at the start,
unchanged and in order, and then what the steps bound, each key once and with the value that its
step returned. -/
theorem completed_run_accounts {p : OrderedPlan} {reg : Registry} (hp : p.Runnable reg)
    {run : String} {c : Context} {o : RunOutcome}
    (ho : o = reg.runPlan run p c ∨ o = reg.runPlanParallel run p c) {report : RunReport}
    (hreport : o.ending = .completed report) :
    report.steps.map StepRecord.unit = p.steps ∧
    (∀ record ∈ report.steps, record.state = .succeeded) ∧
    report.succeeded = p.steps.length ∧
    report.context.keys = c.keys ++ report.steps.flatMap StepRecord.bound ∧
    (c.keys ++ report.steps.flatMap StepRecord.bound).Nodup ∧
    ∃ trace, o.Performs reg trace ∧
      List.Forall₂ StepRecord.Accounts report.steps trace ∧
      report.context.values.entries =
        c.values.entries ++ (List.zipWith StepRecord.entries report.steps trace).flatten := by
  obtain ⟨done, r, hdone, h, rfl⟩ :=
    hp.completed_course (keeps_accounted c) (accounted_begin reg run p c) ho hreport
  cases hreport
  have hunits : r.steps.map StepRecord.unit = p.steps := by
    rw [h.account.map_unit_eq, ← hp.map_id_unitsOf, ← hdone, List.map_map]
    rfl
  have hstates : ∀ record ∈ r.steps, record.state = .succeeded :=
    fun record hrecord => h.account.state_eq hrecord
  refine ⟨hunits, hstates, ?_, h.account.keys_eq, ?_, done, ?_, h.account.told,
    h.account.entries_eq⟩
  · rw [← hunits, List.length_map]
    exact List.countP_eq_length.mpr fun record hrecord => decide_eq_true (hstates record hrecord)
  · rw [← h.account.keys_eq]
    exact r.context.values.distinct
  · refine ⟨?_, fun s hs => ?_, h.returned⟩
    · rw [RunOutcome.calls, r.quietlyExtends_complete.callsIn_eq, h.calls_eq, List.map_map]
      rfl
    · have hu : s.unit ∈ reg.unitsOf p.steps := hdone ▸ List.mem_map_of_mem hs
      exact Registry.get?_of_mem_unitsOf hu

/-! ## The diamond, run -/

/-- The second branch comes too late for the key that both of them return. -/
theorem levelByLevel_diamond (run target planHash : String) (steps : UInt64) :
    (Run.levelByLevel (diamondPlan.levels.map (Registry.levelUnits
      (diamond.unitsOf diamondPlan.steps)))
      { run, target, planHash, context := {},
        log := [.event (.runStarted run target planHash steps)] }).completed = true := by
  cbv

theorem completed_run_accounts_diamond :
    ∃ report, (diamond.runPlanParallel "run" diamondPlan {}).ending = .completed report ∧
      report.steps.map StepRecord.unit = ["auth", "left", "right", "join"] ∧
      report.succeeded = 4 ∧
      report.context.keys = report.steps.flatMap StepRecord.bound ∧
      (report.steps.flatMap StepRecord.bound).Nodup := by
  obtain ⟨report, hreport⟩ : ∃ report,
      (diamond.runPlanParallel "run" diamondPlan {}).ending = .completed report :=
    RunOutcome.completed_eq_true_iff.mp (levelByLevel_diamond _ _ _ _)
  obtain ⟨hunits, -, hcount, hkeys, hnodup, -⟩ :=
    completed_run_accounts diamondPlan_runnable (.inr rfl) hreport
  exact ⟨report, hreport, hunits, hcount, hkeys, hnodup⟩

end Workplan
