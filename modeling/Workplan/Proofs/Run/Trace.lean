/-
# `Workplan.Proofs.Run.Trace` — the steps that a run performed

A completed run is read as its trace: the steps performed, with what each was handed and what it
returned.  `Threads` ties a trace to the sequential loop, in which each step is handed a slice of
what those before it left.
-/
import Workplan.Proofs.Run.Calls
import Workplan.Proofs.Step

namespace Workplan

/-- Whether a run ended with a report. -/
def RunOutcome.completed (o : RunOutcome) : Bool :=
  match o.ending with
  | .completed _ => true
  | _ => false

theorem RunOutcome.completed_eq_true_iff {o : RunOutcome} :
    o.completed = true ↔ ∃ report, o.ending = .completed report := by
  unfold completed
  cases o.ending <;> simp

/-- A step that was performed: the unit, what it was handed and what it returned. -/
structure Performed where
  unit : WorkUnit
  inputs : Inputs
  outputs : Outputs

/-- Steps performed one after the other, each on the context that those before it left. -/
inductive Threads : Context → List Performed → Prop
  | nil (c : Context) : Threads c []
  | cons {c : Context} {s : Performed} {rest : List Performed} :
      s.inputs = c.slice s.unit.descriptor → s.unit.execute s.inputs = .returned s.outputs →
      (c.merge s.outputs).conflict = none → Threads (c.after s.outputs) rest →
      Threads c (s :: rest)

namespace Threads

variable {c : Context} {trace before after : List Performed} {s : Performed} {key : String}

theorem execute (h : Threads c trace) (hs : s ∈ trace) :
    s.unit.execute s.inputs = .returned s.outputs := by
  induction h with
  | nil => cases hs
  | cons _ hexec _ _ ih =>
      rcases List.mem_cons.mp hs with rfl | hs
      · exact hexec
      · exact ih hs

/-- A step is handed what the context bound at first, and failing that what an earlier step
returned first. -/
theorem get?_inputs (h : Threads c (before ++ s :: after))
    (hkey : key ∈ s.unit.descriptor.inputs.keys) :
    s.inputs.get? key = (c.get? key).or (before.findSome? fun t => t.outputs.get? key) := by
  induction before generalizing c with
  | nil =>
      cases h with
      | cons hin _ _ _ =>
          rw [hin, Context.get?_slice, if_pos hkey, List.findSome?_nil, Option.or_none]
  | cons t rest ih =>
      cases h with
      | cons _ _ hc hrest =>
          rw [ih hrest, Context.get?_after hc, Option.or_assoc, List.findSome?_cons]
          cases t.outputs.get? key <;> rfl

end Threads

theorem Run.sequence_completed {units : List WorkUnit} {r : Run} {report : RunReport}
    (h : (sequence units r).ending = .completed report) :
    ∃ trace, trace.map Performed.unit = units ∧ Threads r.context trace ∧
      (sequence units r).calls =
        callsIn r.log ++ trace.map fun s => (s.unit.id, s.inputs) := by
  induction units generalizing r with
  | nil => exact ⟨[], rfl, .nil _, by simp [sequence, RunOutcome.calls,
      r.quietlyExtends_complete.callsIn_eq]⟩
  | cons u rest ih =>
      rcases sequence_cons_cases u rest r with
        ⟨crash, hs⟩ | ⟨result, later, error, -, -, -, hs⟩ | ⟨result, outputs, hp, hok, hc, hs⟩
      · rw [hs] at h
        cases h
      · rw [hs] at h
        cases h
      · rw [hs] at h ⊢
        obtain ⟨trace, rfl, hthreads, hcalls⟩ := ih h
        refine ⟨⟨u, r.inputsFor u, outputs⟩ :: trace, rfl, ?_, ?_⟩
        · exact .cons rfl (WorkUnit.execute_of_perform hp hok) hc hthreads
        · rw [hcalls, (quietlyExtends_merged _ u _ outputs).callsIn_eq, callsIn_handed,
            List.append_assoc]
          rfl

end Workplan
