/-
# `Workplan.Proofs.LifeCycle` — a step keeps to its life cycle

`perform` says of a step through which states it goes and what comes of it.  Two things it does not
say.  The states are given as a list, and not as moves of which the life cycle might refuse one; and
being a function, it does not tell which pieces of the unit's code were called.  `live` is the step
with both in it: every move asks the life cycle, where a refusal leaves the state behind and is
noted, and every call is noted before its answer is used.

The two agree: what `live` comes to is the result of `perform`, the moves that it makes are the path
of `perform`, and no move is ever refused.  What is called, and in which order, follows from the
course that the step takes, of which there are five (`Course`).
-/
import Mathlib.Data.List.Chain
import Workplan.Proofs.Contract
import Workplan.Proofs.Step

namespace Workplan

/-- What work has come to: its outputs, or the chain of causes of its failure, which for a crash is
the note about the crash. -/
def Execution.result : Execution → Except (List String) Outputs
  | .returned outputs => .ok outputs
  | .failed causes => .error causes
  | .crashed crash => .error [crash.note]

/-- A piece of a unit's code that a step calls. -/
inductive Call where
  | verifier (q : Inquiry)
  | check
  | work

def Call.isWork : Call → Bool
  | .work => true
  | _ => false

/-- What a step leaves behind: where it stands, the states it went through, the moves that were
refused, and the calls. -/
structure Trail where
  state : StepState := .pending
  path : List StepState := [.pending]
  refused : List (StepState × StepState) := []
  calls : List Call := []

namespace Trail

/-- Moves to a state.  If the life cycle refuses the move, the state stays. -/
def move (t : Trail) (next : StepState) : Trail :=
  match t.state.advance? next with
  | some s => { t with state := s, path := t.path ++ [s] }
  | none => { t with refused := t.refused ++ [(t.state, next)] }

def call (t : Trail) (c : Call) : Trail := { t with calls := t.calls ++ [c] }

theorem foldl_call (qs : List Inquiry) (t : Trail) :
    qs.foldl (fun t q => t.call (.verifier q)) t =
      { t with calls := t.calls ++ qs.map .verifier } := by
  induction qs generalizing t with
  | nil => simp
  | cons q rest ih =>
      rw [List.foldl_cons, ih]
      simp [call]

/-- The states so far are a way through the life cycle, and nothing was refused. -/
structure Legal (t : Trail) : Prop where
  refused_eq : t.refused = []
  head : t.path.head? = some .pending
  moves : t.path.IsChain fun s next => s.advance? next = some next
  last : t.path.getLast? = some t.state

theorem Legal.call {t : Trail} (h : t.Legal) (c : Call) : (t.call c).Legal :=
  ⟨h.refused_eq, h.head, h.moves, h.last⟩

theorem Legal.move {t : Trail} {next : StepState} (h : t.Legal)
    (hallows : t.state.allows next = true) : (t.move next).Legal := by
  have hadvance : t.state.advance? next = some next := by
    rw [StepState.advance?, if_pos hallows]
  have hmove : t.move next = { t with state := next, path := t.path ++ [next] } := by
    simp only [Trail.move, hadvance]
  rw [hmove]
  refine ⟨h.refused_eq, ?_, ?_, List.getLast?_concat⟩
  · show (t.path ++ [next]).head? = some .pending
    rw [List.head?_append, h.head]
    rfl
  · refine List.isChain_append.mpr ⟨h.moves, List.isChain_singleton next, ?_⟩
    intro s hs s' hs'
    obtain rfl : t.state = s := Option.some.inj (h.last.symm.trans hs)
    obtain rfl : next = s' := Option.some.inj hs'
    exact hadvance

end Trail

namespace WorkUnit

/-! ## The step, move by move and call by call -/

def moveTo (next : StepState) : StateM Trail Unit := modify (·.move next)

/-- Notes a call, and gives its answer. -/
def calling {α : Type} (c : Call) (answer : α) : StateM Trail α := do
  modify (·.call c)
  return answer

/-- Ends a step whose inputs were not valid. -/
def refuse (u : WorkUnit) (violation : Violation) : StateM Trail (Except StepError Outputs) := do
  moveTo .invalid
  moveTo .failed
  return .error (.invalid u.id violation)

/-- Does the work on valid inputs. -/
def doWork (u : WorkUnit) (inputs : Inputs) : StateM Trail (Except StepError Outputs) := do
  moveTo .valid
  moveTo .executing
  match ← calling .work (u.execute inputs).result with
  | .ok outputs =>
    moveTo .succeeded
    return .ok outputs
  | .error causes =>
    moveTo .failed
    return .error (.unitExecution u.id causes)

/-- Goes on from what validation found.  The error is a crash of the unit's own check. -/
def conclude (u : WorkUnit) (inputs : Inputs) :
    Option Violation → StateM Trail (Except Crash (Except StepError Outputs))
  | some violation => return .ok (← u.refuse violation)
  | none => do
    match ← calling .check (u.check inputs) with
    | .crashed crash => return .error crash
    | .rejected reason => return .ok (← u.refuse (.selfCheckFailed u.id reason))
    | .accepted => return .ok (← u.doWork inputs)

/-- Performs a step. -/
def live (u : WorkUnit) (inputs : Inputs) :
    StateM Trail (Except Crash (Except StepError Outputs)) := do
  moveTo .validating
  let ask := Descriptor.recorded (fun (t : Trail) q => t.call (.verifier q)) inputs
  u.conclude inputs (← u.descriptor.validateWith ask inputs)

/-- The courses that a step can take: its error or its outputs, and the calls that follow those of
the verifiers. -/
inductive Course (u : WorkUnit) (inputs : Inputs) : Except StepError Outputs → List Call → Prop
  | refused {violation : Violation} : u.descriptor.validateInputs inputs = .error violation →
      Course u inputs (.error (.invalid u.id violation)) []
  | rejected {reason : String} : u.descriptor.validateInputs inputs = .ok () →
      u.check inputs = .rejected reason →
      Course u inputs (.error (.invalid u.id (.selfCheckFailed u.id reason))) [.check]
  | returned {outputs : Outputs} : u.descriptor.validateInputs inputs = .ok () →
      u.check inputs = .accepted → (u.execute inputs).result = .ok outputs →
      Course u inputs (.ok outputs) [.check, .work]
  | failed {causes : List String} : u.descriptor.validateInputs inputs = .ok () →
      u.check inputs = .accepted → (u.execute inputs).result = .error causes →
      Course u inputs (.error (.unitExecution u.id causes)) [.check, .work]

section Live

variable {u : WorkUnit} {inputs : Inputs}

/-! ## One course after the other -/

/-- The trail of a step when validation has ended. -/
def validated (u : WorkUnit) (inputs : Inputs) : Trail where
  state := .validating
  path := [.pending, .validating]
  calls := (u.descriptor.asked inputs).map .verifier

theorem validated_legal (u : WorkUnit) (inputs : Inputs) : (u.validated inputs).Legal where
  refused_eq := rfl
  head := rfl
  moves := List.isChain_pair.mpr rfl
  last := rfl

theorem run_live (u : WorkUnit) (inputs : Inputs) :
    (u.live inputs).run {} =
      (u.conclude inputs (u.descriptor.violation? inputs)).run (u.validated inputs) := by
  have hvalidate := Descriptor.run_validateWith (fun (t : Trail) q => t.call (.verifier q))
    u.descriptor inputs (Trail.move {} .validating)
  rw [Trail.foldl_call] at hvalidate
  simp only [live, moveTo, StateT.run_bind, StateT.run_modify, pure_bind, hvalidate]
  rfl

/-- What a step has come to, by its outcome, its trail and the calls behind those of the
verifiers. -/
structure Lived (u : WorkUnit) (inputs : Inputs) (outcome : Except StepError Outputs)
    (trail : Trail) (later : List Call) : Prop where
  run_eq : (u.live inputs).run {} = (.ok outcome, trail)
  perform_eq : u.perform inputs = .ok ⟨trail.path, outcome⟩
  course : u.Course inputs outcome later
  calls_eq : trail.calls = (u.descriptor.asked inputs).map .verifier ++ later
  legal : trail.Legal
  state_eq : trail.state = match outcome with
    | .ok _ => .succeeded
    | .error _ => .failed

theorem lived_of_violation {violation : Violation}
    (hv : u.descriptor.violation? inputs = some violation) :
    u.Lived inputs (.error (.invalid u.id violation))
      (((u.validated inputs).move .invalid).move .failed) [] where
  run_eq := by
    rw [run_live, hv]
    rfl
  perform_eq := by
    simp only [perform, hv]
    rfl
  course := .refused (by simp only [Descriptor.validateInputs, hv])
  calls_eq := (List.append_nil _).symm
  legal := ((validated_legal u inputs).move rfl).move rfl
  state_eq := rfl

theorem lived_of_rejected {reason : String} (hv : u.descriptor.violation? inputs = none)
    (hcheck : u.check inputs = .rejected reason) :
    u.Lived inputs (.error (.invalid u.id (.selfCheckFailed u.id reason)))
      ((((u.validated inputs).call .check).move .invalid).move .failed) [.check] where
  run_eq := by
    rw [run_live, hv]
    simp only [conclude, hcheck]
    rfl
  perform_eq := by
    simp only [perform, hv, hcheck]
    rfl
  course := .rejected (by simp only [Descriptor.validateInputs, hv]) hcheck
  calls_eq := rfl
  legal := (((validated_legal u inputs).call .check).move rfl).move rfl
  state_eq := rfl

/-- The trail of a step whose work has been called. -/
def working (u : WorkUnit) (inputs : Inputs) : Trail :=
  ((((u.validated inputs).call .check).move .valid).move .executing).call .work

theorem working_legal (u : WorkUnit) (inputs : Inputs) : (u.working inputs).Legal :=
  ((((validated_legal u inputs).call .check).move rfl).move rfl).call .work

theorem calls_working (u : WorkUnit) (inputs : Inputs) :
    (u.working inputs).calls = (u.descriptor.asked inputs).map .verifier ++ [.check, .work] :=
  List.append_assoc _ [Call.check] [Call.work]

theorem executeStep_eq (u : WorkUnit) (inputs : Inputs) :
    u.executeStep inputs = match (u.execute inputs).result with
      | .ok outputs => ⟨startedPath .succeeded, .ok outputs⟩
      | .error causes => ⟨startedPath .failed, .error (.unitExecution u.id causes)⟩ := by
  unfold executeStep
  cases u.execute inputs with
  | returned outputs => rfl
  | failed causes => rfl
  | crashed crash => rfl

theorem lived_of_returned {outputs : Outputs} (hv : u.descriptor.violation? inputs = none)
    (hcheck : u.check inputs = .accepted) (hexec : (u.execute inputs).result = .ok outputs) :
    u.Lived inputs (.ok outputs) ((u.working inputs).move .succeeded) [.check, .work] where
  run_eq := by
    rw [run_live, hv]
    simp only [conclude, doWork, hcheck, hexec]
    rfl
  perform_eq := by
    simp only [perform, hv, hcheck, executeStep_eq, hexec]
    rfl
  course := .returned (by simp only [Descriptor.validateInputs, hv]) hcheck hexec
  calls_eq := calls_working u inputs
  legal := (working_legal u inputs).move rfl
  state_eq := rfl

theorem lived_of_failed {causes : List String} (hv : u.descriptor.violation? inputs = none)
    (hcheck : u.check inputs = .accepted) (hexec : (u.execute inputs).result = .error causes) :
    u.Lived inputs (.error (.unitExecution u.id causes)) ((u.working inputs).move .failed)
      [.check, .work] where
  run_eq := by
    rw [run_live, hv]
    simp only [conclude, doWork, hcheck, hexec]
    rfl
  perform_eq := by
    simp only [perform, hv, hcheck, executeStep_eq, hexec]
    rfl
  course := .failed (by simp only [Descriptor.validateInputs, hv]) hcheck hexec
  calls_eq := calls_working u inputs
  legal := (working_legal u inputs).move rfl
  state_eq := rfl

/-- Every step takes one of the courses, unless the unit's own check crashes. -/
theorem exists_lived (u : WorkUnit) (inputs : Inputs)
    (hcheck : ∀ crash, u.check inputs ≠ .crashed crash) :
    ∃ outcome trail later, u.Lived inputs outcome trail later := by
  cases hv : u.descriptor.violation? inputs with
  | some violation => exact ⟨_, _, _, lived_of_violation hv⟩
  | none =>
      cases hself : u.check inputs with
      | crashed crash => exact absurd hself (hcheck crash)
      | rejected reason => exact ⟨_, _, _, lived_of_rejected hv hself⟩
      | accepted =>
          cases hexec : (u.execute inputs).result with
          | ok outputs => exact ⟨_, _, _, lived_of_returned hv hself hexec⟩
          | error causes => exact ⟨_, _, _, lived_of_failed hv hself hexec⟩

/-! ## What is called -/

section Called

variable {outcome : Except StepError Outputs} {later : List Call}

theorem Course.check_mem_iff (h : u.Course inputs outcome later) :
    Call.check ∈ later ↔ u.descriptor.validateInputs inputs = .ok () := by
  cases h with
  | refused hv => simp [hv]
  | rejected hv _ => simp [hv]
  | returned hv _ _ => simp [hv]
  | failed hv _ _ => simp [hv]

theorem Course.work_mem_iff (h : u.Course inputs outcome later) :
    Call.work ∈ later ↔
      u.descriptor.validateInputs inputs = .ok () ∧ u.check inputs = .accepted := by
  cases h with
  | refused hv => simp [hv]
  | rejected _ hcheck => simp [hcheck]
  | returned hv hcheck _ => simp [hv, hcheck]
  | failed hv hcheck _ => simp [hv, hcheck]

theorem Course.countP_isWork_le (h : u.Course inputs outcome later) :
    later.countP Call.isWork ≤ 1 := by
  cases h with
  | refused _ => exact Nat.zero_le 1
  | rejected _ _ => exact Nat.zero_le 1
  | returned _ _ _ => exact Nat.le_refl 1
  | failed _ _ _ => exact Nat.le_refl 1

/-- The verifiers are called before anything else, and their calls are no others. -/
theorem Lived.mem_calls_iff {trail : Trail} {c : Call} (h : u.Lived inputs outcome trail later)
    (hc : ∀ q, c ≠ .verifier q) : c ∈ trail.calls ↔ c ∈ later := by
  rw [h.calls_eq, List.mem_append]
  refine or_iff_right fun hmem => ?_
  obtain ⟨q, -, hq⟩ := List.mem_map.mp hmem
  exact hc q hq.symm

theorem Lived.countP_isWork_le {trail : Trail} (h : u.Lived inputs outcome trail later) :
    trail.calls.countP Call.isWork ≤ 1 := by
  have hverifiers : ((u.descriptor.asked inputs).map Call.verifier).countP Call.isWork = 0 := by
    rw [List.countP_map, List.countP_eq_zero]
    intro q _ hq
    cases hq
  rw [h.calls_eq, List.countP_append, hverifiers, Nat.zero_add]
  exact h.course.countP_isWork_le

/-! ## Where the step ends -/

theorem Lived.succeeded_iff {trail : Trail} (h : u.Lived inputs outcome trail later) :
    trail.state = .succeeded ↔ ∃ outputs, outcome = .ok outputs := by
  rw [h.state_eq]
  cases outcome with
  | ok outputs => simp
  | error error => simp

theorem Lived.failed_iff {trail : Trail} (h : u.Lived inputs outcome trail later) :
    trail.state = .failed ↔ ∃ error, outcome = .error error := by
  rw [h.state_eq]
  cases outcome with
  | ok outputs => simp
  | error error => simp

end Called

end Live

/-- A step whose check of its own does not crash takes one of the courses.  The check is called just
when the contract is satisfied and the work just when the check has accepted, and once at most.  Its
moves start in the first state, none is refused, and it ends in success or in failure as its result
says. -/
theorem step_keeps_to_life_cycle (u : WorkUnit) (inputs : Inputs)
    (hcheck : ∀ crash, u.check inputs ≠ .crashed crash) :
    ∃ outcome trail later, (u.live inputs).run {} = (.ok outcome, trail) ∧
      u.perform inputs = .ok ⟨trail.path, outcome⟩ ∧
      u.Course inputs outcome later ∧
      trail.calls = (u.descriptor.asked inputs).map .verifier ++ later ∧
      (Call.check ∈ trail.calls ↔ u.descriptor.validateInputs inputs = .ok ()) ∧
      (Call.work ∈ trail.calls ↔
        u.descriptor.validateInputs inputs = .ok () ∧ u.check inputs = .accepted) ∧
      trail.calls.countP Call.isWork ≤ 1 ∧
      trail.Legal ∧
      (trail.state = .succeeded ↔ ∃ outputs, outcome = .ok outputs) ∧
      (trail.state = .failed ↔ ∃ error, outcome = .error error) := by
  obtain ⟨outcome, trail, later, h⟩ := exists_lived u inputs hcheck
  refine ⟨outcome, trail, later, h.run_eq, h.perform_eq, h.course, h.calls_eq, ?_, ?_,
    h.countP_isWork_le, h.legal, h.succeeded_iff, h.failed_iff⟩
  · exact (h.mem_calls_iff (fun q => Call.noConfusion)).trans h.course.check_mem_iff
  · exact (h.mem_calls_iff (fun q => Call.noConfusion)).trans h.course.work_mem_iff

/-- The guarded contract without its verifier that crashes, and work that crashes. -/
def overloaded : WorkUnit where
  descriptor := (Descriptor.ofId "overloaded" "1").withInput "path"
    { type := .string, required := true, verifiers := [Descriptor.always, Descriptor.seesFlag] }
  check _ := .accepted
  execute _ := .crashed ⟨some "out of memory"⟩

/-- The two verifiers, the check and the work are called in this order, and the crash is a failure
that the life cycle has a place for. -/
theorem step_keeps_to_life_cycle_overloaded :
    (∀ crash, overloaded.check Descriptor.guardedInputs ≠ .crashed crash) ∧
    ∃ trail : Trail,
      overloaded.perform Descriptor.guardedInputs =
        .ok ⟨trail.path, .error (.unitExecution "overloaded" ["panicked: out of memory"])⟩ ∧
      trail.calls =
        [.verifier ⟨"path", Descriptor.always, .ofString "p"⟩,
          .verifier ⟨"path", Descriptor.seesFlag, .ofString "p"⟩, .check, .work] ∧
      trail.Legal ∧ trail.state = .failed := by
  have hcheck : ∀ crash, overloaded.check Descriptor.guardedInputs ≠ .crashed crash :=
    fun crash h => SelfCheck.noConfusion h
  obtain ⟨outcome, trail, later, -, hperform, hcourse, hcalls, -, -, -, hlegal, -, hfailed⟩ :=
    step_keeps_to_life_cycle overloaded Descriptor.guardedInputs hcheck
  have hvalid : overloaded.descriptor.validateInputs Descriptor.guardedInputs = .ok () := rfl
  refine ⟨hcheck, trail, ?_⟩
  cases hcourse with
  | refused hv =>
      rw [hvalid] at hv
      cases hv
  | rejected _ h => cases h
  | returned _ _ h => cases h
  | failed _ _ h =>
      cases h
      exact ⟨hperform, hcalls, hlegal, hfailed.mpr ⟨_, rfl⟩⟩

end WorkUnit

end Workplan
