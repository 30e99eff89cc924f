/-
# `Workplan.Proofs.Step` — what a step makes of its inputs

A step that ends with outputs has them from the work itself, on the inputs it was handed, and ends
in success.  A step that is fed, which is handed every input that it requires, may fail for many
reasons, but never because an input is missing.  Only a crash of the unit's own check leaves a step
without a result.
-/
import Workplan.Proofs.Table
import Workplan.Step

namespace Workplan

/-- The inputs hold everything that the unit requires. -/
def WorkUnit.Fed (u : WorkUnit) (inputs : Inputs) : Prop :=
  ∀ key ∈ u.descriptor.requiredKeys, inputs.contains key = true

/-- Whenever the work returns, it returns at least the declared outputs. -/
def WorkUnit.ReturnsDeclared (u : WorkUnit) : Prop :=
  ∀ inputs outputs, u.execute inputs = .returned outputs →
    ∀ key, u.descriptor.produces key = true → outputs.contains key = true

/-- Whenever the work returns, it returns exactly the declared outputs. -/
def WorkUnit.ReturnsExactly (u : WorkUnit) : Prop :=
  ∀ inputs outputs, u.execute inputs = .returned outputs →
    ∀ key, outputs.contains key = u.descriptor.produces key

theorem WorkUnit.ReturnsExactly.returnsDeclared {u : WorkUnit} (h : u.ReturnsExactly) :
    u.ReturnsDeclared :=
  fun inputs outputs hexec key hkey => (h inputs outputs hexec key).trans hkey

/-- The unit's own check never crashes. -/
def WorkUnit.ChecksSafely (u : WorkUnit) : Prop :=
  ∀ inputs crash, u.check inputs ≠ .crashed crash

/-- The failure is that of a required input that is absent. -/
def StepError.IsMissingInput (e : StepError) : Prop :=
  ∃ unit key, e = .invalid unit (.missingRequiredInput key)

namespace Descriptor

variable {d : Descriptor} {inputs : Inputs} {key : String}

theorem typeViolation?_ne_missing (name : String) (p : Property) :
    typeViolation? inputs name p ≠ some (.missingRequiredInput key) := by
  unfold typeViolation?
  split
  · exact nofun
  · split
    · exact nofun
    · exact nofun

theorem verdictViolation?_ne_missing (name verifier : String) (v : Verdict) :
    verdictViolation? name verifier v ≠ some (.missingRequiredInput key) := by
  cases v <;> simp [verdictViolation?]

theorem verifierViolation?_ne_missing (name : String) (p : Property) :
    verifierViolation? inputs name p ≠ some (.missingRequiredInput key) := by
  unfold verifierViolation?
  split
  · exact nofun
  · intro h
    obtain ⟨v, -, hv⟩ := List.exists_of_findSome?_eq_some h
    exact verdictViolation?_ne_missing _ _ _ hv

theorem violation?_ne_missing (h : ∀ key ∈ d.requiredKeys, inputs.contains key = true) :
    d.violation? inputs ≠ some (.missingRequiredInput key) := by
  have hnone : d.missingInput? inputs = none := by
    simp only [missingInput?, Option.map_eq_none_iff, List.find?_eq_none]
    intro k hk
    simp [h k hk]
  simp only [violation?, hnone, Option.none_or]
  intro hv
  rcases Option.or_eq_some_iff.mp hv with ht | ⟨-, hw⟩
  · obtain ⟨e, -, he⟩ := List.exists_of_findSome?_eq_some ht
    exact typeViolation?_ne_missing _ _ he
  · obtain ⟨e, -, he⟩ := List.exists_of_findSome?_eq_some hw
    exact verifierViolation?_ne_missing _ _ he

end Descriptor

namespace WorkUnit

variable {u : WorkUnit} {inputs : Inputs} {result : StepResult}

theorem execute_of_perform (h : u.perform inputs = .ok result) {outputs : Outputs}
    (hok : result.outcome = .ok outputs) : u.execute inputs = .returned outputs := by
  unfold perform at h
  split at h
  · cases h
    cases hok
  · split at h
    · cases h
    · cases h
      cases hok
    · cases h
      unfold executeStep at hok
      split at hok
      · cases hok
        assumption
      · cases hok
      · cases hok

theorem not_isMissingInput_of_perform (hfed : u.Fed inputs) (h : u.perform inputs = .ok result)
    {cause : StepError} (herr : result.outcome = .error cause) : ¬ cause.IsMissingInput := by
  rintro ⟨unit, key, rfl⟩
  unfold perform at h
  split at h
  · rename_i v hv
    cases h
    cases herr
    exact Descriptor.violation?_ne_missing hfed hv
  · split at h
    · cases h
    · cases h
      cases herr
    · cases h
      unfold executeStep at herr
      split at herr <;> cases herr

theorem execute_of_performContained {outputs : Outputs}
    (hok : (u.performContained inputs).outcome = .ok outputs) :
    u.execute inputs = .returned outputs := by
  unfold performContained at hok
  split at hok
  · rename_i result h
    exact execute_of_perform h hok
  · cases hok

theorem not_isMissingInput_of_performContained (hfed : u.Fed inputs) {cause : StepError}
    (herr : (u.performContained inputs).outcome = .error cause) : ¬ cause.IsMissingInput := by
  unfold performContained at herr
  split at herr
  · rename_i result h
    exact not_isMissingInput_of_perform hfed h herr
  · cases herr
    rintro ⟨unit, key, h⟩
    cases h

theorem state_of_perform (h : u.perform inputs = .ok result) {outputs : Outputs}
    (hok : result.outcome = .ok outputs) :
    result.state = .succeeded := by
  unfold perform at h
  split at h
  · cases h
    cases hok
  · split at h
    · cases h
    · cases h
      cases hok
    · cases h
      unfold executeStep at hok ⊢
      split
      · rfl
      · simp_all
      · simp_all

theorem performContained_of_perform (h : u.perform inputs = .ok result) :
    u.performContained inputs = result := by
  simp only [performContained, h]

theorem state_of_performContained {outputs : Outputs}
    (hok : (u.performContained inputs).outcome = .ok outputs) :
    (u.performContained inputs).state = .succeeded := by
  cases h : u.perform inputs with
  | ok result =>
      rw [performContained_of_perform h] at hok ⊢
      exact state_of_perform h hok
  | error crash => simp [performContained, h] at hok

theorem state_of_performContained_error {cause : StepError}
    (herr : (u.performContained inputs).outcome = .error cause) :
    (u.performContained inputs).state = .failed := by
  unfold performContained perform at herr ⊢
  cases hv : u.descriptor.violation? inputs with
  | some v => rfl
  | none =>
      cases hcheck : u.check inputs with
      | crashed crash => rfl
      | rejected reason => rfl
      | accepted =>
          simp only [hv, hcheck] at herr ⊢
          unfold executeStep at herr ⊢
          cases hexec : u.execute inputs with
          | returned outputs => simp only [hexec] at herr; cases herr
          | failed causes => rfl
          | crashed crash => rfl

/-- Without a crash of the unit's own check, a step has a result. -/
theorem ChecksSafely.exists_result (h : u.ChecksSafely) (inputs : Inputs) :
    ∃ result, u.perform inputs = .ok result := by
  unfold perform
  split
  · exact ⟨_, rfl⟩
  · split
    · rename_i crash hcrash
      exact absurd hcrash (h inputs crash)
    · exact ⟨_, rfl⟩
    · exact ⟨_, rfl⟩

end WorkUnit

end Workplan
