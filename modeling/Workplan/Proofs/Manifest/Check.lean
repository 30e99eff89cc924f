/-
# `Workplan.Proofs.Manifest.Check` — manifests without problems

Checking a manifest lists problems.  What it means to have none is said here without the lists:
`Manifest.Sound`, `UnitSpec.Sound` and `InputSpec.Sound` are the conditions on a manifest, on each
of its units and on each of their inputs, and a list of problems is empty exactly under them.

The identifiers of sound units are dotted paths.  Of these two things are needed elsewhere: that
they are not blank, and which of their segments is the last.
-/
import Mathlib.Data.List.TakeWhile
import Workplan.Manifest.Check
import Workplan.Proofs.Table

namespace Workplan

/-! ## Dotted paths -/

theorem Descriptor.getLast?_segments (id : String) :
    (segments id).getLast? = some (lastSegment id).toList := by
  have hsplit : id.toList = (id.toList.reverse.dropWhile (· != '.')).reverse ++
      (lastSegment id).toList := by
    rw [lastSegment, String.toList_ofList, ← List.reverse_append, List.takeWhile_append_dropWhile,
      List.reverse_reverse]
  have hlast : '.' ∉ (lastSegment id).toList := by
    rw [lastSegment, String.toList_ofList, List.mem_reverse]
    intro hdot
    simpa using List.mem_takeWhile_imp hdot
  rw [segments]
  generalize (lastSegment id).toList = last at hsplit hlast
  cases hfront : id.toList.reverse.dropWhile (· != '.') with
  | nil =>
      rw [hfront, List.reverse_nil, List.nil_append] at hsplit
      rw [hsplit, List.splitOn_eq_singleton hlast]
      rfl
  | cons c front =>
      obtain rfl : c = '.' := by
        have hdrop := List.head?_dropWhile_not (· != '.') id.toList.reverse
        simpa [hfront] using hdrop
      rw [hfront, List.reverse_cons, List.append_assoc, List.singleton_append] at hsplit
      rw [hsplit, List.splitOn_append_cons_self, List.splitOn_eq_singleton hlast,
        List.getLast?_concat]

/-- A dotted path is not blank: without a dot it would be one segment, and with a dot it has a
character that is no blank. -/
theorem allBlank_of_isDottedPath {id : String} (h : isDottedPath id = true) :
    Text.allBlank id = false := by
  obtain ⟨hne, hsegments⟩ := Bool.and_eq_true_iff.mp h
  by_contra hblank
  have hall : ∀ c ∈ id.toList, Text.isBlank c = true :=
    List.all_eq_true.mp (Bool.of_not_eq_false hblank)
  have hnodot : '.' ∉ id.toList := fun hdot => absurd (hall '.' hdot) (by decide)
  rw [Descriptor.segments, List.splitOn_eq_singleton hnodot] at hsegments
  simp only [List.all_cons, List.all_nil, Bool.and_true, Bool.and_eq_true, Bool.not_eq_true',
    List.isEmpty_eq_false_iff, List.any_eq_false] at hsegments
  obtain ⟨hchars, hvisible⟩ := hsegments
  obtain ⟨c, hc⟩ := List.exists_mem_of_ne_nil _ hchars
  exact hvisible c hc (hall c hc)

/-! ## Conditions -/

/-- An input that a unit of a manifest can be handed: it has a name, is no port, is judged by
verifiers of the catalog, and is not required of the unit's own outputs. -/
structure InputSpec.Sound (host : Host) (u : UnitSpec) (key : String) (input : InputSpec) :
    Prop where
  named : Text.allBlank key = false
  shellType : ∀ interface, input.type ≠ .port interface
  verifiers : ∀ name ∈ input.verify, ∃ v, Catalog.resolve host name = .ok v
  foreign : input.required = true → key ∉ u.outputs

/-- A unit that a manifest can describe, next to units with known identifiers. -/
structure UnitSpec.Sound (host : Host) (known : List String) (id : String) (u : UnitSpec) :
    Prop where
  dotted : isDottedPath id = true
  script : ∃ script, u.script? = some script
  inputs : ∀ e ∈ u.inputs.entries, InputSpec.Sound host u e.1 e.2
  outputs_named : ∀ key ∈ u.outputs, Text.allBlank key = false
  outputs_nodup : u.outputs.Nodup
  requests : ∀ q ∈ u.requests, q.id ≠ id ∧ q.id ∈ known

/-- A manifest of units that it can describe. -/
structure Manifest.Sound (m : Manifest) (host : Host) : Prop where
  version_eq : m.version = "1.0"
  named : Text.allBlank m.name = false
  units : ∀ e ∈ m.units.entries, UnitSpec.Sound host m.units.keys e.1 e.2

/-! ## No problems -/

@[simp] theorem Problem.given_eq_nil_iff {b : Bool} {p : Problem} :
    Problem.given b p = [] ↔ b = false := by
  cases b <;> simp [Problem.given]

namespace UnitSpec

variable {host : Host} {known : List String} {id : String} {u : UnitSpec}

theorem inputProblems_eq_nil_iff {key : String} {input : InputSpec} :
    inputProblems host id u key input = [] ↔ InputSpec.Sound host u key input := by
  simp only [inputProblems, List.append_eq_nil_iff, Problem.given_eq_nil_iff,
    List.filterMap_eq_nil_iff, Bool.and_eq_false_imp, List.contains_eq_mem,
    decide_eq_false_iff_not]
  constructor
  · rintro ⟨⟨⟨hnamed, htype⟩, hverify⟩, hforeign⟩
    refine ⟨hnamed, fun interface hport => ?_, fun name hname => ?_, hforeign⟩
    · rw [hport] at htype
      cases htype
    · have hnone := hverify name hname
      cases hresolve : Catalog.resolve host name with
      | ok v => exact ⟨v, rfl⟩
      | error cause =>
          rw [hresolve] at hnone
          cases hnone
  · rintro ⟨hnamed, htype, hverify, hforeign⟩
    refine ⟨⟨⟨hnamed, ?_⟩, fun name hname => ?_⟩, hforeign⟩
    · cases hport : input.type with
      | port interface => exact absurd hport (htype interface)
      | _ => rfl
    · obtain ⟨v, hv⟩ := hverify name hname
      rw [hv]

theorem outputProblems_eq_nil_iff {keys seen : List String} :
    outputProblems id seen keys = [] ↔
      (∀ key ∈ keys, Text.allBlank key = false) ∧ keys.Nodup ∧ ∀ key ∈ keys, key ∉ seen := by
  induction keys generalizing seen with
  | nil => simp [outputProblems]
  | cons key rest ih =>
      rw [outputProblems]
      by_cases hblank : Text.allBlank key = true
      · simp [hblank]
      · by_cases hseen : key ∈ seen
        · simp [hblank, hseen]
        · simp only [hblank, Bool.false_eq_true, if_false, List.contains_eq_mem, hseen,
            decide_false, ih, List.nodup_cons, List.mem_cons, forall_eq_or_imp, not_or,
            not_false_eq_true, true_and]
          constructor
          · rintro ⟨hnamed, hnodup, hnew⟩
            exact ⟨hnamed, ⟨fun hkey => (hnew key hkey).1 rfl, hnodup⟩, fun k hk => (hnew k hk).2⟩
          · rintro ⟨hnamed, ⟨hkey, hnodup⟩, hnew⟩
            exact ⟨hnamed, hnodup, fun k hk => ⟨fun e => hkey (e ▸ hk), hnew k hk⟩⟩

theorem requestProblem_eq_nil_iff {q : Request} :
    requestProblem id known q = [] ↔ q.id ≠ id ∧ q.id ∈ known := by
  by_cases hself : q.id = id <;> simp [requestProblem, hself]

theorem problems_eq_nil_iff : u.problems host known id = [] ↔ u.Sound host known id := by
  have hscript : u.script?.isNone = false ↔ ∃ script, u.script? = some script := by
    cases u.script? <;> simp
  simp only [problems, List.append_eq_nil_iff, Problem.given_eq_nil_iff, Bool.not_eq_false',
    hscript, List.flatMap_eq_nil_iff, inputProblems_eq_nil_iff, outputProblems_eq_nil_iff,
    requestProblem_eq_nil_iff]
  constructor
  · rintro ⟨⟨⟨⟨hdotted, hscript⟩, hinputs⟩, hnamed, hnodup, -⟩, hrequests⟩
    exact ⟨hdotted, hscript, hinputs, hnamed, hnodup, hrequests⟩
  · rintro ⟨hdotted, hscript, hinputs, hnamed, hnodup, hrequests⟩
    exact ⟨⟨⟨⟨hdotted, hscript⟩, hinputs⟩, hnamed, hnodup, fun _ _ => List.not_mem_nil⟩,
      hrequests⟩

end UnitSpec

theorem Manifest.problems_eq_nil_iff {m : Manifest} {host : Host} :
    m.problems host = [] ↔ m.Sound host := by
  simp only [problems, List.append_eq_nil_iff, Problem.given_eq_nil_iff, bne_eq_false_iff_eq,
    List.flatMap_eq_nil_iff, UnitSpec.problems_eq_nil_iff]
  constructor
  · rintro ⟨⟨hversion, hnamed⟩, hunits⟩
    exact ⟨hversion, hnamed, hunits⟩
  · rintro ⟨hversion, hnamed, hunits⟩
    exact ⟨⟨hversion, hnamed⟩, hunits⟩

end Workplan
