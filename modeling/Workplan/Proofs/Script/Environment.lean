/-
# `Workplan.Proofs.Script.Environment` — which input a variable shows

The inputs of a script are set one after the other, each under its own variable, and a variable
shows what was set last.  No input has the variable that holds all of them, so that one is always
whole (`get?_allInputs`).  Two inputs can have one variable, though: the name of a variable keeps
the letters and digits of a key, without their case, and makes everything else alike
(`inputVariable_eq_iff`).  Then the variable shows the later of the two.
-/
import Mathlib.Data.List.Forall2
import Workplan.CommandUnit
import Workplan.Manifest.Check
import Workplan.Proofs.Table

namespace Workplan

namespace Environment

variable {unit key name : String} {inputs : Inputs} {value : Value}

/-! ## The names of variables -/

theorem inputVariable_ne_allInputs (key : String) : inputVariable key ≠ allInputs := by
  intro h
  have hchars := congrArg String.toList h
  simp [inputVariable, allInputs] at hchars

/-- Two characters that a variable's name does not tell apart: both are no ASCII letters or digits,
or they differ at most in case. -/
def SameInName (c d : Char) : Prop :=
  c.isAlphanum = false ∧ d.isAlphanum = false ∨
    c.isAlphanum = true ∧ d.isAlphanum = true ∧ c.toUpper = d.toUpper

theorem toUpper_ne_underscore {c : Char} (hc : c.isAlphanum = true) : c.toUpper ≠ '_' := by
  have hascii : c.toNat < 128 := by
    have hranges : (decide (65 ≤ c.val ∧ c.val ≤ 90) || (97 ≤ c.val && c.val ≤ 122) ||
        (48 ≤ c.val && c.val ≤ 57)) = true := hc
    simp only [Bool.or_eq_true, Bool.and_eq_true, decide_eq_true_eq,
      UInt32.le_iff_toNat_le] at hranges
    change ((65 ≤ c.toNat ∧ c.toNat ≤ 90) ∨ (97 ≤ c.toNat ∧ c.toNat ≤ 122)) ∨
      (48 ≤ c.toNat ∧ c.toNat ≤ 57) at hranges
    omega
  have hall : ∀ n < 128, (Char.ofNat n).isAlphanum = true → (Char.ofNat n).toUpper ≠ '_' := by
    decide
  have h := hall c.toNat hascii
  rw [Char.ofNat_toNat] at h
  exact h hc

theorem variableChar_eq_iff {c d : Char} : variableChar c = variableChar d ↔ SameInName c d := by
  unfold variableChar SameInName
  cases hc : c.isAlphanum <;> cases hd : d.isAlphanum
  · simp
  · simpa using (toUpper_ne_underscore hd).symm
  · simpa using toUpper_ne_underscore hc
  · simp

/-- Two keys share a variable if, character by character, its name does not tell them apart. -/
theorem inputVariable_eq_iff {k k' : String} :
    inputVariable k = inputVariable k' ↔ List.Forall₂ SameInName k.toList k'.toList := by
  have hmap : inputVariable k = inputVariable k' ↔
      k.toList.map variableChar = k'.toList.map variableChar := by
    rw [← String.toList_inj]
    simp [inputVariable]
  rw [hmap, ← List.forall₂_eq_eq_eq, List.forall₂_map_left_iff, List.forall₂_map_right_iff]
  simp only [variableChar_eq_iff]

/-! ## What a variable shows -/

theorem get?_foldl_set (entries : List (String × Value)) (e : Environment) (name : String) :
    (entries.foldl (fun e i => e.set (inputVariable i.1) (inputText i.2)) e).get? name =
      ((entries.reverse.find? fun i => inputVariable i.1 == name).map
        fun i => inputText i.2).or (e.get? name) := by
  induction entries generalizing e with
  | nil => rfl
  | cons i rest ih =>
      rw [List.foldl_cons, ih, get?_set, List.reverse_cons, List.find?_append, Option.map_or,
        Option.or_assoc]
      congr 1
      by_cases hname : inputVariable i.1 = name <;> simp [hname]

theorem get?_allInputs (unit : String) (inputs : Inputs) :
    (ofInputs unit inputs).get? allInputs = some inputs.toJson.compact := by
  rw [ofInputs, get?_set, if_pos rfl]

/-- The last input that goes by a variable. -/
def LastUnder (inputs : Inputs) (name : String) (last : String × Value) : Prop :=
  inputVariable last.1 = name ∧ ∃ before after, inputs.entries = before ++ last :: after ∧
    ∀ i ∈ after, inputVariable i.1 ≠ name

theorem find?_reverse_eq_some_iff {last : String × Value} :
    (inputs.entries.reverse.find? fun i => inputVariable i.1 == name) = some last ↔
      LastUnder inputs name last := by
  rw [List.find?_eq_some_iff_append, LastUnder, beq_iff_eq]
  refine and_congr_right fun _ => ⟨?_, ?_⟩
  · rintro ⟨after, before, hsplit, hafter⟩
    refine ⟨before.reverse, after.reverse, ?_, fun i hi => ?_⟩
    · rw [← List.reverse_inj, hsplit]
      simp
    · simpa using hafter i (List.mem_reverse.mp hi)
  · rintro ⟨before, after, hsplit, hafter⟩
    refine ⟨after.reverse, before.reverse, ?_, fun i hi => ?_⟩
    · rw [hsplit]
      simp
    · simpa using hafter i (List.mem_reverse.mp hi)

theorem LastUnder.mem {last : String × Value} (h : LastUnder inputs name last) :
    last ∈ inputs.entries := by
  obtain ⟨-, before, after, hsplit, -⟩ := h
  rw [hsplit]
  exact List.mem_append_right before List.mem_cons_self

theorem LastUnder.get? {last : String × Value} (h : LastUnder inputs (inputVariable key) last) :
    (ofInputs unit inputs).get? (inputVariable key) = some (inputText last.2) := by
  rw [ofInputs, get?_set, if_neg (inputVariable_ne_allInputs key).symm, get?_foldl_set,
    find?_reverse_eq_some_iff.mpr h]
  rfl

theorem exists_lastUnder (h : inputs.get? key = some value) :
    ∃ last, LastUnder inputs (inputVariable key) last := by
  cases hfind : inputs.entries.reverse.find? fun i => inputVariable i.1 == inputVariable key with
  | some last => exact ⟨last, find?_reverse_eq_some_iff.mp hfind⟩
  | none =>
      have hmem := List.mem_reverse.mpr (Table.get?_eq_some_iff.mp h)
      simpa using List.find?_eq_none.mp hfind (key, value) hmem

/-! ## Every input under its own variable -/

/-- The variable of every input shows that input. -/
def ShowsEach (e : Environment) (inputs : Inputs) : Prop :=
  ∀ key value, inputs.get? key = some value → e.get? (inputVariable key) = some (inputText value)

/-- All inputs are shown as long as those with one variable have one text. -/
theorem showsEach_iff :
    (ofInputs unit inputs).ShowsEach inputs ↔
      ∀ i ∈ inputs.entries, ∀ i' ∈ inputs.entries, inputVariable i.1 = inputVariable i'.1 →
        inputText i.2 = inputText i'.2 := by
  constructor
  · intro hshows i hi i' hi' hname
    have hshown := hshows i.1 i.2 (Table.get?_eq_some_iff.mpr hi)
    rw [hname] at hshown
    have hshown' := hshows i'.1 i'.2 (Table.get?_eq_some_iff.mpr hi')
    exact Option.some.inj (hshown.symm.trans hshown')
  · intro htexts key value h
    obtain ⟨last, hlast⟩ := exists_lastUnder h
    have htext := htexts last hlast.mem (key, value) (Table.get?_eq_some_iff.mp h) hlast.1
    rw [hlast.get?, htext]

theorem showsEach_of_injOn {keys : List String} (hkeys : ∀ key ∈ inputs.keys, key ∈ keys)
    (hinj : ∀ k ∈ keys, ∀ k' ∈ keys, inputVariable k = inputVariable k' → k = k') :
    (ofInputs unit inputs).ShowsEach inputs := by
  refine showsEach_iff.mpr fun i hi i' hi' hname => ?_
  have hkey := hinj i.1 (hkeys i.1 (List.mem_map_of_mem hi)) i'.1
    (hkeys i'.1 (List.mem_map_of_mem hi')) hname
  have hvalue := Table.get?_eq_some_iff.mpr hi
  rw [hkey] at hvalue
  rw [Option.some.inj (hvalue.symm.trans (Table.get?_eq_some_iff.mpr hi'))]

/-- Two texts under two keys. -/
def twoTexts {k k' : String} (h : k ≠ k') (text text' : String) : Inputs where
  entries := [(k, .ofString text), (k', .ofString text')]
  distinct := by simpa using h

theorem eq_of_showsEach_twoTexts {k k' text text' : String} (hne : k ≠ k')
    (hname : inputVariable k = inputVariable k')
    (h : (ofInputs unit (twoTexts hne text text')).ShowsEach (twoTexts hne text text')) :
    text = text' :=
  showsEach_iff.mp h (k, .ofString text) (by simp [twoTexts]) (k', .ofString text')
    (by simp [twoTexts]) hname

/-- The variable of an input shows the last input that goes by it.  So a unit is shown every input
that it can be handed exactly if no two of its declared keys go by one variable, that is, differ
only in case and in what is no letter or digit. -/
theorem variable_shows_last_input (unit : String) (u : UnitSpec) :
    (∀ (inputs : Inputs) (key : String) (value : Value), inputs.get? key = some value →
      ∃ last, LastUnder inputs (inputVariable key) last ∧
        (ofInputs unit inputs).get? (inputVariable key) = some (inputText last.2)) ∧
    ((∀ inputs : Inputs, (∀ key ∈ inputs.keys, key ∈ u.inputs.keys) →
        (∀ i ∈ inputs.entries, ∃ j, i.2 = .data j) → (ofInputs unit inputs).ShowsEach inputs) ↔
      ∀ k ∈ u.inputs.keys, ∀ k' ∈ u.inputs.keys,
        List.Forall₂ SameInName k.toList k'.toList → k = k') := by
  simp only [← inputVariable_eq_iff]
  refine ⟨fun inputs key value h => ?_, fun hshows k hk k' hk' hname => ?_,
    fun hinj inputs hkeys _ => showsEach_of_injOn hkeys hinj⟩
  · obtain ⟨last, hlast⟩ := exists_lastUnder h
    exact ⟨last, hlast, hlast.get?⟩
  · by_contra hne
    have hover : ∀ key ∈ [k, k'], key ∈ u.inputs.keys := by simp [hk, hk']
    have hdata : ∀ i ∈ (twoTexts hne "" "a").entries, ∃ j, i.2 = .data j := by
      simp [twoTexts, Value.ofString]
    have htext := eq_of_showsEach_twoTexts hne hname (hshows _ hover hdata)
    exact absurd htext (by decide)

/-! ### Two inputs with one variable -/

/-- A unit with two inputs whose keys differ in a punctuation mark. -/
def twinInputs : UnitSpec where
  inputs := Table.ofList
    [("a.b", { type := .string, required := true }), ("a_b", { type := .string, required := true })]
  outputs := ["seen"]
  run := some "echo $CAPFORGE_IN_A_B"

/-- The manifest with this unit. -/
def twins : Manifest where
  version := "1.0"
  name := "twins"
  units := Table.ofList [("org.twins", twinInputs)]

theorem problems_twins : twins.problems .fresh = [] := by
  decide +kernel

/-- Texts for both inputs. -/
def twinTexts : Inputs := twoTexts (show "a.b" ≠ "a_b" by decide) "1" "2"

theorem variable_shows_last_input_twins :
    (∃ last, LastUnder twinTexts (inputVariable "a.b") last ∧
      (ofInputs "org.twins" twinTexts).get? (inputVariable "a.b") = some (inputText last.2)) ∧
    ¬ ∀ k ∈ twinInputs.inputs.keys, ∀ k' ∈ twinInputs.inputs.keys,
      List.Forall₂ SameInName k.toList k'.toList → k = k' := by
  obtain ⟨hlast, -⟩ := variable_shows_last_input "org.twins" twinInputs
  refine ⟨hlast twinTexts "a.b" (.ofString "1") rfl, fun h => ?_⟩
  have hname : inputVariable "a.b" = inputVariable "a_b" := by decide
  exact absurd (h "a.b" (by decide) "a_b" (by decide) (inputVariable_eq_iff.mp hname)) (by decide)

/-- The manifest has no problem, its unit is handed a text for each of its two inputs, and in the
variable of the first one it finds the text of the second. -/
theorem input_overwritten_by_twin :
    twins.problems .fresh = [] ∧ twins.units.get? "org.twins" = some twinInputs ∧
    (∀ key ∈ twinTexts.keys, key ∈ twinInputs.inputs.keys) ∧
    (∀ i ∈ twinTexts.entries, ∃ j, i.2 = .data j) ∧
    twinTexts.get? "a.b" = some (.ofString "1") ∧
    (ofInputs "org.twins" twinTexts).get? (inputVariable "a.b") = some "2" ∧
    ¬ (ofInputs "org.twins" twinTexts).ShowsEach twinTexts := by
  have hshown : (ofInputs "org.twins" twinTexts).get? (inputVariable "a.b") = some "2" := by
    decide
  refine ⟨problems_twins, rfl, by decide, ?_, rfl, hshown, fun h => ?_⟩
  · simp [twinTexts, twoTexts, Value.ofString]
  · have htext := eq_of_showsEach_twoTexts (by decide) (by decide) h
    exact absurd htext (by decide)

end Environment

end Workplan
