/-
# `Workplan.Proofs.Script.Outputs` — inputs that come back as outputs

A script is handed all its inputs as the text of one object, and an object in what it writes becomes
its outputs.  Between the two stand the printer and the reader, the order of the fields and the
blanks around the text; a script that writes what it was handed gets its inputs back, under the same
keys, now in order (`outputs_of_printed_inputs`).
-/
import Workplan.Proofs.Json.Values
import Workplan.Proofs.Script.Environment
import Workplan.Proofs.Text.Blank
import Workplan.Proofs.Text.Order

namespace Workplan

open Json

/-! ## The text of an object -/

namespace Json

theorem getLast?_fieldChars (fields : List (String × Json)) :
    (fieldChars fields).getLast? = some '\x7d' := by
  induction fields with
  | nil => rfl
  | cons f rest ih =>
      obtain ⟨n, j⟩ := f
      rw [fieldChars, List.getLast?_append, ih]
      rfl

theorem edges_obj (fields : List (String × Json)) :
    (Json.obj fields).chars.head? = some '\x7b' ∧
      (Json.obj fields).chars.getLast? = some '\x7d' := by
  cases fields with
  | nil => exact ⟨rfl, rfl⟩
  | cons f rest =>
      obtain ⟨n, j⟩ := f
      refine ⟨rfl, ?_⟩
      rw [chars, List.getLast?_append, getLast?_fieldChars]
      rfl

theorem trim_padded_obj (fields : List (String × Json)) {before after : String}
    (hbefore : Text.allBlank before = true) (hafter : Text.allBlank after = true) :
    Text.trim (before ++ (Json.obj fields).compact ++ after) = (Json.obj fields).compact := by
  obtain ⟨hhead, hlast⟩ := edges_obj fields
  have hne : (Json.obj fields).chars ≠ [] := by
    intro hnil
    rw [hnil] at hhead
    cases hhead
  have htrim := Text.trimChars_padded (List.all_eq_true.mp hbefore) (List.all_eq_true.mp hafter) hne
    (by simp [hhead]; decide) (by simp [hlast]; decide)
  rw [Text.trim, String.toList_append, String.toList_append, List.append_assoc, compact,
    String.toList_ofList, htrim]

end Json

/-! ## The object of a table -/

/-- Data with integers only, in the form that values have. -/
def Value.Plain : Value → Prop
  | .data j => j.Canonical ∧ j.Integral
  | .port _ => False

theorem Value.Plain.data_toJson {v : Value} (h : v.Plain) : .data v.toJson = v := by
  cases v with
  | data j => rfl
  | port p => exact absurd h id

theorem Value.Plain.toJson {v : Value} (h : v.Plain) : v.toJson.Canonical ∧ v.toJson.Integral := by
  cases v with
  | data j => exact h
  | port p => exact absurd h id

namespace Table

variable {values : Table Value}

/-- The fields of the object that holds a table: its entries, sorted by key. -/
def fields (values : Table Value) : List (String × Json) :=
  sortFields (values.entries.map fun e => (e.1, e.2.toJson))

theorem pairwise_fields (values : Table Value) : (values.fields.map Prod.fst).Pairwise (· < ·) :=
  pairwise_sortFields _

theorem perm_fields (values : Table Value) :
    values.fields.Perm (values.entries.map fun e => (e.1, e.2.toJson)) := by
  refine perm_sortFields ?_
  rw [List.map_map]
  exact values.distinct

theorem forall_mem_fields {p : Json → Prop} (h : ∀ e ∈ values.entries, p e.2.toJson) :
    ∀ f ∈ values.fields, p f.2 := by
  intro f hf
  obtain ⟨e, he, rfl⟩ := List.mem_map.mp (values.perm_fields.mem_iff.mp hf)
  exact h e he

theorem parse_toJson (hplain : ∀ e ∈ values.entries, e.2.Plain)
    (hnesting : values.toJson.nesting ≤ maxDepth) :
    parse values.toJson.compact = some (.obj values.fields) := by
  have hcanonical : ∀ f ∈ values.fields, f.2.Canonical :=
    forall_mem_fields fun e he => (hplain e he).toJson.1
  have hintegral : ∀ f ∈ values.fields, f.2.Integral :=
    forall_mem_fields fun e he => (hplain e he).toJson.2
  refine parse_compact ⟨values.pairwise_fields, canonicalFields_iff.mpr hcanonical⟩ ?_
  exact readable_of_integral _ (integralFields_iff.mpr hintegral) hnesting

theorem perm_entries (hplain : ∀ e ∈ values.entries, e.2.Plain) :
    (values.fields.map fun f => (f.1, Value.data f.2)).Perm values.entries := by
  have hperm := values.perm_fields.map fun f => (f.1, Value.data f.2)
  have hself : (values.entries.map fun e => (e.1, e.2.toJson)).map
      (fun f => (f.1, Value.data f.2)) = values.entries := by
    rw [List.map_map]
    refine (List.map_congr_left fun e he => ?_).trans (List.map_id values.entries)
    show (e.1, Value.data e.2.toJson) = e
    rw [(hplain e he).data_toJson]
  rwa [hself] at hperm

theorem names_fields (values : Table Value) : values.fields.map Prod.fst = values.sortedKeys := by
  refine Text.eq_of_sorted_of_mem_iff values.pairwise_fields
    (Text.pairwise_lt_mergeSort values.distinct) fun key => ?_
  rw [(values.perm_fields.map Prod.fst).mem_iff, sortedKeys, List.mem_mergeSort, List.map_map]
  rfl

/-- The table of the fields binds the same keys, now in order, to the same values. -/
theorem ofList_fields (hplain : ∀ e ∈ values.entries, e.2.Plain) :
    (ofList (values.fields.map fun f => (f.1, Value.data f.2))).keys = values.sortedKeys ∧
      ∀ key, (ofList (values.fields.map fun f => (f.1, Value.data f.2))).get? key =
        values.get? key := by
  have hnames : (values.fields.map fun f => (f.1, Value.data f.2)).map Prod.fst =
      values.sortedKeys := by
    rw [List.map_map]
    exact values.names_fields
  have hnodup : ((values.fields.map fun f => (f.1, Value.data f.2)).map Prod.fst).Nodup := by
    rw [hnames]
    exact (Text.pairwise_lt_mergeSort values.distinct).imp ne_of_lt
  have hentries := entries_ofList hnodup
  constructor
  · rw [keys, hentries, hnames]
  · intro key
    refine get?_of_perm ?_ key
    rw [hentries]
    exact perm_entries hplain

end Table

/-! ## What a script gives back -/

namespace CommandUnit

theorem readOutputs_obj (declared : KeySet) {stdout : String} {fields : List (String × Json)}
    (h : parse (Text.trim stdout) = some (.obj fields)) :
    readOutputs declared stdout = .ok (Table.ofList (fields.map fun f => (f.1, .data f.2))) := by
  simp only [readOutputs, h]

end CommandUnit

/-- A script that writes all of its inputs as it was handed them, with blanks around them or
without, gives them back as its outputs, in the order of their keys and whatever outputs it
declares.  The variable that hands them over is the variable of no single input. -/
theorem outputs_of_printed_inputs (d : Descriptor) {inputs : Inputs}
    (hplain : ∀ i ∈ inputs.entries, i.2.Plain) (hnesting : inputs.toJson.nesting ≤ maxDepth)
    {before after : String} (hbefore : Text.allBlank before = true)
    (hafter : Text.allBlank after = true) :
    (∀ key, Environment.inputVariable key ≠ Environment.allInputs) ∧
    ∃ text outputs,
      (Environment.ofInputs d.id inputs).get? Environment.allInputs = some text ∧
      CommandUnit.readOutputs d.outputs (before ++ text ++ after) = .ok outputs ∧
      outputs.keys = inputs.sortedKeys ∧ ∀ key, outputs.get? key = inputs.get? key := by
  have htrim : Text.trim (before ++ inputs.toJson.compact ++ after) = inputs.toJson.compact :=
    trim_padded_obj inputs.fields hbefore hafter
  have hparse := Table.parse_toJson hplain hnesting
  rw [← htrim] at hparse
  exact ⟨Environment.inputVariable_ne_allInputs, _, _, Environment.get?_allInputs d.id inputs,
    CommandUnit.readOutputs_obj d.outputs hparse, Table.ofList_fields hplain⟩

/-- A list and an object, under keys that are not in order. -/
def nested : Inputs :=
  Table.ofList
    [("puts", .data (.arr [.num (.int (-1) (by decide)),
        .num (.int 9223372036854775808 (by decide)), .str "a=\"b\"\n"])),
      ("b", .data (.obj [("", .null), ("x", .arr [.bool true])]))]

theorem outputs_of_printed_inputs_nested :
    (∀ i ∈ nested.entries, i.2.Plain) ∧ nested.toJson.nesting ≤ maxDepth ∧
    ∃ text outputs,
      (Environment.ofInputs "u" nested).get? Environment.allInputs = some text ∧
      CommandUnit.readOutputs (KeySet.ofList ["x", "y"]) ("\n " ++ text ++ "\n") = .ok outputs ∧
      outputs.keys = nested.sortedKeys ∧ ∀ key, outputs.get? key = nested.get? key := by
  have hplain : ∀ i ∈ nested.entries, i.2.Plain := by
    rw [nested, Table.entries_ofList (by decide)]
    simp only [Value.Plain, Canonical, CanonicalItems, CanonicalFields, Integral, IntegralItems,
      IntegralFields, List.forall_mem_cons, List.map_cons, List.map_nil, List.not_mem_nil,
      false_implies, implies_true, and_true]
    decide
  have hnesting : nested.toJson.nesting ≤ maxDepth := by decide
  have hbefore : Text.allBlank "\n " = true := by decide
  have hafter : Text.allBlank "\n" = true := by decide
  obtain ⟨-, h⟩ := outputs_of_printed_inputs
    { Descriptor.ofId "u" "1" with outputs := KeySet.ofList ["x", "y"] } hplain hnesting
    hbefore hafter
  exact ⟨hplain, hnesting, h⟩

end Workplan
