/-
# `Workplan.Proofs.Json.Values` — values told by their text

A document is read as it is written, and its value sorts the fields of every object.  A document
that is canonical already is its own value (`canonical_eq_self`), so a canonical document that the
reader takes is, as a value, read back from its compact text (`parse_compact`).

What the reader takes was said by recursion along it, `Readable`.  Here it is said by two properties
that do not look at a reader: all numbers are integers, and no more arrays and objects stand inside
one another than the reader goes down (`readable_of_integral`).
-/
import Mathlib.Data.List.Perm.Basic
import Mathlib.Data.String.Basic
import Workplan.Proofs.Json.RoundTrip

namespace Workplan.Json

/-! ## Sorting fields -/

section Fields

variable {name : String} {value : Json} {fields : List (String × Json)}

theorem mem_names_insertField {n : String} :
    n ∈ (insertField name value fields).map Prod.fst ↔ n = name ∨ n ∈ fields.map Prod.fst := by
  induction fields with
  | nil => simp [insertField]
  | cons f rest ih =>
      obtain ⟨m, v⟩ := f
      unfold insertField
      split
      · simp
      · split
        · rename_i heq
          simp [heq]
        · simp only [List.map_cons, List.mem_cons, ih]
          exact or_left_comm

theorem pairwise_insertField (h : (fields.map Prod.fst).Pairwise (· < ·)) :
    ((insertField name value fields).map Prod.fst).Pairwise (· < ·) := by
  induction fields with
  | nil => exact List.pairwise_singleton _ name
  | cons f rest ih =>
      obtain ⟨m, v⟩ := f
      obtain ⟨hbelow, hrest⟩ := List.pairwise_cons.mp h
      unfold insertField
      split
      · rename_i hlt
        refine List.pairwise_cons.mpr ⟨fun n hn => ?_, h⟩
        rcases List.mem_cons.mp hn with rfl | hn
        · exact hlt
        · exact lt_trans hlt (hbelow n hn)
      · rename_i hnot
        split
        · rename_i heq
          rw [List.map_cons, ← heq]
          exact h
        · rename_i hne
          refine List.pairwise_cons.mpr ⟨fun n hn => ?_, ih hrest⟩
          rcases mem_names_insertField.mp hn with rfl | hn
          · exact lt_of_le_of_ne (not_lt.mp hnot) hne
          · exact hbelow n hn

theorem perm_insertField (h : name ∉ fields.map Prod.fst) :
    (insertField name value fields).Perm ((name, value) :: fields) := by
  induction fields with
  | nil => exact .refl _
  | cons f rest ih =>
      obtain ⟨m, v⟩ := f
      rw [List.map_cons, List.mem_cons, not_or] at h
      obtain ⟨hne, hrest⟩ := h
      unfold insertField
      split
      · exact .refl _
      · rw [if_neg (Ne.symm hne)]
        exact ((ih hrest).cons (m, v)).trans (.swap (name, value) (m, v) rest)

theorem pairwise_sortFields (fields : List (String × Json)) :
    ((sortFields fields).map Prod.fst).Pairwise (· < ·) := by
  suffices h : ∀ sorted : List (String × Json), (sorted.map Prod.fst).Pairwise (· < ·) →
      ((fields.foldl (fun sorted f => insertField f.1 f.2 sorted) sorted).map
        Prod.fst).Pairwise (· < ·) from
    h [] .nil
  induction fields with
  | nil => exact fun _ hsorted => hsorted
  | cons f rest ih => exact fun sorted hsorted => ih _ (pairwise_insertField hsorted)

theorem perm_sortFields (h : (fields.map Prod.fst).Nodup) : (sortFields fields).Perm fields := by
  suffices hfold : ∀ sorted : List (String × Json),
      (∀ f ∈ fields, f.1 ∉ sorted.map Prod.fst) →
      (fields.foldl (fun sorted f => insertField f.1 f.2 sorted) sorted).Perm
        (sorted ++ fields) from
    hfold [] fun _ _ => List.not_mem_nil
  induction fields with
  | nil => exact fun sorted _ => by rw [List.foldl_nil, List.append_nil]
  | cons f rest ih =>
      obtain ⟨hname, hrest⟩ := List.nodup_cons.mp h
      intro sorted hnew
      have hinsert : (insertField f.1 f.2 sorted).Perm (f :: sorted) :=
        perm_insertField (hnew f List.mem_cons_self)
      have hfresh : ∀ g ∈ rest, g.1 ∉ (insertField f.1 f.2 sorted).map Prod.fst := by
        intro g hg hmem
        rcases mem_names_insertField.mp hmem with heq | hmem
        · exact hname (heq ▸ List.mem_map_of_mem hg)
        · exact hnew g (List.mem_cons_of_mem f hg) hmem
      have hothers := ih hrest _ hfresh
      exact hothers.trans ((hinsert.append_right rest).trans List.perm_middle.symm)

theorem sortFields_eq_self (h : (fields.map Prod.fst).Pairwise (· < ·)) :
    sortFields fields = fields := by
  have hperm := perm_sortFields (h.imp ne_of_lt)
  refine hperm.eq_of_pairwise (fun f g _ _ hfg hgf => ?_)
    (List.pairwise_map.mp (pairwise_sortFields fields)) (List.pairwise_map.mp h)
  exact absurd hfg (lt_asymm hgf)

end Fields

/-! ## Canonical documents -/

mutual

theorem canonical_eq_self : ∀ (j : Json), j.Canonical → j.canonical = j
  | .null, _ | .bool _, _ | .num _, _ | .str _, _ => rfl
  | .arr items, h => congrArg Json.arr (canonicalItems_eq_self items h)
  | .obj fields, ⟨hsorted, hfields⟩ => by
      rw [canonical, canonicalFields_eq_self fields hfields, mkObject, sortFields_eq_self hsorted]

theorem canonicalItems_eq_self : ∀ (items : List Json), CanonicalItems items →
    canonicalItems items = items
  | [], _ => rfl
  | j :: rest, ⟨hj, hrest⟩ => by
      rw [canonicalItems, canonical_eq_self j hj, canonicalItems_eq_self rest hrest]

theorem canonicalFields_eq_self : ∀ (fields : List (String × Json)), CanonicalFields fields →
    canonicalFields fields = fields
  | [], _ => rfl
  | (n, j) :: rest, ⟨hj, hrest⟩ => by
      rw [canonicalFields, canonical_eq_self j hj, canonicalFields_eq_self rest hrest]

end

theorem canonicalFields_iff {fields : List (String × Json)} :
    CanonicalFields fields ↔ ∀ f ∈ fields, f.2.Canonical := by
  induction fields with
  | nil => simp [CanonicalFields]
  | cons f rest ih => rw [CanonicalFields, ih, List.forall_mem_cons]

/-- A readable canonical document is, as a value, read back from its compact text. -/
theorem parse_compact {j : Json} (hcanonical : j.Canonical) (hreadable : j.Readable maxDepth) :
    parse j.compact = some j := by
  rw [parse, parseDocument_compact hreadable, Option.map_some, canonical_eq_self j hcanonical]

/-! ## Documents with integers only -/

mutual

/-- A document all of whose numbers are integers. -/
def Integral : Json → Prop
  | .num (.real _) => False
  | .arr items => IntegralItems items
  | .obj fields => IntegralFields fields
  | _ => True

def IntegralItems : List Json → Prop
  | [] => True
  | j :: rest => j.Integral ∧ IntegralItems rest

def IntegralFields : List (String × Json) → Prop
  | [] => True
  | (_, j) :: rest => j.Integral ∧ IntegralFields rest

end

mutual

/-- How many arrays and objects stand inside one another. -/
def nesting : Json → Nat
  | .arr items => nestingItems items + 1
  | .obj fields => nestingFields fields + 1
  | _ => 0

def nestingItems : List Json → Nat
  | [] => 0
  | j :: rest => max j.nesting (nestingItems rest)

def nestingFields : List (String × Json) → Nat
  | [] => 0
  | (_, j) :: rest => max j.nesting (nestingFields rest)

end

theorem integralFields_iff {fields : List (String × Json)} :
    IntegralFields fields ↔ ∀ f ∈ fields, f.2.Integral := by
  induction fields with
  | nil => simp [IntegralFields]
  | cons f rest ih => rw [IntegralFields, ih, List.forall_mem_cons]

mutual

/-- Integers are read back, and so is what nests no deeper than the reader goes. -/
theorem readable_of_integral : ∀ (j : Json) {depth : Nat}, j.Integral → j.nesting ≤ depth →
    j.Readable depth
  | .null, _, _, _ | .bool _, _, _, _ | .str _, _, _, _ => trivial
  | .num (.int i fits), _, _, _ => Number.readsBack_int i fits
  | .arr _, 0, _, hdepth | .obj _, 0, _, hdepth => absurd hdepth (Nat.not_succ_le_zero _)
  | .arr items, depth + 1, h, hdepth =>
      ⟨depth, rfl, readableItems_of_integral items h (Nat.le_of_succ_le_succ hdepth)⟩
  | .obj fields, depth + 1, h, hdepth =>
      ⟨depth, rfl, readableFields_of_integral fields h (Nat.le_of_succ_le_succ hdepth)⟩

theorem readableItems_of_integral : ∀ (items : List Json) {depth : Nat}, IntegralItems items →
    nestingItems items ≤ depth → ReadableItems depth items
  | [], _, _, _ => trivial
  | j :: rest, _, ⟨hj, hrest⟩, hdepth =>
      ⟨readable_of_integral j hj (le_of_max_le_left hdepth),
        readableItems_of_integral rest hrest (le_of_max_le_right hdepth)⟩

theorem readableFields_of_integral : ∀ (fields : List (String × Json)) {depth : Nat},
    IntegralFields fields → nestingFields fields ≤ depth → ReadableFields depth fields
  | [], _, _, _ => trivial
  | (_, j) :: rest, _, ⟨hj, hrest⟩, hdepth =>
      ⟨readable_of_integral j hj (le_of_max_le_left hdepth),
        readableFields_of_integral rest hrest (le_of_max_le_right hdepth)⟩

end

end Workplan.Json
