/-
# `Workplan.Proofs.Run.Merge` — what is bound after a merge

A merge that meets no conflict binds what was bound before, with the same values, and of the
outputs what was not: `get?_mergePairs` says so for both policies at once, because the strict policy
differs only where it stops.  `Context.after` is the context that a run goes on with.

Where the outputs are those of a unit, whose keys are distinct, the merge is known as a whole.  The
old entries stand first and unchanged, then the outputs whose keys were not bound
(`entries_after`), and the keys of the outputs are divided into those that were not bound
(`bound_merge`) and those that were (`discarded_merge`).
-/
import Mathlib.Data.List.Basic
import Mathlib.Data.List.Find
import Workplan.Proofs.Table

namespace Workplan.Context

variable {policy : BindingPolicy} {c : Context} {outputs : Outputs}

/-- A merge without conflict finds the old value first, and then the first one merged. -/
theorem get?_mergePairs (key : String) {pairs : List (String × Value)} {values : Table Value}
    (h : (mergePairs policy values pairs).conflict = none) :
    (mergePairs policy values pairs).values.get? key =
      (values.get? key).or (Table.findEntry key pairs) := by
  induction pairs generalizing values with
  | nil => simp [mergePairs, Table.findEntry]
  | cons pair rest ih =>
      obtain ⟨k, v⟩ := pair
      cases hk : values.contains k with
      | true =>
          obtain ⟨old, hold⟩ := Table.contains_eq_true_iff.mp hk
          cases policy with
          | strict => simp [mergePairs, hk] at h
          | firstWins =>
              simp only [mergePairs, hk, if_true] at h ⊢
              rw [ih h]
              by_cases hkey : k = key
              · subst hkey
                simp [hold]
              · simp [Table.findEntry, hkey]
      | false =>
          have hnone := Table.contains_eq_false_iff.mp hk
          simp only [mergePairs, hk, Bool.false_eq_true, if_false] at h ⊢
          rw [ih h, Table.get?_insert]
          by_cases hkey : k = key
          · subst hkey
            simp [hnone, Table.findEntry]
          · simp [Table.findEntry, hkey]

theorem contains_insert_of_notMem (values : Table Value) (v : Value) {k : String}
    {keys : List String} (hk : k ∉ keys) :
    ∀ k' ∈ keys, (values.insert k v).contains k' = values.contains k' := by
  intro k' hk'
  have hne : k ≠ k' := fun e => hk (e ▸ hk')
  rw [Table.contains_insert, beq_false_of_ne hne, Bool.false_or]

/-- A merge without conflict of distinct keys adds the pairs whose keys were not bound, and sorts
the keys by whether they were. -/
theorem mergePairs_of_nodup {pairs : List (String × Value)} {values : Table Value}
    (hkeys : (pairs.map Prod.fst).Nodup)
    (h : (mergePairs policy values pairs).conflict = none) :
    (mergePairs policy values pairs).values.entries =
        values.entries ++ pairs.filter (fun e => !values.contains e.1) ∧
      (mergePairs policy values pairs).bound =
        (pairs.map Prod.fst).filter (fun k => !values.contains k) ∧
      (mergePairs policy values pairs).discarded =
        (pairs.map Prod.fst).filter values.contains := by
  induction pairs generalizing values with
  | nil => simp [mergePairs]
  | cons pair rest ih =>
      obtain ⟨k, v⟩ := pair
      obtain ⟨hk, hrest⟩ := List.nodup_cons.mp hkeys
      cases hc : values.contains k with
      | true =>
          cases policy with
          | strict => simp [mergePairs, hc] at h
          | firstWins =>
              simp only [mergePairs, hc, if_true] at h ⊢
              obtain ⟨hentries, hbound, hdiscarded⟩ := ih hrest h
              simp [hc, hentries, hbound, hdiscarded]
      | false =>
          simp only [mergePairs, hc, Bool.false_eq_true, if_false] at h ⊢
          obtain ⟨hentries, hbound, hdiscarded⟩ := ih hrest h
          have hsame := contains_insert_of_notMem values v hk
          have hadded : rest.filter (fun e => !(values.insert k v).contains e.1) =
              rest.filter (fun e => !values.contains e.1) :=
            List.filter_congr fun e he => by rw [hsame e.1 (List.mem_map_of_mem he)]
          have hnew : (rest.map Prod.fst).filter (fun k' => !(values.insert k v).contains k') =
              (rest.map Prod.fst).filter (fun k' => !values.contains k') :=
            List.filter_congr fun k' hk' => by rw [hsame k' hk']
          have hold : (rest.map Prod.fst).filter (values.insert k v).contains =
              (rest.map Prod.fst).filter values.contains :=
            List.filter_congr hsame
          rw [hentries, hbound, hdiscarded, hadded, hnew, hold, Table.entries_insert hc]
          simp [hc]

theorem conflict_mergePairs_firstWins :
    ∀ (pairs : List (String × Value)) (values : Table Value),
      (mergePairs .firstWins values pairs).conflict = none
  | [], _ => rfl
  | (k, v) :: rest, values => by
      cases hk : values.contains k with
      | true =>
          simp only [mergePairs, hk, if_true]
          exact conflict_mergePairs_firstWins rest values
      | false =>
          simp only [mergePairs, hk, Bool.false_eq_true, if_false]
          exact conflict_mergePairs_firstWins rest (values.insert k v)

/-- Under the strict policy a merge of distinct keys stops at the first one that is bound. -/
theorem conflict_mergePairs_strict {pairs : List (String × Value)} {values : Table Value}
    (hkeys : (pairs.map Prod.fst).Nodup) :
    (mergePairs .strict values pairs).conflict = (pairs.map Prod.fst).find? values.contains := by
  induction pairs generalizing values with
  | nil => rfl
  | cons pair rest ih =>
      obtain ⟨k, v⟩ := pair
      obtain ⟨hk, hrest⟩ := List.nodup_cons.mp hkeys
      cases hc : values.contains k with
      | true => simp only [mergePairs, hc, if_true, List.map_cons, List.find?_cons_of_pos]
      | false =>
          have hsame := contains_insert_of_notMem values v hk
          simp only [mergePairs, hc, Bool.false_eq_true, if_false, ih hrest, List.map_cons,
            List.find?_cons]
          exact List.find?_congr hsame

theorem mergePairs_firstWins_of_strict {pairs : List (String × Value)} {values : Table Value}
    (h : (mergePairs .strict values pairs).conflict = none) :
    mergePairs .firstWins values pairs = mergePairs .strict values pairs ∧
      (mergePairs .strict values pairs).discarded = [] := by
  induction pairs generalizing values with
  | nil => exact ⟨rfl, rfl⟩
  | cons pair rest ih =>
      obtain ⟨k, v⟩ := pair
      cases hc : values.contains k with
      | true => simp [mergePairs, hc] at h
      | false =>
          simp only [mergePairs, hc, Bool.false_eq_true, if_false] at h ⊢
          obtain ⟨hsame, hdiscarded⟩ := ih h
          exact ⟨by rw [hsame], hdiscarded⟩

/-- The context after the outputs of a step are merged. -/
def after (c : Context) (outputs : Outputs) : Context :=
  { c with values := (c.merge outputs).values }

theorem get?_after (h : (c.merge outputs).conflict = none) (key : String) :
    (c.after outputs).get? key = (c.get? key).or (outputs.get? key) :=
  get?_mergePairs key h

theorem contains_after (h : (c.merge outputs).conflict = none) (key : String) :
    (c.after outputs).contains key = (c.contains key || outputs.contains key) := by
  have hget := get?_after h key
  unfold contains Table.contains
  unfold get? at hget
  rw [hget, Option.isSome_or]

/-- A unit is handed the same before and after a merge of outputs that offer none of its inputs
anew. -/
theorem slice_after (h : (c.merge outputs).conflict = none) {d : Descriptor}
    (hkeys : ∀ key ∈ d.inputs.keys, outputs.contains key = true → c.contains key = true) :
    (c.after outputs).slice d = c.slice d := by
  have hsame : ∀ key ∈ d.inputs.keys, (c.after outputs).get? key = c.get? key := by
    intro key hkey
    rw [get?_after h]
    cases hold : c.get? key with
    | some value => rfl
    | none =>
        cases hnew : outputs.get? key with
        | none => rfl
        | some value =>
            have hbound := hkeys key hkey (Table.contains_eq_true_iff.mpr ⟨value, hnew⟩)
            obtain ⟨old, hold'⟩ := Table.contains_eq_true_iff.mp hbound
            cases hold.symm.trans hold'
  simp only [slice, pick]
  congr 1
  refine List.filterMap_congr fun key hkey => ?_
  exact congrArg (Option.map fun v => (key, v)) (hsame key hkey)

/-! ## Outputs, whose keys are distinct -/

theorem entries_after (h : (c.merge outputs).conflict = none) :
    (c.after outputs).values.entries =
      c.values.entries ++ outputs.entries.filter (fun e => !c.contains e.1) :=
  (mergePairs_of_nodup outputs.distinct h).1

theorem bound_merge (h : (c.merge outputs).conflict = none) :
    (c.merge outputs).bound = outputs.keys.filter (fun k => !c.contains k) :=
  (mergePairs_of_nodup outputs.distinct h).2.1

theorem discarded_merge (h : (c.merge outputs).conflict = none) :
    (c.merge outputs).discarded = outputs.keys.filter c.contains :=
  (mergePairs_of_nodup outputs.distinct h).2.2

theorem contains_of_conflict {key : String} (hpolicy : c.policy = .strict)
    (h : (c.merge outputs).conflict = some key) :
    c.contains key = true ∧ outputs.contains key = true := by
  rw [merge, hpolicy, conflict_mergePairs_strict outputs.distinct] at h
  exact ⟨List.find?_some h, (outputs.contains_iff key).mpr (List.mem_of_find?_eq_some h)⟩

end Workplan.Context
