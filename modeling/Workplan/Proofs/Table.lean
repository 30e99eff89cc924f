/-
# `Workplan.Proofs.Table` — tables and registries read through their look-ups

A table is a list of entries, but nobody needs the list once the look-ups are known: an entry is
in the table exactly when its key finds its value, and a table built from pairs that agree on each
key finds what the pairs say.  For registries the same reading says which identifiers are
registered, and which unit produces a key first.
-/
import Workplan.Context
import Workplan.Registry

namespace Workplan

namespace Table

variable {α : Type}

theorem findEntry_eq_some_iff {key : String} {value : α} :
    ∀ {es : List (String × α)}, (es.map Prod.fst).Nodup →
      (findEntry key es = some value ↔ (key, value) ∈ es)
  | [], _ => by simp [findEntry]
  | (k, v) :: es, h => by
      obtain ⟨hk, hes⟩ := List.nodup_cons.mp h
      by_cases hkey : k = key
      · subst hkey
        simp only [findEntry, if_true, Option.some.injEq, List.mem_cons, Prod.mk.injEq, true_and]
        constructor
        · exact fun e => Or.inl e.symm
        · rintro (e | he)
          · exact e.symm
          · exact absurd (List.mem_map.mpr ⟨(k, value), he, rfl⟩) hk
      · have hne : ¬ key = k := fun e => hkey e.symm
        simp only [findEntry, hkey, if_false, List.mem_cons, Prod.mk.injEq, hne, false_and,
          false_or]
        exact findEntry_eq_some_iff hes

theorem get?_eq_some_iff {t : Table α} {key : String} {value : α} :
    t.get? key = some value ↔ (key, value) ∈ t.entries :=
  findEntry_eq_some_iff t.distinct

theorem contains_eq_true_iff {t : Table α} {key : String} :
    t.contains key = true ↔ ∃ value, t.get? key = some value :=
  Option.isSome_iff_exists

theorem contains_eq_false_iff {t : Table α} {key : String} :
    t.contains key = false ↔ t.get? key = none := by
  simp [contains]

theorem contains_insert (t : Table α) (key other : String) (value : α) :
    (t.insert key value).contains other = (key == other || t.contains other) := by
  by_cases h : key = other
  · simp [contains, get?_insert, h]
  · simp [contains, get?_insert, h]

theorem entries_insert {t : Table α} {key : String} {value : α} (h : t.contains key = false) :
    (t.insert key value).entries = t.entries ++ [(key, value)] := by
  suffices hput : ∀ es : List (String × α), findEntry key es = none →
      putEntry key value es = es ++ [(key, value)] from
    hput t.entries (contains_eq_false_iff.mp h)
  intro es
  induction es with
  | nil => exact fun _ => rfl
  | cons e rest ih =>
      obtain ⟨k, v⟩ := e
      intro hfind
      by_cases hk : k = key
      · simp [findEntry, hk] at hfind
      · simp only [findEntry, hk, if_false] at hfind
        simp only [putEntry, hk, if_false, ih hfind, List.cons_append]

theorem contains_ofList (pairs : List (String × α)) (key : String) :
    (ofList pairs).contains key = (pairs.map Prod.fst).contains key := by
  suffices h : ∀ t : Table α, (pairs.foldl (fun t p => t.insert p.1 p.2) t).contains key =
      (t.contains key || (pairs.map Prod.fst).contains key) from
    (h empty).trans (Bool.false_or _)
  induction pairs with
  | nil => simp
  | cons p rest ih =>
      intro t
      rw [List.foldl_cons, ih, contains_insert, List.map_cons, List.contains_cons,
        Bool.beq_comm, Bool.or_left_comm, Bool.or_assoc]

theorem entries_ofList {pairs : List (String × α)} (h : (pairs.map Prod.fst).Nodup) :
    (ofList pairs).entries = pairs := by
  suffices hfold : ∀ t : Table α, (∀ p ∈ pairs, t.contains p.1 = false) →
      (pairs.foldl (fun t p => t.insert p.1 p.2) t).entries = t.entries ++ pairs from
    hfold empty fun _ _ => rfl
  induction pairs with
  | nil => exact fun t _ => by rw [List.foldl_nil, List.append_nil]
  | cons p rest ih =>
      obtain ⟨hkey, hrest⟩ := List.nodup_cons.mp h
      intro t hnew
      have hfresh : ∀ q ∈ rest, (t.insert p.1 p.2).contains q.1 = false := by
        intro q hq
        have hne : p.1 ≠ q.1 := fun e => hkey (e ▸ List.mem_map_of_mem hq)
        rw [contains_insert, hnew q (List.mem_cons_of_mem p hq), beq_false_of_ne hne]
        rfl
      rw [List.foldl_cons, ih hrest _ hfresh, entries_insert (hnew p List.mem_cons_self),
        List.append_assoc]
      rfl

theorem get?_of_perm {t t' : Table α} (h : t.entries.Perm t'.entries) (key : String) :
    t.get? key = t'.get? key := by
  refine Option.ext fun value => ?_
  rw [get?_eq_some_iff, get?_eq_some_iff, h.mem_iff]

theorem size_eq_length_keys (t : Table α) : t.size = t.keys.length := by
  simp [size, keys]

end Table

namespace KeySet

theorem contains_insert (s : KeySet) (key other : String) :
    (s.insert key).contains other = (key == other || s.contains other) := by
  rw [Bool.eq_iff_iff, contains_iff, mem_insert, Bool.or_eq_true, beq_iff_eq, contains_iff,
    eq_comm]

theorem contains_ofList (keys : List String) (key : String) :
    (ofList keys).contains key = keys.contains key := by
  suffices h : ∀ s : KeySet, (keys.foldl insert s).contains key =
      (s.contains key || keys.contains key) from
    (h empty).trans (Bool.false_or _)
  induction keys with
  | nil => simp
  | cons k rest ih =>
      intro s
      rw [List.foldl_cons, ih, contains_insert, List.contains_cons, Bool.beq_comm,
        Bool.or_left_comm, Bool.or_assoc]

end KeySet

/-! ## The inputs that a context hands out -/

namespace Context

theorem get?_foldl_pick (values : Table Value) (key : String) :
    ∀ (keys : List String) (t : Table Value),
      ((pick values keys).foldl (fun t p => t.insert p.1 p.2) t).get? key =
        if key ∈ keys then (values.get? key).or (t.get? key) else t.get? key
  | [], t => by simp [pick]
  | k :: keys, t => by
      cases hk : values.get? k with
      | none =>
          have hp : pick values (k :: keys) = pick values keys := by simp [pick, hk]
          rw [hp, get?_foldl_pick values key keys t]
          by_cases h : key = k
          · subst h
            simp [hk]
          · simp [h]
      | some v =>
          have hp : pick values (k :: keys) = (k, v) :: pick values keys := by simp [pick, hk]
          rw [hp, List.foldl_cons, get?_foldl_pick values key keys (t.insert k v),
            Table.get?_insert]
          by_cases h : k = key
          · subst h
            simp [hk]
          · have hne : ¬ key = k := fun e => h e.symm
            simp [h, hne]

/-- A unit is handed exactly its declared inputs that are bound, with their values. -/
theorem get?_slice (c : Context) (d : Descriptor) (key : String) :
    (c.slice d).get? key = if key ∈ d.inputs.keys then c.get? key else none := by
  have h := get?_foldl_pick c.values key d.inputs.keys Table.empty
  rw [Table.get?_empty, Option.or_none] at h
  exact h

theorem contains_slice {c : Context} {d : Descriptor} {key : String} :
    (c.slice d).contains key = true ↔ key ∈ d.inputs.keys ∧ c.contains key = true := by
  rw [Table.contains, get?_slice]
  by_cases hkey : key ∈ d.inputs.keys
  · rw [if_pos hkey]
    exact (and_iff_right hkey).symm
  · rw [if_neg hkey]
    simp [hkey]

end Context

/-! ## Required inputs -/

namespace Descriptor

theorem mem_requiredKeys {d : Descriptor} {key : String} :
    key ∈ d.requiredKeys ↔ ∃ p, d.inputs.get? key = some p ∧ p.required = true := by
  simp only [requiredKeys, List.mem_map, List.mem_filter, Table.get?_eq_some_iff]
  constructor
  · rintro ⟨⟨k, p⟩, ⟨he, hp⟩, rfl⟩
    exact ⟨p, he, hp⟩
  · rintro ⟨p, he, hp⟩
    exact ⟨(key, p), ⟨he, hp⟩, rfl⟩

theorem mem_keys_of_mem_requiredKeys {d : Descriptor} {key : String} (h : key ∈ d.requiredKeys) :
    key ∈ d.inputs.keys := by
  obtain ⟨p, hp, -⟩ := mem_requiredKeys.mp h
  exact (d.inputs.contains_iff key).mp (Table.contains_eq_true_iff.mpr ⟨p, hp⟩)

theorem nodup_requiredKeys (d : Descriptor) : d.requiredKeys.Nodup :=
  d.inputs.distinct.sublist (List.filter_sublist.map Prod.fst)

end Descriptor

/-! ## Registered units and producers -/

namespace Registry

variable {r : Registry}

theorem contains_eq_true_iff {id : String} :
    r.contains id = true ↔ ∃ u, r.get? id = some u :=
  Table.contains_eq_true_iff

theorem contains_of_get? {id : String} {u : WorkUnit} (h : r.get? id = some u) :
    r.contains id = true :=
  contains_eq_true_iff.mpr ⟨u, h⟩

theorem contains_iff_mem_ids {id : String} : r.contains id = true ↔ id ∈ r.ids :=
  r.units.contains_iff id

theorem id_of_get? {id : String} {u : WorkUnit} (h : r.get? id = some u) : u.id = id :=
  r.keyed (id, u) (Table.get?_eq_some_iff.mp h)

/-- A unit produces the key, and no unit registered before it does. -/
def FirstProducer (r : Registry) (key provider : String) : Prop :=
  ∃ before u after, r.units.entries = before ++ (provider, u) :: after ∧
    u.descriptor.produces key = true ∧ ∀ e ∈ before, e.2.descriptor.produces key = false

/-- No registered unit produces the key. -/
def Unproduced (r : Registry) (key : String) : Prop :=
  ∀ e ∈ r.units.entries, e.2.descriptor.produces key = false

theorem providersOf_eq_nil_iff {key : String} : r.providersOf key = [] ↔ r.Unproduced key := by
  simp [providersOf, Unproduced, List.filter_eq_nil_iff]

theorem providersOf_eq_cons_iff {key provider : String} :
    (∃ others, r.providersOf key = provider :: others) ↔ r.FirstProducer key provider := by
  simp only [providersOf, FirstProducer, List.map_eq_cons_iff, List.filter_eq_cons_iff]
  constructor
  · rintro ⟨others, ⟨p, u⟩, rest, ⟨before, after, he, hb, hu, -⟩, rfl, -⟩
    exact ⟨before, u, after, he, hu, fun e h => Bool.eq_false_iff.mpr (hb e h)⟩
  · rintro ⟨before, u, after, he, hu, hb⟩
    exact ⟨_, (provider, u), _, ⟨before, after, he, fun e h => Bool.eq_false_iff.mp (hb e h), hu,
      rfl⟩, rfl, rfl⟩

theorem firstProducer_or_unproduced (r : Registry) (key : String) :
    (∃ provider, r.FirstProducer key provider) ∨ r.Unproduced key := by
  cases h : r.providersOf key with
  | nil => exact Or.inr (providersOf_eq_nil_iff.mp h)
  | cons provider others => exact Or.inl ⟨provider, providersOf_eq_cons_iff.mp ⟨others, h⟩⟩

theorem FirstProducer.get? {key provider : String} (h : r.FirstProducer key provider) :
    ∃ u, r.get? provider = some u ∧ u.descriptor.produces key = true := by
  obtain ⟨before, u, after, he, hu, -⟩ := h
  exact ⟨u, Table.get?_eq_some_iff.mpr (by rw [he]; simp), hu⟩

theorem FirstProducer.contains {key provider : String} (h : r.FirstProducer key provider) :
    r.contains provider = true := by
  obtain ⟨u, hu, -⟩ := h.get?
  exact contains_of_get? hu

theorem FirstProducer.unique {key p q : String} (hp : r.FirstProducer key p)
    (hq : r.FirstProducer key q) : p = q := by
  obtain ⟨ps, hps⟩ := providersOf_eq_cons_iff.mpr hp
  obtain ⟨qs, hqs⟩ := providersOf_eq_cons_iff.mpr hq
  exact (List.cons.inj (hps.symm.trans hqs)).1

end Registry

end Workplan
