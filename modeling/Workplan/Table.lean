/-
# `Workplan.Table` — tables that keep the order of insertion

A table binds keys to values.  Its entries stand in the order in which their keys were first
inserted: inserting under a key that is bound replaces the value and keeps the place.  Contexts,
inputs, outputs, descriptors and registries are all tables, and the order of their entries is
the order that every listing shows.

Main statements: `get?_insert` says what an insertion changes, `keys_insert` where a key lands.
-/

namespace Workplan

universe u v

/-- Entries with distinct keys, in the order of first insertion. -/
structure Table (α : Type u) where
  entries : List (String × α)
  distinct : (entries.map Prod.fst).Nodup

namespace Table

variable {α : Type u} {β : Type v}

/-- Puts a value under a key: in the key's place if it has one, at the end otherwise. -/
def putEntry (key : String) (value : α) : List (String × α) → List (String × α)
  | [] => [(key, value)]
  | (k, v) :: rest => if k = key then (k, value) :: rest else (k, v) :: putEntry key value rest

/-- The value under the first entry with this key. -/
def findEntry (key : String) : List (String × α) → Option α
  | [] => none
  | (k, v) :: rest => if k = key then some v else findEntry key rest

theorem map_fst_putEntry (key : String) (value : α) (es : List (String × α)) :
    (putEntry key value es).map Prod.fst =
      if key ∈ es.map Prod.fst then es.map Prod.fst else es.map Prod.fst ++ [key] := by
  induction es with
  | nil => simp [putEntry]
  | cons e rest ih =>
    obtain ⟨k, v⟩ := e
    by_cases h : k = key
    · simp [putEntry, h]
    · have h' : ¬ key = k := fun e => h e.symm
      simp only [putEntry, h, if_false, List.map_cons, ih, List.mem_cons, h', false_or]
      split <;> simp

theorem findEntry_putEntry (key other : String) (value : α) (es : List (String × α)) :
    findEntry other (putEntry key value es) =
      if key = other then some value else findEntry other es := by
  induction es with
  | nil => simp [putEntry, findEntry]
  | cons e rest ih =>
    obtain ⟨k, v⟩ := e
    by_cases h : k = key
    · subst h
      simp only [putEntry, if_true, findEntry]
      split <;> rfl
    · simp only [putEntry, h, if_false, findEntry, ih]
      by_cases hk : k = other
      · subst hk
        rw [if_pos rfl, if_neg fun e : key = k => h e.symm, if_pos rfl]
      · rw [if_neg hk, if_neg hk]

theorem findEntry_isSome (key : String) (es : List (String × α)) :
    (findEntry key es).isSome = true ↔ key ∈ es.map Prod.fst := by
  induction es with
  | nil => simp [findEntry]
  | cons e rest ih =>
    obtain ⟨k, v⟩ := e
    by_cases h : k = key
    · simp [findEntry, h]
    · have h' : ¬ key = k := fun e => h e.symm
      simp [findEntry, h, h', ih]

/-- The table without entries. -/
def empty : Table α := ⟨[], List.nodup_nil⟩

instance : EmptyCollection (Table α) := ⟨empty⟩
instance : Inhabited (Table α) := ⟨empty⟩

/-- The keys in the order of first insertion. -/
def keys (t : Table α) : List String := t.entries.map Prod.fst

/-- The values in the order of their keys. -/
def values (t : Table α) : List α := t.entries.map Prod.snd

def size (t : Table α) : Nat := t.entries.length

def isEmpty (t : Table α) : Bool := t.entries.isEmpty

def get? (t : Table α) (key : String) : Option α := findEntry key t.entries

def contains (t : Table α) (key : String) : Bool := (t.get? key).isSome

/-- Binds a key.  A key that is bound keeps its place and takes the new value. -/
def insert (t : Table α) (key : String) (value : α) : Table α where
  entries := putEntry key value t.entries
  distinct := by
    rw [map_fst_putEntry]
    split
    · exact t.distinct
    · rename_i h
      exact List.nodup_append.2 ⟨t.distinct, by simp, by
        intro a ha b hb e
        simp only [List.mem_singleton] at hb
        subst hb
        exact h (e ▸ ha)⟩

/-- The table of a list of pairs, read from left to right: a repeated key keeps its first place
and its last value. -/
def ofList (pairs : List (String × α)) : Table α :=
  pairs.foldl (fun t p => t.insert p.1 p.2) empty

/-- The same keys with each value changed. -/
def map (f : α → β) (t : Table α) : Table β where
  entries := t.entries.map fun e => (e.1, f e.2)
  distinct := by
    have h : (t.entries.map fun e => (e.1, f e.2)).map Prod.fst = t.entries.map Prod.fst := by
      simp [List.map_map, Function.comp_def]
    rw [h]
    exact t.distinct

@[simp] theorem keys_empty : (empty : Table α).keys = [] := rfl

@[simp] theorem get?_empty (key : String) : (empty : Table α).get? key = none := rfl

theorem get?_insert (t : Table α) (key other : String) (value : α) :
    (t.insert key value).get? other = if key = other then some value else t.get? other :=
  findEntry_putEntry key other value t.entries

theorem contains_iff (t : Table α) (key : String) : t.contains key = true ↔ key ∈ t.keys :=
  findEntry_isSome key t.entries

theorem keys_insert (t : Table α) (key : String) (value : α) :
    (t.insert key value).keys = if t.contains key then t.keys else t.keys ++ [key] := by
  have h := map_fst_putEntry key value t.entries
  have hc : (key ∈ t.entries.map Prod.fst) ↔ t.contains key = true := (t.contains_iff key).symm
  by_cases hk : key ∈ t.entries.map Prod.fst
  · rw [if_pos hk] at h
    simp only [keys, insert, h, hc.1 hk, if_true]
  · rw [if_neg hk] at h
    have : ¬ t.contains key = true := fun c => hk (hc.2 c)
    simp only [keys, insert, h, this]
    rfl

/-- The keys as a set, in code-point order. -/
def sortedKeys (t : Table α) : List String := t.keys.mergeSort (fun a b => decide (a ≤ b))

end Table

/-- A set of texts in the order of first insertion. -/
structure KeySet where
  toList : List String
  distinct : toList.Nodup

namespace KeySet

def empty : KeySet := ⟨[], List.nodup_nil⟩

instance : EmptyCollection KeySet := ⟨empty⟩
instance : Inhabited KeySet := ⟨empty⟩

def contains (s : KeySet) (key : String) : Bool := s.toList.contains key

/-- Adds a text at the end, unless the set holds it. -/
def insert (s : KeySet) (key : String) : KeySet :=
  if h : key ∈ s.toList then s
  else ⟨s.toList ++ [key], List.nodup_append.2 ⟨s.distinct, by simp, by
    intro a ha b hb e
    simp only [List.mem_singleton] at hb
    exact h (hb ▸ e ▸ ha)⟩⟩

/-- The set of a list of texts, in the order of their first occurrences. -/
def ofList (keys : List String) : KeySet := keys.foldl insert empty

theorem contains_iff (s : KeySet) (key : String) : s.contains key = true ↔ key ∈ s.toList := by
  simp [contains]

theorem mem_insert (s : KeySet) (key other : String) :
    other ∈ (s.insert key).toList ↔ other = key ∨ other ∈ s.toList := by
  unfold insert
  split
  · rename_i h
    exact ⟨Or.inr, fun hk => hk.elim (fun e => e ▸ h) id⟩
  · simp only [List.mem_append, List.mem_singleton]
    exact Or.comm

end KeySet

end Workplan
