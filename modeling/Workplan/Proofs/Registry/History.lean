/-
# `Workplan.Proofs.Registry.History` — what a registry remembers of its registrations

Units come to a registry one by one or several at a time, under new identifiers, under identifiers
that are taken, and under blank ones.  Whatever the calls were, the registry that they leave is
settled by the units that came, in their order: an identifier has the place of its first unit
(`ids_registered`) and stands for its last one (`get?_registered`).  So who produces a key, and in
which order the producers are tried, can be read off the history as well.

The calls answer whether units were stored, and how many.  `Call.perform` runs a call together with
its answer; `run_storeMany` says that the answers count what the registrations store.
-/
import Mathlib.Data.List.Induction
import Workplan.Proofs.Graph.Providers

namespace Workplan.Registry

/-! ## Calls and their answers -/

/-- Registers a unit and tells whether it was stored. -/
def store (u : WorkUnit) : StateM Registry Bool := do
  modify fun r => r.register u
  return storable u

/-- Registers a unit and counts it, if it was stored. -/
def tally (count : Nat) (u : WorkUnit) : StateM Registry Nat := do
  return if ← store u then count + 1 else count

/-- Registers units one after the other and tells how many of them were stored. -/
def storeMany (us : List WorkUnit) : StateM Registry Nat := us.foldlM tally 0

/-- A call that brings units to a registry. -/
inductive Call where
  | register (unit : WorkUnit)
  | registerMany (units : List WorkUnit)

/-- What a call answers. -/
inductive Reply where
  | stored (yes : Bool)
  | count (stored : Nat)
deriving DecidableEq

namespace Call

/-- The units that a call brings. -/
def units : Call → List WorkUnit
  | .register u => [u]
  | .registerMany us => us

/-- Carries a call out. -/
def perform : Call → StateM Registry Reply
  | .register u => return .stored (← store u)
  | .registerMany us => return .count (← storeMany us)

/-- The answer that the identifiers of the units let expect. -/
def expected : Call → Reply
  | .register u => .stored (!Text.allBlank u.id)
  | .registerMany us => .count (us.filter fun u => !Text.allBlank u.id).length

end Call

/-- The answers to calls on an empty registry, and the registry that they leave. -/
def afterCalls (calls : List Call) : List Reply × Registry := (calls.mapM Call.perform).run {}

/-- The units that were brought to a registry, in their order. -/
def history (calls : List Call) : List WorkUnit := calls.flatMap Call.units

/-- The last unit under an identifier, if that is not blank. -/
def lastUnder (us : List WorkUnit) (id : String) : Option WorkUnit :=
  (us.filter fun u => u.id == id && !Text.allBlank id).getLast?

variable {r : Registry} {u : WorkUnit} {us : List WorkUnit} {id key : String}

/-! ## One registration -/

theorem register_of_blank (h : Text.allBlank u.id = true) : r.register u = r := by
  unfold register
  exact dif_pos h

theorem units_register (h : Text.allBlank u.id = false) :
    (r.register u).units = r.units.insert u.id u := by
  have hnot : ¬ Text.allBlank u.id = true := Bool.eq_false_iff.mp h
  simp only [register, dif_neg hnot]

theorem get?_register (h : Text.allBlank u.id = false) (id : String) :
    (r.register u).get? id = if u.id = id then some u else r.get? id := by
  show (r.register u).units.get? id = _
  rw [units_register h]
  exact Table.get?_insert r.units u.id id u

theorem ids_register (h : Text.allBlank u.id = false) :
    (r.register u).ids = if u.id ∈ r.ids then r.ids else r.ids ++ [u.id] := by
  show (r.register u).units.keys = _
  rw [units_register h, Table.keys_insert]
  simp only [contains_iff_mem_ids.symm]
  rfl

theorem not_blank_of_mem_ids (h : id ∈ r.ids) : Text.allBlank id = false := by
  obtain ⟨e, he, rfl⟩ := List.mem_map.mp h
  exact r.named e he

theorem providersOf_eq_filter (r : Registry) (key : String) :
    r.providersOf key =
      r.ids.filter fun id => (r.get? id).any fun u => u.descriptor.produces key := by
  show _ = (r.units.entries.map Prod.fst).filter _
  rw [List.filter_map, providersOf]
  congr 1
  refine List.filter_congr fun e he => ?_
  have hfind : r.get? e.1 = some e.2 := Table.get?_eq_some_iff.mpr he
  simp only [Function.comp_apply, hfind, Option.any_some]

/-! ## Many registrations -/

theorem registerMany_concat (r : Registry) (us : List WorkUnit) (u : WorkUnit) :
    r.registerMany (us ++ [u]) = (r.registerMany us).register u :=
  List.foldl_append

theorem eraseDups_concat (ids : List String) (id : String) :
    (ids ++ [id]).eraseDups = if id ∈ ids then ids.eraseDups else ids.eraseDups ++ [id] := by
  rw [List.eraseDups_append, List.cons_removeAll]
  by_cases h : id ∈ ids
  · simp [h]
  · simp [h, List.eraseDups_cons]

/-- The identifiers of a registry are those of the units that came, each in the place of the first
unit that it came with. -/
theorem ids_registered (us : List WorkUnit) :
    (({} : Registry).registerMany us).ids =
      ((us.map WorkUnit.id).filter fun id => !Text.allBlank id).eraseDups := by
  induction us using List.reverseRecOn with
  | nil => rfl
  | append_singleton us u ih =>
      rw [registerMany_concat, List.map_append, List.filter_append]
      cases h : Text.allBlank u.id with
      | true => simp [register_of_blank h, ih, h]
      | false =>
          have hlast : ([u].map WorkUnit.id).filter (fun id => !Text.allBlank id) = [u.id] := by
            simp [h]
          rw [hlast, eraseDups_concat, ids_register h, ih]
          simp only [List.mem_eraseDups]

theorem get?_registered (us : List WorkUnit) (id : String) :
    (({} : Registry).registerMany us).get? id = lastUnder us id := by
  induction us using List.reverseRecOn with
  | nil => rfl
  | append_singleton us u ih =>
      rw [registerMany_concat, lastUnder, List.filter_append]
      cases h : Text.allBlank u.id with
      | true =>
          have hnone : [u].filter (fun v => v.id == id && !Text.allBlank id) = [] := by
            by_cases hid : u.id = id
            · simp [hid, ← hid ▸ h]
            · simp [hid]
          rw [register_of_blank h, hnone, List.append_nil, ih, lastUnder]
      | false =>
          rw [get?_register h]
          by_cases hid : u.id = id
          · subst hid
            simp [h]
          · simp [hid, ih, lastUnder]

/-! ## The answers -/

theorem run_tally (count : Nat) (u : WorkUnit) (r : Registry) :
    (tally count u).run r = (if storable u then count + 1 else count, r.register u) := rfl

theorem run_storeMany (us : List WorkUnit) (r : Registry) :
    (storeMany us).run r = (storedCount us, r.registerMany us) := by
  suffices h : ∀ (count : Nat) (r : Registry),
      (us.foldlM tally count).run r = (count + storedCount us, r.registerMany us) by
    rw [storeMany, h, Nat.zero_add]
  induction us with
  | nil => exact fun _ _ => rfl
  | cons u us ih =>
      intro count r
      rw [List.foldlM_cons, StateT.run_bind, run_tally]
      show (us.foldlM tally _).run (r.register u) = _
      rw [ih]
      refine Prod.ext ?_ rfl
      show _ = count + storedCount (u :: us)
      rw [storedCount, storedCount, List.countP_cons]
      cases storable u
      · rfl
      · exact Nat.add_right_comm count 1 _

theorem run_perform (call : Call) (r : Registry) :
    call.perform.run r = (call.expected, r.registerMany call.units) := by
  cases call with
  | register u => rfl
  | registerMany us =>
      show (Reply.count ((storeMany us).run r).1, ((storeMany us).run r).2) = _
      rw [run_storeMany, storedCount, List.countP_eq_length_filter]
      rfl

theorem afterCalls_eq (calls : List Call) :
    afterCalls calls = (calls.map Call.expected, ({} : Registry).registerMany (history calls)) := by
  suffices h : ∀ r : Registry, (calls.mapM Call.perform).run r =
      (calls.map Call.expected, r.registerMany (history calls)) from
    h {}
  induction calls with
  | nil => exact fun _ => rfl
  | cons call calls ih =>
      intro r
      rw [List.mapM_cons]
      show ((call.perform.run r).1 :: ((calls.mapM Call.perform).run (call.perform.run r).2).1,
        ((calls.mapM Call.perform).run (call.perform.run r).2).2) = _
      rw [run_perform, ih]
      refine Prod.ext rfl ?_
      show (r.registerMany call.units).registerMany (history calls) =
        r.registerMany (call.units ++ history calls)
      exact List.foldl_append.symm

/-! ## The whole history -/

/-- A unit that comes again under its identifier keeps the place of the identifier among the
producers of any key; what the earlier one produced does not count any more. -/
theorem providersOf_register_again (h : u.id ∈ r.ids) (key : String) :
    (r.register u).providersOf key = r.ids.filter fun id =>
      if id = u.id then u.descriptor.produces key else (r.providersOf key).contains id := by
  have hblank := not_blank_of_mem_ids h
  rw [providersOf_eq_filter, ids_register hblank, if_pos h]
  refine List.filter_congr fun id hid => ?_
  rw [get?_register hblank]
  by_cases heq : id = u.id
  · rw [if_pos heq, if_pos heq.symm, Option.any_some]
  · rw [if_neg heq, if_neg (Ne.symm heq), providersOf_eq_filter, Bool.eq_iff_iff,
      List.contains_iff_mem, List.mem_filter, and_iff_right hid]

/-- Whatever the calls on an empty registry were: they answer how many of their units have an
identifier, and each identifier has the place of its first unit and stands for its last one.  The
producers of a key are the identifiers whose last units produce it, in that order; so a unit that
comes again keeps the place of its identifier, and its former outputs are forgotten. -/
theorem registrations_remembered (calls : List Call) :
    ∃ r, afterCalls calls = (calls.map Call.expected, r) ∧
      r.ids = (((history calls).map WorkUnit.id).filter fun id => !Text.allBlank id).eraseDups ∧
      (∀ id, r.get? id = lastUnder (history calls) id) ∧
      (∀ key, r.providersOf key = r.ids.filter fun id =>
        (lastUnder (history calls) id).any fun u => u.descriptor.produces key) ∧
      ∀ u, u.id ∈ r.ids → (r.register u).ids = r.ids ∧
        ∀ key, (r.register u).providersOf key = r.ids.filter fun id =>
          if id = u.id then u.descriptor.produces key else (r.providersOf key).contains id := by
  refine ⟨_, afterCalls_eq calls, ids_registered _, get?_registered _, ?_, ?_⟩
  · intro key
    rw [providersOf_eq_filter]
    simp only [get?_registered]
  · intro u hu
    refine ⟨?_, providersOf_register_again hu⟩
    rw [ids_register (not_blank_of_mem_ids hu), if_pos hu]

/-- Two producers of `k`, and a unit without an identifier between them. -/
def rivalCalls : List Call :=
  [.register (.constant "a" [] [("k", "from a")]),
    .registerMany [.constant " " [] [("k", "from nobody")], .constant "b" [] [("k", "from b")],
      .constant "a" [] [("l", "from a")]]]

/-- The first of the producers has come again without its output, and comes once more with it: in
between the other one is the first producer, and afterwards it is the second one again. -/
theorem registrations_remembered_rivals : ∃ r,
    afterCalls rivalCalls = ([.stored true, .count 2], r) ∧ "a" ∈ r.ids ∧
    r.providersOf "k" = ["b"] ∧
    (r.register (.constant "a" [] [("k", "again")])).providersOf "k" = ["a", "b"] := by
  obtain ⟨r, hcalls, hids, -, hproviders, hagain⟩ := registrations_remembered rivalCalls
  have hids' : r.ids = ["a", "b"] := hids.trans (by decide)
  have hmem : "a" ∈ r.ids := by
    rw [hids']
    decide
  have hb : r.providersOf "k" = ["b"] := by
    rw [hproviders, hids']
    decide
  refine ⟨r, hcalls.trans (by rfl), hmem, hb, ?_⟩
  rw [(hagain (.constant "a" [] [("k", "again")]) hmem).2, hids', hb]
  decide

end Workplan.Registry
