/-
# `Workplan.Proofs.Manifest.Registration` — checking and registering agree

A manifest is gone through twice, and each time in an order of its own: the check lists all that is
wrong with it, and the registration stops at the first thing that it cannot carry out.  Whatever
stops the registration is a problem that the check lists (`Manifest.mem_problems_of_registry`), so
a manifest without problems is registered.

What is registered then lies beside the manifest entry by entry (`Table.Beside`): units beside
units, and in each of them inputs beside inputs.  For this the keys that come in must be new, which
they are, because tables have distinct keys, and because the units of a sound manifest have names
that a registry takes.
-/
import Mathlib.Data.List.Forall2
import Workplan.Manifest.Units
import Workplan.Proofs.Manifest.Check

namespace Workplan

/-! ## Tables side by side -/

namespace Table

variable {α β : Type}

/-- Two tables with the same keys in the same order, the values under each key related. -/
def Beside (R : String → α → β → Prop) (t : Table α) (t' : Table β) : Prop :=
  List.Forall₂ (fun e e' => e'.1 = e.1 ∧ R e.1 e.2 e'.2) t.entries t'.entries

theorem Beside.keys_eq {R : String → α → β → Prop} {t : Table α} {t' : Table β}
    (h : t.Beside R t') : t'.keys = t.keys := by
  suffices hkeys : ∀ {es : List (String × α)} {es' : List (String × β)},
      List.Forall₂ (fun e e' => e'.1 = e.1 ∧ R e.1 e.2 e'.2) es es' →
        es'.map Prod.fst = es.map Prod.fst from hkeys h
  intro es es' h
  induction h with
  | nil => rfl
  | cons hhead _ ih => rw [List.map_cons, List.map_cons, hhead.1, ih]

theorem exists_mem_of_forall₂ {R : α → β → Prop} {xs : List α} {ys : List β}
    (h : List.Forall₂ R xs ys) {x : α} (hx : x ∈ xs) : ∃ y ∈ ys, R x y := by
  induction h with
  | nil => cases hx
  | cons hhead _ ih =>
      rcases List.mem_cons.mp hx with rfl | hx
      · exact ⟨_, List.mem_cons_self, hhead⟩
      · obtain ⟨y, hy, hR⟩ := ih hx
        exact ⟨y, List.mem_cons_of_mem _ hy, hR⟩

theorem Beside.get? {R : String → α → β → Prop} {t : Table α} {t' : Table β} (h : t.Beside R t')
    {key : String} {value : α} (hvalue : t.get? key = some value) :
    ∃ value', t'.get? key = some value' ∧ R key value value' := by
  obtain ⟨⟨key', value'⟩, hmem, rfl, hR⟩ :=
    exists_mem_of_forall₂ h (get?_eq_some_iff.mp hvalue)
  exact ⟨value', get?_eq_some_iff.mpr hmem, hR⟩

/-- Distinct keys that the table does not bind. -/
structure Fresh (t : Table α) (keys : List String) : Prop where
  nodup : keys.Nodup
  unbound : ∀ key ∈ keys, t.contains key = false

theorem fresh_empty {keys : List String} (h : keys.Nodup) : (empty : Table α).Fresh keys :=
  ⟨h, fun _ _ => rfl⟩

theorem Fresh.insert {t : Table α} {key : String} {keys : List String} (h : t.Fresh (key :: keys))
    (value : α) : (t.insert key value).Fresh keys := by
  obtain ⟨hkey, hnodup⟩ := List.nodup_cons.mp h.nodup
  refine ⟨hnodup, fun k hk => ?_⟩
  have hne : key ≠ k := fun e => hkey (e ▸ hk)
  rw [contains_insert, h.unbound k (List.mem_cons_of_mem _ hk), beq_false_of_ne hne, Bool.or_false]

end Table

/-! ## What stops the registration -/

theorem Catalog.name_of_resolve {host : Host} {name : String} {v : Verifier}
    (h : resolve host name = .ok v) : v.name = name := by
  simp only [resolve] at h
  split at h
  · -- a pattern
    split at h
    · cases h
      rfl
    · cases h
  · split at h
    · -- a glob
      split at h
      · cases h
        rfl
      · cases h
    · split at h
      · rename_i hplain
        cases h
        simpa using List.find?_some hplain
      · cases h

namespace UnitSpec

variable {host : Host} {known : List String} {id key : String} {u : UnitSpec}
  {problem : Problem}

theorem resolve_of_resolveVerifiers_error {names : List String}
    (h : resolveVerifiers host id key names = .error problem) :
    ∃ name ∈ names, ∃ cause, Catalog.resolve host name = .error cause ∧
      problem = .verifier id key cause := by
  induction names with
  | nil => cases h
  | cons name rest ih =>
      rw [resolveVerifiers] at h
      cases hname : Catalog.resolve host name with
      | error cause =>
          rw [hname] at h
          cases h
          exact ⟨name, List.mem_cons_self, cause, hname, rfl⟩
      | ok v =>
          rw [hname] at h
          cases hrest : resolveVerifiers host id key rest with
          | error problem' =>
              rw [hrest] at h
              cases h
              obtain ⟨other, hother, hcause⟩ := ih hrest
              exact ⟨other, List.mem_cons_of_mem _ hother, hcause⟩
          | ok vs =>
              rw [hrest] at h
              cases h

theorem mem_inputProblems_of_property {input : InputSpec} (u : UnitSpec)
    (h : property host id key input = .error problem) :
    problem ∈ inputProblems host id u key input := by
  rw [property] at h
  cases hresolve : resolveVerifiers host id key input.verify with
  | ok vs =>
      rw [hresolve] at h
      cases h
  | error problem' =>
      rw [hresolve] at h
      cases h
      obtain ⟨name, hname, cause, hcause, rfl⟩ := resolve_of_resolveVerifiers_error hresolve
      refine List.mem_append_left _ (List.mem_append_right _ ?_)
      exact List.mem_filterMap.mpr ⟨name, hname, by rw [hcause]⟩

theorem property_of_declareInputs_error {entries : List (String × InputSpec)} {d : Descriptor}
    (h : declareInputs host id d entries = .error problem) :
    ∃ e ∈ entries, property host id e.1 e.2 = .error problem := by
  induction entries generalizing d with
  | nil => cases h
  | cons e rest ih =>
      obtain ⟨key, input⟩ := e
      rw [declareInputs] at h
      cases hproperty : property host id key input with
      | error problem' =>
          rw [hproperty] at h
          cases h
          exact ⟨(key, input), List.mem_cons_self, hproperty⟩
      | ok p =>
          rw [hproperty] at h
          obtain ⟨e, he, herror⟩ := ih h
          exact ⟨e, List.mem_cons_of_mem _ he, herror⟩

theorem mem_problems_of_toUnit (known : List String) (h : u.toUnit host id = .error problem) :
    problem ∈ u.problems host known id := by
  rw [toUnit] at h
  simp only [problems, List.mem_append]
  cases hscript : u.script? with
  | none =>
      rw [hscript] at h
      cases h
      exact Or.inl (Or.inl (Or.inl (Or.inr (by simp [Problem.given]))))
  | some script =>
      rw [hscript, descriptor] at h
      cases hinputs : declareInputs host id _ u.inputs.entries with
      | ok d =>
          rw [hinputs] at h
          cases h
      | error problem' =>
          rw [hinputs] at h
          cases h
          obtain ⟨e, he, herror⟩ := property_of_declareInputs_error hinputs
          exact Or.inl (Or.inl (Or.inr
            (List.mem_flatMap.mpr ⟨e, he, mem_inputProblems_of_property u herror⟩)))

end UnitSpec

namespace Manifest

variable {host : Host} {problem : Problem}

theorem toUnit_of_registerAll_error {entries : List (String × UnitSpec)} {r : Registry}
    (h : registerAll host r entries = .error problem) :
    ∃ e ∈ entries, e.2.toUnit host e.1 = .error problem := by
  induction entries generalizing r with
  | nil => cases h
  | cons e rest ih =>
      obtain ⟨id, u⟩ := e
      rw [registerAll] at h
      cases hunit : u.toUnit host id with
      | error problem' =>
          rw [hunit] at h
          cases h
          exact ⟨(id, u), List.mem_cons_self, hunit⟩
      | ok unit =>
          rw [hunit] at h
          obtain ⟨e, he, herror⟩ := ih h
          exact ⟨e, List.mem_cons_of_mem _ he, herror⟩

/-- What stops the registration is a problem of the manifest. -/
theorem mem_problems_of_registry {m : Manifest} (h : m.registry host = .error problem) :
    problem ∈ m.problems host := by
  obtain ⟨e, he, herror⟩ := toUnit_of_registerAll_error h
  refine List.mem_append_right _ (List.mem_flatMap.mpr ⟨e, he, ?_⟩)
  exact UnitSpec.mem_problems_of_toUnit m.units.keys herror

end Manifest

/-! ## What a descriptor carries -/

/-- The property declares the input as it is written. -/
structure Property.Carries (p : Property) (input : InputSpec) : Prop where
  type_eq : p.type = input.type
  required_eq : p.required = input.required
  description_eq : p.description = input.description
  verifiers_eq : p.verifiers.map Verifier.name = input.verify

/-- The descriptor declares the unit as it is written, named by the last segment of its identifier
unless it is given a name. -/
structure Descriptor.Carries (d : Descriptor) (id : String) (u : UnitSpec) : Prop where
  id_eq : d.id = id
  version_eq : d.version = u.version
  kind_eq : d.kind = u.kind
  name_eq : ∃ last, (segments id).getLast? = some last ∧ d.name = u.name.getD (String.ofList last)
  description_eq : d.description = u.description.getD ""
  tags_eq : d.tags = u.tags
  raises_eq : d.raises = u.raises
  requests_eq : d.requests = u.requests
  inputs : u.inputs.Beside (fun _ input p => p.Carries input) d.inputs
  outputs_eq : d.outputs.toList = u.outputs

theorem KeySet.toList_foldl_insert {keys : List String} {s : KeySet} (hnodup : keys.Nodup)
    (hnew : ∀ key ∈ keys, key ∉ s.toList) :
    (keys.foldl insert s).toList = s.toList ++ keys := by
  induction keys generalizing s with
  | nil => simp
  | cons key rest ih =>
      obtain ⟨hkey, hrest⟩ := List.nodup_cons.mp hnodup
      have hinsert : (s.insert key).toList = s.toList ++ [key] := by
        simp [insert, hnew key List.mem_cons_self]
      rw [List.foldl_cons, ih hrest, hinsert, List.append_assoc, List.singleton_append]
      intro k hk
      rw [hinsert, List.mem_append, List.mem_singleton, not_or]
      exact ⟨hnew k (List.mem_cons_of_mem _ hk), fun e => hkey (e ▸ hk)⟩

theorem Descriptor.foldl_withOutput (keys : List String) (d : Descriptor) :
    keys.foldl withOutput d = { d with outputs := keys.foldl KeySet.insert d.outputs } := by
  induction keys generalizing d with
  | nil => rfl
  | cons key rest ih => exact ih (d.withOutput key)

namespace UnitSpec

variable {host : Host} {id key : String} {u : UnitSpec}

theorem names_of_resolveVerifiers {names : List String} {vs : List Verifier}
    (h : resolveVerifiers host id key names = .ok vs) : vs.map Verifier.name = names := by
  induction names generalizing vs with
  | nil =>
      cases h
      rfl
  | cons name rest ih =>
      rw [resolveVerifiers] at h
      cases hname : Catalog.resolve host name with
      | error cause =>
          rw [hname] at h
          cases h
      | ok v =>
          rw [hname] at h
          cases hrest : resolveVerifiers host id key rest with
          | error problem =>
              rw [hrest] at h
              cases h
          | ok others =>
              rw [hrest] at h
              cases h
              rw [List.map_cons, Catalog.name_of_resolve hname, ih hrest]

theorem carries_of_property {input : InputSpec} {p : Property}
    (h : property host id key input = .ok p) : p.Carries input := by
  rw [property] at h
  cases hresolve : resolveVerifiers host id key input.verify with
  | error problem =>
      rw [hresolve] at h
      cases h
  | ok vs =>
      rw [hresolve] at h
      cases h
      exact ⟨rfl, rfl, rfl, names_of_resolveVerifiers hresolve⟩

theorem property_of_declareInputs_cons {input : InputSpec} {rest : List (String × InputSpec)}
    {d d' : Descriptor} (h : declareInputs host id d ((key, input) :: rest) = .ok d') :
    ∃ p, property host id key input = .ok p ∧
      declareInputs host id (d.withInput key p) rest = .ok d' := by
  rw [declareInputs] at h
  cases hproperty : property host id key input with
  | error problem =>
      rw [hproperty] at h
      cases h
  | ok p =>
      rw [hproperty] at h
      exact ⟨p, rfl, h⟩

theorem eq_of_declareInputs {entries : List (String × InputSpec)} {d d' : Descriptor}
    (h : declareInputs host id d entries = .ok d') : ∃ inputs, d' = { d with inputs } := by
  induction entries generalizing d with
  | nil =>
      cases h
      exact ⟨_, rfl⟩
  | cons e rest ih =>
      obtain ⟨p, -, hrest⟩ := property_of_declareInputs_cons h
      obtain ⟨inputs, hd⟩ := ih hrest
      exact ⟨inputs, hd⟩

theorem entries_of_declareInputs {entries : List (String × InputSpec)} {d d' : Descriptor}
    (h : declareInputs host id d entries = .ok d')
    (hfresh : d.inputs.Fresh (entries.map Prod.fst)) :
    ∃ new, d'.inputs.entries = d.inputs.entries ++ new ∧
      List.Forall₂ (fun e e' => e'.1 = e.1 ∧ e'.2.Carries e.2) entries new := by
  induction entries generalizing d with
  | nil =>
      cases h
      exact ⟨[], (List.append_nil _).symm, .nil⟩
  | cons e rest ih =>
      obtain ⟨key, input⟩ := e
      obtain ⟨p, hproperty, hrest⟩ := property_of_declareInputs_cons h
      obtain ⟨new, hentries, hcarries⟩ := ih hrest (hfresh.insert p)
      have hunbound := hfresh.unbound key List.mem_cons_self
      have hinputs : (d.withInput key p).inputs.entries = d.inputs.entries ++ [(key, p)] :=
        Table.entries_insert hunbound
      refine ⟨(key, p) :: new, ?_, .cons ⟨rfl, carries_of_property hproperty⟩ hcarries⟩
      rw [hentries, hinputs, List.append_assoc, List.singleton_append]

/-- The descriptor of a unit before its inputs and what follows them are declared. -/
def heading (id : String) (u : UnitSpec) : Descriptor where
  id := id
  version := u.version
  kind := u.kind
  name := u.name.getD (Descriptor.lastSegment id)
  description := u.description.getD ""
  tags := u.tags

/-- The descriptor of a unit is its heading, with the inputs declared and the rest added. -/
theorem declareInputs_of_descriptor {d : Descriptor} (h : u.descriptor host id = .ok d) :
    ∃ inputs, declareInputs host id (u.heading id) u.inputs.entries =
        .ok { u.heading id with inputs } ∧
      d = { u.heading id with
        inputs
        outputs := u.outputs.foldl KeySet.insert KeySet.empty
        raises := u.raises
        requests := u.requests } := by
  have heq : u.descriptor host id =
      (declareInputs host id (u.heading id) u.inputs.entries).map fun d =>
        { d with
          outputs := u.outputs.foldl KeySet.insert d.outputs
          raises := u.raises
          requests := u.requests } := by
    simp only [descriptor, Descriptor.foldl_withOutput]
    rfl
  rw [heq] at h
  cases hdeclared : declareInputs host id (u.heading id) u.inputs.entries with
  | error problem =>
      rw [hdeclared] at h
      cases h
  | ok declared =>
      rw [hdeclared] at h
      cases h
      obtain ⟨inputs, rfl⟩ := eq_of_declareInputs hdeclared
      exact ⟨inputs, rfl, rfl⟩

theorem carries_of_descriptor {d : Descriptor} (h : u.descriptor host id = .ok d)
    (houtputs : u.outputs.Nodup) : d.Carries id u := by
  obtain ⟨inputs, hdeclared, rfl⟩ := declareInputs_of_descriptor h
  obtain ⟨new, hentries, hcarries⟩ :=
    entries_of_declareInputs hdeclared (Table.fresh_empty u.inputs.distinct)
  have hnew : inputs.entries = new := hentries
  have hlast := Descriptor.getLast?_segments id
  have hname : u.name.getD (Descriptor.lastSegment id) =
      u.name.getD (String.ofList (Descriptor.lastSegment id).toList) := by
    rw [String.ofList_toList]
  refine ⟨rfl, rfl, rfl, ⟨_, hlast, hname⟩, rfl, rfl, rfl, rfl, ?_, ?_⟩
  · show List.Forall₂ _ u.inputs.entries inputs.entries
    rw [hnew]
    exact hcarries
  · exact KeySet.toList_foldl_insert houtputs fun _ _ => List.not_mem_nil

theorem command_of_toUnit {unit : WorkUnit} (h : u.toUnit host id = .ok unit) :
    ∃ d script, u.descriptor host id = .ok d ∧ u.script? = some script ∧
      unit = .command host.files d script := by
  rw [toUnit] at h
  cases hscript : u.script? with
  | none =>
      rw [hscript] at h
      cases h
  | some script =>
      rw [hscript] at h
      cases hd : u.descriptor host id with
      | error problem =>
          simp only [hd] at h
          cases h
      | ok d =>
          simp only [hd] at h
          cases h
          exact ⟨d, script, rfl, rfl, rfl⟩

theorem id_of_toUnit {unit : WorkUnit} (h : u.toUnit host id = .ok unit) : unit.id = id := by
  obtain ⟨d, script, hd, -, rfl⟩ := command_of_toUnit h
  obtain ⟨inputs, -, rfl⟩ := declareInputs_of_descriptor hd
  rfl

end UnitSpec

/-! ## What is registered -/

namespace Manifest

variable {host : Host}

theorem entries_of_registerAll {entries : List (String × UnitSpec)} {r r' : Registry}
    (h : registerAll host r entries = .ok r') (hfresh : r.units.Fresh (entries.map Prod.fst))
    (hnamed : ∀ e ∈ entries, Text.allBlank e.1 = false) :
    ∃ new, r'.units.entries = r.units.entries ++ new ∧
      List.Forall₂ (fun e e' => e'.1 = e.1 ∧ e.2.toUnit host e.1 = .ok e'.2) entries new := by
  induction entries generalizing r with
  | nil =>
      cases h
      exact ⟨[], (List.append_nil _).symm, .nil⟩
  | cons e rest ih =>
      obtain ⟨id, u⟩ := e
      rw [registerAll] at h
      cases hunit : u.toUnit host id with
      | error problem =>
          rw [hunit] at h
          cases h
      | ok unit =>
          rw [hunit] at h
          obtain ⟨hname, hrest⟩ := List.forall_mem_cons.mp hnamed
          obtain rfl : unit.id = id := UnitSpec.id_of_toUnit hunit
          have hstored : (r.register unit).units = r.units.insert unit.id unit := by
            simp [Registry.register, hname]
          have hunbound := hfresh.unbound unit.id List.mem_cons_self
          obtain ⟨new, hentries, hunits⟩ := ih h (hstored ▸ hfresh.insert unit) hrest
          refine ⟨(unit.id, unit) :: new, ?_, .cons ⟨rfl, hunit⟩ hunits⟩
          rw [hentries, hstored, Table.entries_insert hunbound, List.append_assoc,
            List.singleton_append]

theorem beside_of_registry {m : Manifest} {r : Registry} (h : m.registry host = .ok r)
    (hm : m.Sound host) :
    m.units.Beside (fun id u unit => u.toUnit host id = .ok unit) r.units := by
  have hnamed : ∀ e ∈ m.units.entries, Text.allBlank e.1 = false :=
    fun e he => allBlank_of_isDottedPath (hm.units e he).dotted
  obtain ⟨new, hentries, hunits⟩ :=
    entries_of_registerAll h (Table.fresh_empty m.units.distinct) hnamed
  have hnew : r.units.entries = new := hentries
  rw [Table.Beside, hnew]
  exact hunits

end Manifest

/-- Checking a manifest and registering it agree.  If the registration stops, then with the message
of a problem that the check finds.  If the check finds none, then the registration succeeds: the
identifiers are those of the manifest in its order, and under each of them is a unit whose
descriptor carries what the manifest says and which runs the script of the manifest. -/
theorem registry_agrees_with_check (m : Manifest) (host : Host) :
    (∀ problem, m.registry host = .error problem →
      problem.message ∈ (m.problems host).map Problem.message) ∧
    (m.problems host = [] → ∃ r, m.registry host = .ok r ∧ r.ids = m.units.keys ∧
      ∀ id u, m.units.get? id = some u → ∃ unit script, r.get? id = some unit ∧
        unit.descriptor.Carries id u ∧ u.run = some script ∧
        unit = .command host.files unit.descriptor script) := by
  refine ⟨fun problem h => List.mem_map_of_mem (Manifest.mem_problems_of_registry h), fun h => ?_⟩
  have hm := Manifest.problems_eq_nil_iff.mp h
  cases hr : m.registry host with
  | error problem =>
      have hproblem := Manifest.mem_problems_of_registry hr
      rw [h] at hproblem
      cases hproblem
  | ok r =>
      have hbeside := Manifest.beside_of_registry hr hm
      refine ⟨r, rfl, hbeside.keys_eq, fun id u hu => ?_⟩
      obtain ⟨unit, hget, hunit⟩ := hbeside.get? hu
      obtain ⟨d, script, hd, hscript, rfl⟩ := UnitSpec.command_of_toUnit hunit
      have hsound := hm.units (id, u) (Table.get?_eq_some_iff.mp hu)
      have hrun : u.run = some script := (Option.filter_eq_some_iff.mp hscript).1
      exact ⟨_, script, hget, UnitSpec.carries_of_descriptor hd hsound.outputs_nodup, hrun, rfl⟩

/-! ## A manifest of two units -/

/-- A unit that makes a token and, with or without a script, one that is handed it. -/
def relay (script : Option String) : Manifest where
  version := "1.0"
  name := "relay"
  units := Table.ofList
    [("org.first", { outputs := ["token"], run := some "echo a" }),
      ("org.second",
        { inputs := Table.ofList
            [("token", { type := .string, required := true, verify := ["non_empty", "glob:*"] })]
          requests := [⟨"org.first", none⟩]
          run := script })]

theorem problems_relay : (relay (some "cat")).problems .fresh = [] := by
  decide +kernel

theorem registry_relay_none :
    (relay none).registry .fresh = .error (.noScript "org.second") := rfl

theorem keys_relay (script : Option String) :
    (relay script).units.keys = ["org.first", "org.second"] := rfl

theorem registry_agrees_with_check_relay :
    (∃ r, (relay (some "cat")).registry .fresh = .ok r ∧ r.ids = ["org.first", "org.second"]) ∧
    (Problem.noScript "org.second").message ∈
      ((relay none).problems .fresh).map Problem.message := by
  obtain ⟨-, hsound⟩ := registry_agrees_with_check (relay (some "cat")) .fresh
  obtain ⟨hstops, -⟩ := registry_agrees_with_check (relay none) .fresh
  obtain ⟨r, hr, hids, -⟩ := hsound problems_relay
  rw [keys_relay] at hids
  exact ⟨⟨r, hr, hids⟩, hstops (.noScript "org.second") registry_relay_none⟩

end Workplan
