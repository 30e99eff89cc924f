/-
# `Workplan.Proofs.Graph.Needed` — what a target needs, said without a search

A unit awaits the first registered producer of each required key that the context does not bind,
and the unit of each active request.  `Needed` is the least set of registered units that holds the
target and, with a unit, everything registered that it awaits; `Dangles` names the identifiers
that the closure runs into without finding a unit, `Lacks` the keys that nothing can supply.
`Needed.mono` compares the closures in two registries and two contexts.

`Enters` lists the edges that belong into a unit, one clause for each kind.  It is the declarative
side of `Registry.edgesInto`, and `mem_edgesInto` says that the two agree.
-/
import Mathlib.Logic.Relation
import Workplan.Graph.Build
import Workplan.Proofs.Table

namespace Workplan.Registry

variable {r : Registry} {c : Context} {target : String}

/-- A unit has to wait for another one: for the first producer of a required key that is not
bound, or for the unit of an active request. -/
inductive Awaits (r : Registry) (c : Context) (id : String) : String → Prop
  | producer {u : WorkUnit} {key p : String} : r.get? id = some u →
      key ∈ u.descriptor.requiredKeys → c.contains key = false → r.FirstProducer key p →
      Awaits r c id p
  | request {u : WorkUnit} {q : Request} : r.get? id = some u → q ∈ u.descriptor.requests →
      q.active c = true → Awaits r c id q.id

/-- The least set of registered units with the target and what its members await. -/
inductive Needed (r : Registry) (c : Context) (target : String) : String → Prop
  | target : r.contains target = true → Needed r c target target
  | awaited {id p : String} : Needed r c target id → r.Awaits c id p → r.contains p = true →
      Needed r c target p

/-- An identifier without a unit that the closure runs into: the target itself, or an active
request of a needed unit. -/
inductive Dangles (r : Registry) (c : Context) (target : String) : String → Prop
  | target : r.contains target = false → Dangles r c target target
  | request {id : String} {u : WorkUnit} {q : Request} : r.Needed c target id →
      r.get? id = some u → q ∈ u.descriptor.requests → q.active c = true →
      r.contains q.id = false → Dangles r c target q.id

/-- A required key of a needed unit that is not bound and that no unit produces. -/
def Lacks (r : Registry) (c : Context) (target key : String) : Prop :=
  ∃ id u, r.Needed c target id ∧ r.get? id = some u ∧ key ∈ u.descriptor.requiredKeys ∧
    c.contains key = false ∧ r.Unproduced key

/-- Some needed unit waits, through needed units, for itself. -/
def Circular (r : Registry) (c : Context) (target : String) : Prop :=
  ∃ id, Relation.TransGen
    (fun a b => r.Needed c target a ∧ r.Needed c target b ∧ r.Awaits c a b) id id

/-- The edges that belong into a unit. -/
inductive Enters (r : Registry) (c : Context) (id : String) (u : WorkUnit) : Edge → Prop
  | provides {key : String} : key ∈ u.descriptor.requiredKeys → c.contains key = true →
      Enters r c id u ⟨.context key, .unit id, .provides⟩
  | providesKey {key p : String} : key ∈ u.descriptor.requiredKeys → c.contains key = false →
      r.FirstProducer key p → Enters r c id u ⟨.unit p, .unit id, .providesKey key⟩
  | required {key : String} : key ∈ u.descriptor.requiredKeys → c.contains key = false →
      r.Unproduced key → Enters r c id u ⟨.missing key, .unit id, .required⟩
  | requested {q : Request} : q ∈ u.descriptor.requests → q.active c = true →
      Enters r c id u ⟨.unit q.id, .unit id, .requested⟩

/-! ## The closure -/

theorem Needed.registered {id : String} (h : r.Needed c target id) : r.contains id = true := by
  cases h with
  | target h => exact h
  | awaited _ _ h => exact h

theorem Needed.get? {id : String} (h : r.Needed c target id) : ∃ u, r.get? id = some u :=
  contains_eq_true_iff.mp h.registered

/-- Two closures of one target compare when each step of the first, taken from a unit in both, is a
step of the second. -/
theorem Needed.mono {r' : Registry} {c' : Context} {id : String} (h : r.Needed c target id)
    (htarget : r.contains target = true → r'.contains target = true)
    (hstep : ∀ id, r.Needed c target id → r'.Needed c' target id → ∀ p, r.Awaits c id p →
      r.contains p = true → r'.Awaits c' id p ∧ r'.contains p = true) :
    r'.Needed c' target id := by
  induction h with
  | target hreg => exact .target (htarget hreg)
  | awaited hid hawaits hreg ih =>
      obtain ⟨hawaits', hreg'⟩ := hstep _ hid ih _ hawaits hreg
      exact .awaited ih hawaits' hreg'

section Registered

variable (h : ∀ x, ¬ r.Dangles c target x)

include h

theorem target_registered : r.contains target = true :=
  Bool.of_not_eq_false fun ht => h target (.target ht)

theorem Awaits.registered {id p : String} (hid : r.Needed c target id) (ha : r.Awaits c id p) :
    r.contains p = true := by
  cases ha with
  | producer _ _ _ hp => exact hp.contains
  | request hu hq hact => exact Bool.of_not_eq_false fun hp => h _ (.request hid hu hq hact hp)

theorem needed_iff_reflTransGen {id : String} :
    r.Needed c target id ↔ Relation.ReflTransGen (r.Awaits c) target id := by
  constructor
  · intro hn
    induction hn with
    | target _ => exact .refl
    | awaited _ ha _ ih => exact ih.tail ha
  · intro hr
    induction hr with
    | refl => exact .target (target_registered h)
    | tail _ ha ih => exact .awaited ih ha (ha.registered h ih)

end Registered

/-! ## The edges into a unit -/

theorem mem_activeRequests {d : Descriptor} {p : String} :
    p ∈ activeRequests c d ↔ ∃ q ∈ d.requests, q.active c = true ∧ q.id = p := by
  simp [activeRequests, and_assoc]

theorem enters_supplyEdge {id key : String} {u : WorkUnit}
    (hk : key ∈ u.descriptor.requiredKeys) : r.Enters c id u (r.supplyEdge c id key) := by
  unfold supplyEdge
  cases hc : c.contains key with
  | true => exact .provides hk hc
  | false =>
      cases hp : r.providersOf key with
      | nil => exact .required hk hc (providersOf_eq_nil_iff.mp hp)
      | cons p others => exact .providesKey hk hc (providersOf_eq_cons_iff.mp ⟨others, hp⟩)

theorem mem_edgesInto {id : String} {u : WorkUnit} {e : Edge} :
    e ∈ r.edgesInto c u.descriptor id ↔ r.Enters c id u e := by
  simp only [edgesInto, List.mem_append, List.mem_map]
  constructor
  · rintro (⟨key, hk, rfl⟩ | ⟨p, hp, rfl⟩)
    · exact enters_supplyEdge hk
    · obtain ⟨q, hq, hact, rfl⟩ := mem_activeRequests.mp hp
      exact .requested hq hact
  · intro h
    cases h with
    | @provides key hk hc => exact Or.inl ⟨key, hk, by simp [supplyEdge, hc]⟩
    | @providesKey key p hk hc hp =>
        obtain ⟨others, hp⟩ := providersOf_eq_cons_iff.mpr hp
        exact Or.inl ⟨key, hk, by simp [supplyEdge, hc, hp]⟩
    | @required key hk hc hn =>
        have hn := providersOf_eq_nil_iff.mpr hn
        exact Or.inl ⟨key, hk, by simp [supplyEdge, hc, hn]⟩
    | @requested q hq hact => exact Or.inr ⟨q.id, mem_activeRequests.mpr ⟨q, hq, hact, rfl⟩, rfl⟩

theorem Enters.target_eq {id : String} {u : WorkUnit} {e : Edge} (h : r.Enters c id u e) :
    e.target = .unit id := by
  cases h <;> rfl

theorem awaits_iff_enters {id p : String} {u : WorkUnit} (hu : r.get? id = some u) :
    r.Awaits c id p ↔ ∃ label, r.Enters c id u ⟨.unit p, .unit id, label⟩ := by
  constructor
  · intro h
    cases h with
    | producer hu' hk hc hp =>
        cases hu.symm.trans hu'
        exact ⟨_, .providesKey hk hc hp⟩
    | request hu' hq hact =>
        cases hu.symm.trans hu'
        exact ⟨_, .requested hq hact⟩
  · rintro ⟨label, h⟩
    cases h with
    | providesKey hk hc hp => exact .producer hu hk hc hp
    | requested hq hact => exact .request hu hq hact

end Workplan.Registry
