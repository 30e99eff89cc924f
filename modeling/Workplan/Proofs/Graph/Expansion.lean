/-
# `Workplan.Proofs.Graph.Expansion` — each unit is expanded once, and each choice reported once

A course visits just the units that it goes through, none of them twice (`Course.once`), although
it may have queued them many times; with the closure that `Search.Sound` ends in, these are the
units that the target reaches.  What is reported about a unit is reported in its turn: for each
required key that is contested, the choice among its producers.  Units that require the same key
report the same choice, so the reports are told apart by unit and key.
-/
import Mathlib.Data.List.Forall2
import Mathlib.Data.List.Nodup
import Workplan.Proofs.Graph.Providers

namespace Workplan.Registry

variable {r : Registry} {c : Context} {target : String}

namespace Search

variable {s next : Search} {worked ids : List String} {found : Found}

/-! ## Each unit once -/

/-- What a search reports when it goes through a unit. -/
def reportsAt (r : Registry) (c : Context) (id : String) : List Ambiguity :=
  match r.get? id with
  | none => []
  | some u => u.descriptor.requiredKeys.filterMap (r.ambiguity? c)

theorem reportsAt_of_get? {id : String} {u : WorkUnit} (hu : r.get? id = some u) :
    reportsAt r c id = u.descriptor.requiredKeys.filterMap (r.ambiguity? c) := by
  rw [reportsAt, hu]

/-- What is true of a course: it goes through needed units that were not visited, none of them twice,
and reports on each of them in its turn.  If it finds a graph, nothing needed is left out. -/
structure Once (r : Registry) (c : Context) (target : String) (s : Search) (ids : List String)
    (found : Found) : Prop where
  nodup : (ids ++ s.visited).Nodup
  needed : ∀ id ∈ ids, r.Needed c target id
  ambiguities_eq : found.ambiguities = s.ambiguities ++ ids.flatMap (reportsAt r c)
  complete : ∀ g, found.graph = .ok g → ∀ id, r.Needed c target id → id ∈ ids ++ s.visited

theorem Ends.once (h : Ends r c s ids found) (hs : s.Sound r c target) :
    Once r c target s ids found := by
  cases h with
  | drained hq =>
      refine ⟨hs.visited_nodup, by simp, by simp, fun g _ id hid => ?_⟩
      obtain ⟨hres, -⟩ := hs.resolves hq
      have hseen := (hs.seen id).mp ((hres.units_iff id).mpr hid)
      simpa [hq] using hseen
  | @refused id unknown queue u hq hid hu hfind =>
      refine ⟨List.nodup_cons.mpr ⟨hid, hs.visited_nodup⟩, ?_, ?_, ?_⟩
      · intro x hx
        rw [List.mem_singleton.mp hx]
        exact hs.needed_front hq
      · rw [List.flatMap_singleton, reportsAt_of_get? hu]
      · intro g hg
        cases hg

theorem Turn.once (h : Turn r c s worked next) (hs : s.Sound r c target)
    (hrest : Once r c target next ids found) : Once r c target s (worked ++ ids) found := by
  cases h with
  | again hq hid => exact ⟨hrest.nodup, hrest.needed, hrest.ambiguities_eq, hrest.complete⟩
  | unregistered hq _ hu => exact absurd hu (hs.get?_front_ne_none hq)
  | @expands id queue u hq hid hu hfind =>
      -- what the rest of the course finds visited, the unit included, it does not go through again
      have hperm : (ids ++ id :: s.visited).Perm (id :: ids ++ s.visited) := List.perm_middle
      refine ⟨hperm.nodup_iff.mp hrest.nodup, ?_, ?_, ?_⟩
      · intro x hx
        rcases List.mem_cons.mp hx with rfl | hx
        · exact hs.needed_front hq
        · exact hrest.needed x hx
      · rw [List.singleton_append, List.flatMap_cons, reportsAt_of_get? hu, ← List.append_assoc]
        exact hrest.ambiguities_eq
      · intro g hg x hx
        exact hperm.mem_iff.mp (hrest.complete g hg x hx)

theorem Course.once (h : Course r c s ids found) (hs : s.Sound r c target) :
    Once r c target s ids found := by
  induction h with
  | ends hends => exact hends.once hs
  | turn hturn _ ih => exact hturn.once hs (ih (hturn.sound hs))

end Search

/-! ## Contested keys -/

/-- A key that is not bound and that several registered units produce. -/
def Contested (r : Registry) (c : Context) (key : String) : Prop :=
  c.contains key = false ∧ 2 ≤ (r.providersOf key).length

instance (r : Registry) (c : Context) (key : String) : Decidable (r.Contested c key) :=
  inferInstanceAs (Decidable (_ ∧ _))

/-- A report on a key lists all its producers as they are registered, and the first one is chosen. -/
def Reports (r : Registry) (key : String) (a : Ambiguity) : Prop :=
  a.key = key ∧ a.candidates = r.providersOf key ∧ (r.providersOf key).head? = some a.chosen

theorem ambiguity?_of_not_contested {key : String} (h : ¬ r.Contested c key) :
    r.ambiguity? c key = none := by
  unfold ambiguity?
  cases hc : c.contains key with
  | true => rfl
  | false =>
      cases hp : r.providersOf key with
      | nil => rfl
      | cons chosen others =>
          cases others with
          | nil => rfl
          | cons other more => exact absurd ⟨hc, by simp [hp]⟩ h

theorem exists_ambiguity?_of_contested {key : String} (h : r.Contested c key) :
    ∃ a, r.ambiguity? c key = some a ∧ r.Reports key a := by
  obtain ⟨hc, hlen⟩ := h
  unfold ambiguity? Reports
  cases hp : r.providersOf key with
  | nil => simp [hp] at hlen
  | cons chosen others =>
      cases others with
      | nil => simp [hp] at hlen
      | cons other more => exact ⟨⟨key, chosen, _⟩, by simp [hc], rfl, rfl, rfl⟩

/-- The contested keys that a unit requires, with the unit. -/
def contestedAt (r : Registry) (c : Context) (id : String) : List (String × String) :=
  match r.get? id with
  | none => []
  | some u =>
      (u.descriptor.requiredKeys.filter fun key => r.Contested c key).map fun key => (id, key)

theorem mem_contestedAt {id : String} {p : String × String} :
    p ∈ r.contestedAt c id ↔ p.1 = id ∧
      ∃ u, r.get? id = some u ∧ p.2 ∈ u.descriptor.requiredKeys ∧ r.Contested c p.2 := by
  obtain ⟨x, key⟩ := p
  cases hu : r.get? id with
  | none => simp [contestedAt, hu]
  | some u =>
      simp only [contestedAt, hu, List.mem_map, List.mem_filter, decide_eq_true_eq, Prod.mk.injEq,
        Option.some.injEq, exists_eq_left']
      constructor
      · rintro ⟨k, hk, rfl, rfl⟩
        exact ⟨rfl, hk⟩
      · rintro ⟨rfl, hk⟩
        exact ⟨key, hk, rfl, rfl⟩

theorem nodup_contestedAt (id : String) : (r.contestedAt c id).Nodup := by
  unfold contestedAt
  cases r.get? id with
  | none => exact List.nodup_nil
  | some u =>
      exact (u.descriptor.nodup_requiredKeys.filter _).map (Prod.mk_right_injective id)

/-- Different units contest different pairs, even where they require the same key. -/
theorem nodup_flatMap_contestedAt {ids : List String} (h : ids.Nodup) :
    (ids.flatMap (r.contestedAt c)).Nodup := by
  refine List.nodup_flatMap.mpr ⟨fun id _ => nodup_contestedAt id, h.imp fun hne p hp hp' => ?_⟩
  exact hne ((mem_contestedAt.mp hp).1.symm.trans (mem_contestedAt.mp hp').1)

theorem reports_filterMap (id : String) (keys : List String) :
    List.Forall₂ (fun p a => r.Reports p.2 a)
      ((keys.filter fun key => r.Contested c key).map fun key => (id, key))
      (keys.filterMap (r.ambiguity? c)) := by
  induction keys with
  | nil => exact .nil
  | cons key keys ih =>
      by_cases h : r.Contested c key
      · obtain ⟨a, ha, hreports⟩ := exists_ambiguity?_of_contested h
        rw [List.filterMap_cons_some ha]
        simp only [List.filter_cons, decide_eq_true h, if_true]
        exact .cons hreports ih
      · rw [List.filterMap_cons_none (ambiguity?_of_not_contested h)]
        simp only [List.filter_cons, h, decide_false]
        exact ih

theorem reports_flatMap (ids : List String) :
    List.Forall₂ (fun p a => r.Reports p.2 a) (ids.flatMap (r.contestedAt c))
      (ids.flatMap (Search.reportsAt r c)) := by
  induction ids with
  | nil => exact .nil
  | cons id ids ih =>
      have hid : List.Forall₂ (fun p a => r.Reports p.2 a) (r.contestedAt c id)
          (Search.reportsAt r c id) := by
        unfold contestedAt Search.reportsAt
        cases r.get? id with
        | none => exact .nil
        | some u => exact reports_filterMap id u.descriptor.requiredKeys
      exact List.rel_append hid ih

/-! ## The whole search -/

/-- No search goes on for ever: from any state it comes to an end.  From a registered target on, its
turns come to what is computed; they go through needed units only and through none of them twice.
If a graph is found they have gone through every unit that the target reaches, and what has been
reported is, one by one, the choice among the producers of each key that one of these units
requires, that is not bound and that several units produce. -/
theorem search_expands_once (r : Registry) (target : String) (c : Context) :
    (WellFounded fun next s => ∃ worked, Search.Turn r c s worked next) ∧
    (∀ s, ∃ ids found, Search.Course r c s ids found) ∧
    (r.contains target = false → r.findProviders target c = ⟨[], .error (.unitNotFound target)⟩) ∧
    (r.contains target = true → ∀ ids found,
      Search.Course r c { queue := [target], graph := .ofTarget target } ids found →
      found = r.findProviders target c ∧ ids.Nodup ∧ (∀ id ∈ ids, r.Needed c target id) ∧
      ∀ g, found.graph = .ok g →
        (∀ id, id ∈ ids ↔ Relation.ReflTransGen (r.Awaits c) target id) ∧
        ∃ contests : List (String × String), contests.Nodup ∧
          (∀ id key, (id, key) ∈ contests ↔ Relation.ReflTransGen (r.Awaits c) target id ∧
            ∃ u, r.get? id = some u ∧ key ∈ u.descriptor.requiredKeys ∧
              c.contains key = false ∧ 2 ≤ (r.providersOf key).length) ∧
          List.Forall₂ (fun p a => r.Reports p.2 a) contests found.ambiguities) := by
  refine ⟨Search.turn_wellFounded r c, Search.exists_course r c, ?_, ?_⟩
  · intro hnot
    rw [findProviders, hnot]
    rfl
  · intro htarget ids found hcourse
    have hsound : Search.Sound r c target { queue := [target], graph := .ofTarget target } :=
      Search.sound_start htarget
    have hfound : found = r.findProviders target c := by
      rw [findProviders, htarget]
      exact (hcourse.search_eq hsound (Nat.lt_succ_self r.size)).symm
    have honce := hcourse.once hsound
    have hnodup : ids.Nodup := List.append_nil ids ▸ honce.nodup
    refine ⟨hfound, hnodup, honce.needed, fun g hg => ?_⟩
    have hgraph : r.buildGraph target c = .ok g := by
      rw [buildGraph, ← hfound, hg]
    obtain ⟨-, hregistered⟩ := resolves_of_buildGraph hgraph
    have hmem : ∀ id, id ∈ ids ↔ Relation.ReflTransGen (r.Awaits c) target id := by
      intro id
      rw [← needed_iff_reflTransGen hregistered]
      constructor
      · exact honce.needed id
      · intro hid
        simpa using honce.complete g hg id hid
    refine ⟨hmem, ids.flatMap (r.contestedAt c), nodup_flatMap_contestedAt hnodup, ?_, ?_⟩
    · intro id key
      simp only [List.mem_flatMap, mem_contestedAt]
      constructor
      · rintro ⟨_, hid, rfl, hkey⟩
        exact ⟨(hmem id).mp hid, hkey⟩
      · rintro ⟨hid, hkey⟩
        exact ⟨id, (hmem id).mpr hid, rfl, hkey⟩
    · rw [honce.ambiguities_eq]
      exact reports_flatMap ids

/-- Each of the two producers of `k` requires it, the first one besides what the second one produces
alone. -/
def entangled : Registry := ({} : Registry).registerMany
  [.constant "z" ["k", "m"] [("k", "from z")], .constant "a" ["k"] [("k", "from a"), ("m", "")],
    .constant "u" ["k", "m"] []]

/-- The second producer is queued twice and passed over the second time. -/
theorem course_entangled :
    Search.Course entangled {} { queue := ["u"], graph := .ofTarget "u" } ["u", "z", "a"]
      (entangled.findProviders "u" {}) := by
  show Search.Course _ _ _ (["u"] ++ (["z"] ++ (["a"] ++ ([] ++ [])))) _
  refine .turn (.expands rfl (by decide) rfl rfl) ?_
  refine .turn (.expands rfl (by decide) rfl rfl) ?_
  refine .turn (.expands rfl (by decide) rfl rfl) ?_
  refine .turn (.again rfl (by decide)) ?_
  exact .ends (.drained rfl)

theorem search_expands_once_entangled :
    entangled.contains "u" = true ∧
    Relation.ReflTransGen (entangled.Awaits {}) "u" "a" ∧
    ∃ contests : List (String × String), contests.Nodup ∧
      List.Forall₂ (fun p a => entangled.Reports p.2 a) contests
        [⟨"k", "z", ["z", "a"]⟩, ⟨"k", "z", ["z", "a"]⟩, ⟨"k", "z", ["z", "a"]⟩] := by
  have htarget : entangled.contains "u" = true := by decide
  obtain ⟨-, -, -, hsearch⟩ := search_expands_once entangled "u" {}
  obtain ⟨-, -, -, hgraph⟩ := hsearch htarget _ _ course_entangled
  obtain ⟨hmem, contests, hnodup, -, hreports⟩ := hgraph _ rfl
  exact ⟨htarget, (hmem "a").mp (by decide), contests, hnodup, hreports⟩

end Workplan.Registry
