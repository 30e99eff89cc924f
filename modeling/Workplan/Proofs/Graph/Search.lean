/-
# `Workplan.Proofs.Graph.Search` — the search finds what a target needs

`Search.Sound` is what holds at every turn: the units of the graph are those expanded or queued,
all of them needed, and the edges are exactly those that belong into the expanded ones.  A turn
either stops at an identifier without a unit or keeps the invariant.  When the queue is empty, the
units expanded are closed under waiting, and the graph is the one that `Resolves` describes.

The invariant also says that no more units are visited than are registered.  So a search that is
given a round for each of them computes how its course ends (`Course.search_eq`); the bound on the
rounds is never what ends it.
-/
import Mathlib.Data.List.Perm.Subperm
import Workplan.Proofs.Graph.Needed
import Workplan.Proofs.Graph.Shape
import Workplan.Proofs.Graph.Turns

namespace Workplan

open ProviderGraph

/-- The provider graph of a target, said without a search. -/
structure ProviderGraph.Resolves (g : ProviderGraph) (r : Registry) (c : Context)
    (target : String) : Prop where
  target_eq : g.target = target
  wellFormed : g.WellFormed
  units_iff : ∀ id, id ∈ g.units ↔ r.Needed c target id
  edges_iff : ∀ e, e ∈ g.edges ↔
    ∃ id u, r.Needed c target id ∧ r.get? id = some u ∧ r.Enters c id u e
  touched : ∀ n ∈ g.nodes, n = .unit target ∨ ∃ e ∈ g.edges, n = e.source ∨ n = e.target

namespace Registry

variable {r : Registry} {c : Context} {target : String}

/-- What holds of a search at every round. -/
structure Search.Sound (r : Registry) (c : Context) (target : String) (s : Search) : Prop where
  target_eq : s.graph.target = target
  wellFormed : s.graph.WellFormed
  needed : ∀ id ∈ s.graph.units, r.Needed c target id
  seen : ∀ id, id ∈ s.graph.units ↔ id ∈ s.visited ∨ id ∈ s.queue
  visited_nodup : s.visited.Nodup
  edges_iff : ∀ e, e ∈ s.graph.edges ↔
    ∃ id ∈ s.visited, ∃ u, r.get? id = some u ∧ r.Enters c id u e
  registered : ∀ id ∈ s.visited, ∀ p, r.Awaits c id p → r.contains p = true
  touched : ∀ n ∈ s.graph.nodes,
    n = .unit target ∨ ∃ e ∈ s.graph.edges, n = e.source ∨ n = e.target

theorem Search.sound_start (h : r.contains target = true) :
    Search.Sound r c target { queue := [target], graph := .ofTarget target } where
  target_eq := rfl
  wellFormed := wellFormed_ofTarget target
  needed := by
    intro id hid
    obtain rfl : id = target := by simpa [mem_units, ofTarget] using hid
    exact .target h
  seen := by simp [mem_units, ofTarget]
  visited_nodup := List.nodup_nil
  edges_iff := by simp [ofTarget]
  registered := by simp
  touched := by simp [ofTarget]

/-! ## One round -/

theorem awaits_iff_mem_edgesInto {id p : String} {u : WorkUnit} (hu : r.get? id = some u) :
    r.Awaits c id p ↔ ∃ e ∈ r.edgesInto c u.descriptor id, e.source = .unit p := by
  rw [awaits_iff_enters hu]
  constructor
  · rintro ⟨label, h⟩
    exact ⟨_, mem_edgesInto.mpr h, rfl⟩
  · rintro ⟨⟨source, consumer, label⟩, he, rfl⟩
    have h := mem_edgesInto.mp he
    obtain rfl : consumer = .unit id := h.target_eq
    exact ⟨label, h⟩

theorem mem_queue_expand {s : Search} {id x : String} {u : WorkUnit} (hu : r.get? id = some u) :
    x ∈ (Search.expand r c s id u.descriptor).queue ↔
      x ∈ s.queue ∨ (r.Awaits c id x ∧ ¬ (x = id ∨ x ∈ s.visited)) := by
  rw [awaits_iff_mem_edgesInto hu]
  simp only [Search.expand, List.mem_append, List.mem_filter, List.mem_filterMap,
    Bool.not_eq_true', List.contains_eq_mem, decide_eq_false_iff_not, List.mem_cons]
  refine or_congr_right (and_congr_left' ?_)
  constructor
  · rintro ⟨e, he, hx⟩
    exact ⟨e, he, eq_unit_of_unit?_eq hx⟩
  · rintro ⟨e, he, hx⟩
    exact ⟨e, he, by rw [hx]; rfl⟩

theorem mem_units_expand {s : Search} {id x : String} {u : WorkUnit} (hu : r.get? id = some u)
    (hid : id ∈ s.graph.units) :
    x ∈ (Search.expand r c s id u.descriptor).graph.units ↔
      x ∈ s.graph.units ∨ r.Awaits c id x := by
  rw [awaits_iff_mem_edgesInto hu, mem_units]
  simp only [Search.expand, mem_nodes_addEdges, mem_units]
  constructor
  · rintro (h | ⟨e, he, hx | hx⟩)
    · exact Or.inl h
    · exact Or.inr ⟨e, he, hx.symm⟩
    · rw [(mem_edgesInto.mp he).target_eq] at hx
      exact Or.inl (hx ▸ mem_units.mp hid)
  · rintro (h | ⟨e, he, hx⟩)
    · exact Or.inl h
    · exact Or.inr ⟨e, he, Or.inl hx.symm⟩

theorem mem_edges_expand {s : Search} {id : String} {u : WorkUnit} {e : Edge} :
    e ∈ (Search.expand r c s id u.descriptor).graph.edges ↔
      e ∈ s.graph.edges ∨ r.Enters c id u e := by
  simp only [Search.expand, mem_edges_addEdges, mem_edgesInto]

theorem mem_nodes_expand {s : Search} {id : String} {u : WorkUnit} {n : Node}
    (h : n ∈ (Search.expand r c s id u.descriptor).graph.nodes) :
    n ∈ s.graph.nodes ∨ ∃ e, r.Enters c id u e ∧ (n = e.source ∨ n = e.target) := by
  simp only [Search.expand, mem_nodes_addEdges] at h
  exact h.imp_right fun ⟨e, he, hn⟩ => ⟨e, mem_edgesInto.mp he, hn⟩

/-- Popping the front of the queue only moves a unit. -/
theorem Search.Sound.seen_of_pop {s : Search} {id : String} {queue : List String}
    (hs : s.Sound r c target) (hq : s.queue = id :: queue) (x : String) :
    x ∈ s.graph.units ↔ (x = id ∨ x ∈ s.visited) ∨ x ∈ queue := by
  rw [hs.seen, hq, List.mem_cons, ← or_assoc, or_comm (b := x = id)]

theorem Search.Sound.expand {s : Search} {id : String} {u : WorkUnit} {queue : List String}
    (hs : s.Sound r c target) (hq : s.queue = id :: queue) (hid : id ∉ s.visited)
    (hu : r.get? id = some u) (hreg : ∀ p, r.Awaits c id p → r.contains p = true) :
    (Search.expand r c { s with queue } id u.descriptor).Sound r c target := by
  have hseen := hs.seen_of_pop hq
  have hunit : id ∈ s.graph.units := (hseen id).mpr (Or.inl (Or.inl rfl))
  exact
    { target_eq := (target_addEdges _ _).trans hs.target_eq
      wellFormed := (GrowsTo.refl.addEdges _).wellFormed hs.wellFormed
      needed := by
        intro x hx
        rcases (mem_units_expand hu hunit).mp hx with h | h
        · exact hs.needed x h
        · exact .awaited (hs.needed id hunit) h (hreg x h)
      seen := by
        intro x
        rw [mem_units_expand (s := { s with queue }) hu hunit, mem_queue_expand hu]
        show x ∈ s.graph.units ∨ _ ↔ x ∈ id :: s.visited ∨ x ∈ queue ∨ _
        rw [List.mem_cons, hseen x]
        by_cases hx : x = id ∨ x ∈ s.visited
        · exact ⟨fun _ => Or.inl hx, fun _ => Or.inl (Or.inl hx)⟩
        · simp only [hx, false_or, not_false_eq_true, and_true]
      visited_nodup := List.nodup_cons.mpr ⟨hid, hs.visited_nodup⟩
      edges_iff := by
        intro e
        rw [mem_edges_expand]
        show _ ↔ ∃ x ∈ id :: s.visited, _
        simp only [hs.edges_iff, List.mem_cons, exists_eq_or_imp]
        constructor
        · rintro (h | h)
          · exact Or.inr h
          · exact Or.inl ⟨u, hu, h⟩
        · rintro (⟨u', hu', h⟩ | h)
          · cases hu.symm.trans hu'
            exact Or.inr h
          · exact Or.inl h
      registered := by
        intro x hx p hp
        rcases List.mem_cons.mp hx with rfl | hx
        · exact hreg p hp
        · exact hs.registered x hx p hp
      touched := by
        intro n hn
        rcases mem_nodes_expand hn with h | ⟨e, he, hn⟩
        · exact (hs.touched n h).imp_right fun ⟨e, he, hn⟩ =>
            ⟨e, mem_edges_expand.mpr (Or.inl he), hn⟩
        · exact Or.inr ⟨e, mem_edges_expand.mpr (Or.inr he), hn⟩ }

theorem dangles_of_find?_eq_some {id unknown : String} {u : WorkUnit}
    (hid : r.Needed c target id) (hu : r.get? id = some u)
    (h : (activeRequests c u.descriptor).find? (!r.contains ·) = some unknown) :
    r.Dangles c target unknown := by
  obtain ⟨q, hq, hact, rfl⟩ := mem_activeRequests.mp (List.mem_of_find?_eq_some h)
  have hnot : r.contains q.id = false := by simpa using List.find?_some h
  exact .request hid hu hq hact hnot

theorem registered_of_find?_eq_none {id : String} {u : WorkUnit} (hu : r.get? id = some u)
    (h : (activeRequests c u.descriptor).find? (!r.contains ·) = none) {p : String}
    (hp : r.Awaits c id p) : r.contains p = true := by
  cases hp with
  | producer _ _ _ hp => exact hp.contains
  | @request u' q hu' hq hact =>
      cases hu.symm.trans hu'
      have hfound := List.find?_eq_none.mp h q.id (mem_activeRequests.mpr ⟨q, hq, hact, rfl⟩)
      simpa using hfound

/-! ## The whole search -/

theorem Search.Sound.visited_length_le {s : Search} (hs : s.Sound r c target) :
    s.visited.length ≤ r.size := by
  have hsub : s.visited ⊆ r.ids := fun id hid =>
    contains_iff_mem_ids.mp (hs.needed id ((hs.seen id).mpr (Or.inl hid))).registered
  have hlen := (hs.visited_nodup.subperm hsub).length_le
  exact hlen.trans_eq (Table.size_eq_length_keys r.units).symm

/-- A search with nothing left in its queue has found everything that is needed. -/
theorem Search.Sound.resolves {s : Search} (hs : s.Sound r c target) (hq : s.queue = []) :
    s.graph.Resolves r c target ∧ ∀ x, ¬ r.Dangles c target x := by
  have hseen : ∀ id, id ∈ s.graph.units ↔ id ∈ s.visited := by
    intro id
    rw [hs.seen, hq]
    exact or_iff_left List.not_mem_nil
  have htarget : target ∈ s.graph.units :=
    mem_units.mpr (hs.target_eq ▸ hs.wellFormed.target_mem)
  have hclosed : ∀ id, r.Needed c target id → id ∈ s.visited := by
    intro id hid
    induction hid with
    | target _ => exact (hseen target).mp htarget
    | @awaited id p hid hp _ ih =>
        obtain ⟨u, hu⟩ := hid.get?
        obtain ⟨label, he⟩ := (awaits_iff_enters hu).mp hp
        have hedge := (hs.edges_iff _).mpr ⟨id, ih, u, hu, he⟩
        exact (hseen p).mp (mem_units.mpr (hs.wellFormed.source_mem _ hedge))
  have hunits : ∀ id, id ∈ s.graph.units ↔ r.Needed c target id := fun id =>
    ⟨hs.needed id, fun h => (hseen id).mpr (hclosed id h)⟩
  refine ⟨⟨hs.target_eq, hs.wellFormed, hunits, ?_, hs.touched⟩, ?_⟩
  · intro e
    rw [hs.edges_iff]
    constructor
    · rintro ⟨id, hid, u, hu, he⟩
      exact ⟨id, u, (hunits id).mp ((hseen id).mpr hid), hu, he⟩
    · rintro ⟨id, u, hid, hu, he⟩
      exact ⟨id, hclosed id hid, u, hu, he⟩
  · intro x hx
    cases hx with
    | target h =>
        have hreg := (hs.needed target htarget).registered
        exact Bool.false_ne_true (h.symm.trans hreg)
    | request hid hu hq hact h =>
        have hreg := hs.registered _ (hclosed _ hid) _ (.request hu hq hact)
        exact Bool.false_ne_true (h.symm.trans hreg)

/-! ## The courses of a search -/

namespace Search

variable {s next : Search} {worked ids : List String} {found : Found}

theorem Sound.needed_front (hs : s.Sound r c target) {id : String} {queue : List String}
    (hq : s.queue = id :: queue) : r.Needed c target id :=
  hs.needed id ((hs.seen_of_pop hq id).mpr (Or.inl (Or.inl rfl)))

theorem Sound.get?_front_ne_none (hs : s.Sound r c target) {id : String} {queue : List String}
    (hq : s.queue = id :: queue) : r.get? id ≠ none := by
  obtain ⟨u, hu⟩ := (hs.needed_front hq).get?
  rw [hu]
  exact Option.some_ne_none u

theorem Turn.sound (h : Turn r c s worked next) (hs : s.Sound r c target) :
    next.Sound r c target := by
  cases h with
  | @again id queue hq hid =>
      refine { hs with seen := fun x => (hs.seen_of_pop hq x).trans (or_congr_left ?_) }
      exact or_iff_right_of_imp fun hx => hx ▸ hid
  | unregistered hq _ hu => exact absurd hu (hs.get?_front_ne_none hq)
  | expands hq hid hu hfind =>
      exact hs.expand hq hid hu fun _ => registered_of_find?_eq_none hu hfind

theorem Course.outcome (h : Course r c s ids found) (hs : s.Sound r c target) :
    (∃ g, found.graph = .ok g ∧ g.Resolves r c target ∧ ∀ x, ¬ r.Dangles c target x) ∨
    ∃ x, found.graph = .error (.unitNotFound x) ∧ r.Dangles c target x := by
  induction h with
  | @ends s _ _ hends =>
      cases hends with
      | drained hq => exact Or.inl ⟨s.graph, rfl, hs.resolves hq⟩
      | refused hq _ hu hfind =>
          exact Or.inr ⟨_, rfl, dangles_of_find?_eq_some (hs.needed_front hq) hu hfind⟩
  | turn hturn _ ih => exact ih (hturn.sound hs)

theorem Sound.exists_succ_rounds (hs : s.Sound r c target) {rounds : Nat}
    (hrounds : r.size < rounds + s.visited.length) : ∃ n, rounds = n + 1 := by
  have hlen := hs.visited_length_le
  exact Nat.exists_eq_add_one.mpr (by omega)

/-- With a round for each unit that is still to be visited, the search computes how a course ends. -/
theorem Course.search_eq (h : Course r c s ids found) (hs : s.Sound r c target) {rounds : Nat}
    (hrounds : r.size < rounds + s.visited.length) : r.search c rounds s = found := by
  induction h generalizing rounds with
  | ends hends =>
      cases hends with
      | drained hq => cases rounds <;> simp [search, hq]
      | @refused id unknown queue u hq hid hu hfind =>
          obtain ⟨rounds, rfl⟩ := hs.exists_succ_rounds hrounds
          simp [search, hq, hid, hu, hfind]
  | @turn s next worked ids found hturn _ ih =>
      have hnext := hturn.sound hs
      cases hturn with
      | @again id queue hq hid =>
          rw [← ih hnext hrounds]
          cases rounds <;> simp [search, hq, hid]
      | unregistered hq _ hu => exact absurd hu (hs.get?_front_ne_none hq)
      | @expands id queue u hq hid hu hfind =>
          obtain ⟨rounds, rfl⟩ := hs.exists_succ_rounds hrounds
          have hrest : r.size < rounds + (id :: s.visited).length := by
            rw [List.length_cons]
            omega
          rw [← ih hnext hrest]
          simp [search, hq, hid, hu, hfind]

end Search

/-- Building the graph of a target ends with the graph that the target needs, or at an identifier
without a unit. -/
theorem buildGraph_cases (r : Registry) (target : String) (c : Context) :
    (∃ g, r.buildGraph target c = .ok g ∧ g.Resolves r c target ∧
      ∀ x, ¬ r.Dangles c target x) ∨
    ∃ x, r.buildGraph target c = .error (.unitNotFound x) ∧ r.Dangles c target x := by
  unfold buildGraph findProviders
  cases h : r.contains target with
  | true =>
      have hs : Search.Sound r c target { queue := [target], graph := .ofTarget target } :=
        Search.sound_start h
      obtain ⟨ids, found, hcourse⟩ := Search.exists_course r c _
      have hfound := hcourse.search_eq hs (Nat.lt_succ_self r.size)
      rw [← hfound] at hcourse
      exact hcourse.outcome hs
  | false => exact Or.inr ⟨target, rfl, .target h⟩

theorem resolves_of_buildGraph {g : ProviderGraph} (h : r.buildGraph target c = .ok g) :
    g.Resolves r c target ∧ ∀ x, ¬ r.Dangles c target x := by
  rcases buildGraph_cases r target c with ⟨g', hg, hres⟩ | ⟨x, hx, -⟩
  · cases hg.symm.trans h
    exact hres
  · cases hx.symm.trans h

end Registry

end Workplan
