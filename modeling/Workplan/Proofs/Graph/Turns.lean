/-
# `Workplan.Proofs.Graph.Turns` — the turns of a search

A search takes its queue from the front, one identifier a turn, and the queue grows while it is
worked off.  It may hold an identifier several times: what is queued already is no reason not to
queue it again.  `Turn` and `Ends` are the turns of the loop one by one, those that only pass over
an identifier included, and `Course` strings them together with the units that they go through.

A turn leaves fewer registered units unvisited, or as many and a shorter queue.  So there is no
endless course (`turn_wellFounded`), and from any state there is one that ends (`exists_course`).
-/
import Mathlib.Data.Prod.Lex
import Mathlib.Order.WellFounded
import Workplan.Graph.Build
import Workplan.Proofs.Table

namespace Workplan.Registry.Search

variable {r : Registry} {c : Context}

/-! ## The turns of the loop -/

/-- One turn of a search that goes on after it, with the units that it goes through. -/
inductive Turn (r : Registry) (c : Context) (s : Search) : List String → Search → Prop
  | again {id : String} {queue : List String} : s.queue = id :: queue → id ∈ s.visited →
      Turn r c s [] { s with queue }
  | unregistered {id : String} {queue : List String} : s.queue = id :: queue → id ∉ s.visited →
      r.get? id = none → Turn r c s [] { s with visited := id :: s.visited, queue }
  | expands {id : String} {queue : List String} {u : WorkUnit} : s.queue = id :: queue →
      id ∉ s.visited → r.get? id = some u →
      (activeRequests c u.descriptor).find? (!r.contains ·) = none →
      Turn r c s [id] (expand r c { s with queue } id u.descriptor)

/-- The last turn of a search: nothing is queued, or a unit requests one that is not registered. -/
inductive Ends (r : Registry) (c : Context) (s : Search) : List String → Found → Prop
  | drained : s.queue = [] → Ends r c s [] ⟨s.ambiguities, .ok s.graph⟩
  | refused {id unknown : String} {queue : List String} {u : WorkUnit} : s.queue = id :: queue →
      id ∉ s.visited → r.get? id = some u →
      (activeRequests c u.descriptor).find? (!r.contains ·) = some unknown →
      Ends r c s [id] ⟨s.ambiguities ++ u.descriptor.requiredKeys.filterMap (r.ambiguity? c),
        .error (.unitNotFound unknown)⟩

/-- The turns of a search up to its end, with the units that they go through in their order. -/
inductive Course (r : Registry) (c : Context) : Search → List String → Found → Prop
  | ends {s : Search} {ids : List String} {found : Found} : Ends r c s ids found →
      Course r c s ids found
  | turn {s next : Search} {worked ids : List String} {found : Found} :
      Turn r c s worked next → Course r c next ids found → Course r c s (worked ++ ids) found

variable {s next : Search} {worked ids : List String} {found : Found}

theorem exists_turn_or_ends (r : Registry) (c : Context) (s : Search) :
    (∃ worked next, Turn r c s worked next) ∨ ∃ worked found, Ends r c s worked found := by
  cases hq : s.queue with
  | nil => exact Or.inr ⟨_, _, .drained hq⟩
  | cons id queue =>
      by_cases hid : id ∈ s.visited
      · exact Or.inl ⟨_, _, .again hq hid⟩
      · cases hu : r.get? id with
        | none => exact Or.inl ⟨_, _, .unregistered hq hid hu⟩
        | some u =>
            cases hfind : (activeRequests c u.descriptor).find? (!r.contains ·) with
            | none => exact Or.inl ⟨_, _, .expands hq hid hu hfind⟩
            | some unknown => exact Or.inr ⟨_, _, .refused hq hid hu hfind⟩

/-! ## No search goes on for ever -/

/-- The registered units that a search has not visited. -/
def unvisited (r : Registry) (s : Search) : List String :=
  r.ids.filter fun id => id ∉ s.visited

/-- The units left to visit count first, what is queued comes second. -/
def size (r : Registry) (s : Search) : Nat ×ₗ Nat :=
  toLex ((s.unvisited r).length, s.queue.length)

theorem unvisited_cons (r : Registry) (s : Search) (id : String) (queue : List String) :
    unvisited r { s with visited := id :: s.visited, queue } =
      (s.unvisited r).filter fun x => x ≠ id := by
  rw [unvisited, unvisited, List.filter_filter]
  refine List.filter_congr fun x _ => ?_
  simp

theorem Turn.size_lt (h : Turn r c s worked next) : next.size r < s.size r := by
  cases h with
  | @again id queue hq hid =>
      refine Prod.Lex.right _ ?_
      simp [hq]
  | @unregistered id queue hq hid hu =>
      -- what is not registered was not counted among the units left
      have hkept : (s.unvisited r).filter (fun x => x ≠ id) = s.unvisited r := by
        refine List.filter_eq_self.mpr fun x hx => ?_
        have hx' := contains_iff_mem_ids.mpr (List.mem_filter.mp hx).1
        refine decide_eq_true fun heq => ?_
        rw [heq, contains_eq_true_iff, hu] at hx'
        simp at hx'
      rw [size, unvisited_cons, hkept, size]
      refine Prod.Lex.right _ ?_
      simp [hq]
  | @expands id queue u hq hid hu hfind =>
      have hleft : id ∈ s.unvisited r := by
        refine List.mem_filter.mpr ⟨contains_iff_mem_ids.mp (contains_of_get? hu), ?_⟩
        exact decide_eq_true hid
      have hless : ((s.unvisited r).filter fun x => x ≠ id).length < (s.unvisited r).length :=
        List.length_filter_lt_length_iff_exists.mpr ⟨id, hleft, by simp⟩
      refine Prod.Lex.left _ _ ?_
      rw [← unvisited_cons r s id queue] at hless
      exact hless

theorem turn_wellFounded (r : Registry) (c : Context) :
    WellFounded fun next s => ∃ worked, Turn r c s worked next := by
  refine Subrelation.wf ?_ (InvImage.wf (size r) wellFounded_lt)
  rintro next s ⟨worked, h⟩
  exact h.size_lt

theorem exists_course (r : Registry) (c : Context) (s : Search) :
    ∃ ids found, Course r c s ids found := by
  induction s using (turn_wellFounded r c).induction with
  | _ s ih =>
      rcases exists_turn_or_ends r c s with ⟨worked, next, hturn⟩ | ⟨worked, found, hends⟩
      · obtain ⟨ids, found, hcourse⟩ := ih next ⟨worked, hturn⟩
        exact ⟨_, found, .turn hturn hcourse⟩
      · exact ⟨worked, found, .ends hends⟩

end Workplan.Registry.Search
