/-
# `Workplan.Proofs.Digest.Components` — what the hashed bytes of a plan tell

A list of components is hashed with a NUL behind each one.  Cutting at the NULs gives back the pieces
of all components, one component after the other (`splitOn_joined`), and nothing but these pieces
matters: `bytesOf_eq_iff`.  A text without a NUL is one piece, so the bytes tell such components
apart, whatever they are and however many (`eq_of_bytesOf_eq`).

The components of a plan are one level more: a step is its identifier and its version with an at
sign between them, and both of them may hold at signs.  Then the cut between the two can lie in
several places, and that is all that the bytes of a plan leave open: `planBytes_eq_iff`.
-/
import Mathlib.Data.List.Forall2
import Workplan.Digest.Fingerprint
import Workplan.Manifest.Check
import Workplan.Proofs.Text.Bytes

namespace Workplan.Digest

/-! ## Components -/

/-- A text does not hold the character that closes components. -/
def NulFree (s : String) : Prop := '\x00' ∉ s.toList

instance (s : String) : Decidable (NulFree s) := inferInstanceAs (Decidable (_ ∉ _))

theorem NulFree.append {s t : String} (hs : NulFree s) (ht : NulFree t) : NulFree (s ++ t) := by
  unfold NulFree
  rw [String.toList_append, List.mem_append]
  exact fun h => h.elim hs ht

theorem toList_joined_cons (component : String) (rest : List String) :
    (joined (component :: rest)).toList = component.toList ++ '\x00' :: (joined rest).toList := by
  simp [joined]

/-- The pieces of a text between its NULs. -/
def pieces (s : String) : List (List Char) := s.toList.splitOn '\x00'

theorem NulFree.pieces_eq {s : String} (h : NulFree s) : pieces s = [s.toList] :=
  List.splitOn_eq_singleton h

theorem flatMap_pieces {components : List String} (h : ∀ s ∈ components, NulFree s) :
    components.flatMap pieces = components.map String.toList := by
  rw [← List.flatMap_singleton' (components.map String.toList), List.flatMap_map]
  exact List.flatMap_congr fun s hs => (h s hs).pieces_eq

/-- Cutting at the NULs gives the pieces of each component; behind the last one nothing is left. -/
theorem splitOn_joined (components : List String) :
    (joined components).toList.splitOn '\x00' = components.flatMap pieces ++ [[]] := by
  induction components with
  | nil => rfl
  | cons component rest ih =>
      rw [toList_joined_cons, List.splitOn_append_cons_self, ih, List.flatMap_cons,
        List.append_assoc]
      rfl

/-- The bytes that are hashed tell the pieces, and no more. -/
theorem bytesOf_eq_iff {cs ds : List String} :
    bytesOf cs = bytesOf ds ↔ cs.flatMap pieces = ds.flatMap pieces := by
  rw [← List.append_left_inj [[]], ← splitOn_joined, ← splitOn_joined, bytesOf, bytesOf,
    Text.toList_toUTF8, Text.toList_toUTF8, Text.encode_injective.eq_iff]
  constructor
  · exact congrArg (List.splitOn '\x00')
  · intro h
    have hjoined := congrArg (List.intercalate ['\x00']) h
    rwa [List.intercalate_splitOn, List.intercalate_splitOn] at hjoined

theorem eq_of_bytesOf_eq {cs ds : List String} (hcs : ∀ s ∈ cs, NulFree s)
    (hds : ∀ s ∈ ds, NulFree s) (h : bytesOf cs = bytesOf ds) : cs = ds := by
  have hpieces := bytesOf_eq_iff.mp h
  rw [flatMap_pieces hcs, flatMap_pieces hds] at hpieces
  exact List.map_injective_iff.mpr (fun _ _ => String.toList_inj.mp) hpieces

theorem bytesOf_eq_flatMap (components : List String) :
    bytesOf components = components.flatMap fun c => c.toUTF8.toList ++ [0] := by
  rw [bytesOf, Text.toList_toUTF8]
  induction components with
  | nil => rfl
  | cons component rest ih =>
      have hclosed : Text.encode ('\x00' :: (joined rest).toList) =
          [0] ++ Text.encode (joined rest).toList := rfl
      rw [toList_joined_cons, Text.encode_append, hclosed, ih, List.flatMap_cons,
        Text.toList_toUTF8, List.append_assoc]

/-- What is hashed for a list of components is the bytes of each, closed by the byte zero.  Two lists
are hashed from the same bytes exactly if their components have the same pieces between NULs, so
different lists of components without NULs never are, whatever their lengths. -/
theorem bytes_separate_components :
    (∀ cs, bytesOf cs = cs.flatMap fun c => c.toUTF8.toList ++ [0]) ∧
    (∀ cs ds, bytesOf cs = bytesOf ds ↔ cs.flatMap pieces = ds.flatMap pieces) ∧
    ∀ cs ds, (∀ s ∈ cs ++ ds, NulFree s) → cs ≠ ds → bytesOf cs ≠ bytesOf ds := by
  refine ⟨bytesOf_eq_flatMap, fun _ _ => bytesOf_eq_iff, fun cs ds hfree hne h => hne ?_⟩
  obtain ⟨hcs, hds⟩ := List.forall_mem_append.mp hfree
  exact eq_of_bytesOf_eq hcs hds h

/-- A boundary that moves, and an empty component more, are both seen in the bytes. -/
theorem bytes_separate_components_moved :
    (∀ s ∈ ["ab", "c"] ++ ["a", "bc"], NulFree s) ∧ bytesOf ["ab", "c"] ≠ bytesOf ["a", "bc"] ∧
    (∀ s ∈ ([] : List String) ++ [""], NulFree s) ∧ bytesOf [] ≠ bytesOf [""] := by
  have hmoved : ∀ s ∈ ["ab", "c"] ++ ["a", "bc"], NulFree s := by decide
  have hempty : ∀ s ∈ ([] : List String) ++ [""], NulFree s := by decide
  obtain ⟨-, -, hseparate⟩ := bytes_separate_components
  exact ⟨hmoved, hseparate _ _ hmoved (by decide), hempty, hseparate _ _ hempty (by decide)⟩

/-! ## Pinned steps -/

/-- Two lists with a separator between their parts are the same where the parts are, or where the
first part of the one goes on, behind the separator, into the second part of the other. -/
theorem append_cons_eq_iff {α : Type} {a : α} {xs ys xs' ys' : List α} :
    xs ++ a :: ys = xs' ++ a :: ys' ↔
      (xs = xs' ∧ ys = ys') ∨ (∃ middle, xs' = xs ++ a :: middle ∧ ys = middle ++ a :: ys') ∨
        ∃ middle, xs = xs' ++ a :: middle ∧ ys' = middle ++ a :: ys := by
  constructor
  · intro h
    rcases List.append_eq_append_iff.mp h with ⟨more, rfl, hys⟩ | ⟨more, rfl, hys⟩
    · rcases List.cons_eq_append_iff.mp hys with ⟨rfl, hrest⟩ | ⟨middle, rfl, rfl⟩
      · exact Or.inl ⟨(List.append_nil xs).symm, (List.cons.inj hrest).2.symm⟩
      · exact Or.inr (Or.inl ⟨middle, rfl, rfl⟩)
    · rcases List.cons_eq_append_iff.mp hys with ⟨rfl, hrest⟩ | ⟨middle, rfl, rfl⟩
      · exact Or.inl ⟨List.append_nil xs', (List.cons.inj hrest).2⟩
      · exact Or.inr (Or.inr ⟨middle, rfl, rfl⟩)
  · rintro (⟨rfl, rfl⟩ | ⟨middle, rfl, rfl⟩ | ⟨middle, rfl, rfl⟩)
    · rfl
    · simp
    · simp

/-- The identifier of the second step is that of the first one, an at sign and a front part of its
version. -/
def Shifts (a b : String × String) : Prop :=
  ∃ middle, b.1 = a.1 ++ "@" ++ middle ∧ a.2 = middle ++ "@" ++ b.2

/-- One text is written for two steps: they are the same, or the cut between identifier and version
has moved. -/
def Blurred (a b : String × String) : Prop := a = b ∨ Shifts a b ∨ Shifts b a

theorem toList_pinned (step : String × String) :
    (pinned step).toList = step.1.toList ++ '@' :: step.2.toList := by
  simp [pinned]

theorem shifts_iff {a b : String × String} :
    Shifts a b ↔ ∃ middle, b.1.toList = a.1.toList ++ '@' :: middle ∧
      a.2.toList = middle ++ '@' :: b.2.toList := by
  constructor
  · rintro ⟨middle, hid, hversion⟩
    exact ⟨middle.toList, by simp [hid], by simp [hversion]⟩
  · rintro ⟨middle, hid, hversion⟩
    refine ⟨String.ofList middle, String.toList_inj.mp ?_, String.toList_inj.mp ?_⟩
    · simpa using hid
    · simpa using hversion

theorem pinned_eq_iff {a b : String × String} : pinned a = pinned b ↔ Blurred a b := by
  rw [← String.toList_inj, toList_pinned, toList_pinned, append_cons_eq_iff, Blurred, shifts_iff,
    shifts_iff, Prod.ext_iff, String.toList_inj, String.toList_inj]

theorem not_shifts {a b : String × String}
    (h : '@' ∉ b.1.toList ∨ '@' ∉ a.2.toList) : ¬ Shifts a b := by
  intro hshifts
  obtain ⟨middle, hid, hversion⟩ := shifts_iff.mp hshifts
  rcases h with h | h
  · exact h (by simp [hid])
  · exact h (by simp [hversion])

theorem eq_of_blurred {steps steps' : List (String × String)}
    (h : List.Forall₂ Blurred steps steps')
    (hclear : (∀ s ∈ steps ++ steps', '@' ∉ s.1.toList) ∨
      ∀ s ∈ steps ++ steps', '@' ∉ s.2.toList) : steps = steps' := by
  induction h with
  | nil => rfl
  | @cons a b rest rest' hab _ ih =>
      have hrest : rest = rest' := by
        refine ih (hclear.imp (fun hall s hs => hall s ?_) fun hall s hs => hall s ?_) <;>
        · simp only [List.mem_append, List.mem_cons] at hs ⊢
          exact hs.imp Or.inr Or.inr
      have ha : a ∈ a :: rest ++ b :: rest' := by simp
      have hb : b ∈ a :: rest ++ b :: rest' := by simp
      rcases hab with rfl | hshifts | hshifts
      · rw [hrest]
      · exact absurd hshifts
          (not_shifts (hclear.imp (fun hall => hall b hb) fun hall => hall a ha))
      · exact absurd hshifts
          (not_shifts (hclear.imp (fun hall => hall a ha) fun hall => hall b hb))

/-! ## The bytes of a plan -/

theorem nulFree_planComponents {target : String} {steps : List (String × String)}
    (htarget : NulFree target) (hsteps : ∀ s ∈ steps, NulFree s.1 ∧ NulFree s.2) :
    ∀ s ∈ planComponents target steps, NulFree s := by
  refine List.forall_mem_cons.mpr ⟨htarget, ?_⟩
  intro s hs
  obtain ⟨step, hstep, rfl⟩ := List.mem_map.mp hs
  obtain ⟨hid, hversion⟩ := hsteps step hstep
  exact (hid.append (by decide)).append hversion

/-- The same bytes are hashed for two plans exactly if their targets are the same and their steps
are, one by one, the same or the same but for the cut between identifier and version.  So where the
identifiers hold no at sign, or the versions hold none, the bytes tell any two plans apart. -/
theorem planBytes_eq_iff {target target' : String} {steps steps' : List (String × String)}
    (htarget : NulFree target) (htarget' : NulFree target')
    (hsteps : ∀ s ∈ steps, NulFree s.1 ∧ NulFree s.2)
    (hsteps' : ∀ s ∈ steps', NulFree s.1 ∧ NulFree s.2) :
    (bytesOf (planComponents target steps) = bytesOf (planComponents target' steps') ↔
      target = target' ∧ List.Forall₂ Blurred steps steps') ∧
    ((∀ s ∈ steps ++ steps', '@' ∉ s.1.toList) ∨ (∀ s ∈ steps ++ steps', '@' ∉ s.2.toList) →
      (target, steps) ≠ (target', steps') →
      bytesOf (planComponents target steps) ≠ bytesOf (planComponents target' steps')) := by
  have hpinned : steps.map pinned = steps'.map pinned ↔ List.Forall₂ Blurred steps steps' := by
    rw [← List.forall₂_eq_eq_eq, List.forall₂_map_left_iff, List.forall₂_map_right_iff]
    simp only [pinned_eq_iff]
  have hbytes : bytesOf (planComponents target steps) = bytesOf (planComponents target' steps') ↔
      target = target' ∧ List.Forall₂ Blurred steps steps' := by
    rw [← hpinned]
    constructor
    · intro h
      exact List.cons.inj (eq_of_bytesOf_eq (nulFree_planComponents htarget hsteps)
        (nulFree_planComponents htarget' hsteps') h)
    · rintro ⟨rfl, hmap⟩
      rw [planComponents, planComponents, hmap]
  refine ⟨hbytes, fun hclear hne h => ?_⟩
  obtain ⟨rfl, hblurred⟩ := hbytes.mp h
  exact hne (by rw [eq_of_blurred hblurred hclear])

/-- A new version of a step changes the bytes. -/
theorem planBytes_eq_iff_bumped :
    NulFree "b" ∧ (∀ s ∈ [("a", "1.0@x"), ("b", "1.0")], NulFree s.1 ∧ NulFree s.2) ∧
    (∀ s ∈ [("a", "1.1@x"), ("b", "1.0")], NulFree s.1 ∧ NulFree s.2) ∧
    bytesOf (planComponents "b" [("a", "1.0@x"), ("b", "1.0")]) ≠
      bytesOf (planComponents "b" [("a", "1.1@x"), ("b", "1.0")]) := by
  have hb : NulFree "b" := by decide
  have hsteps : ∀ s ∈ [("a", "1.0@x"), ("b", "1.0")], NulFree s.1 ∧ NulFree s.2 := by decide
  have hsteps' : ∀ s ∈ [("a", "1.1@x"), ("b", "1.0")], NulFree s.1 ∧ NulFree s.2 := by decide
  refine ⟨hb, hsteps, hsteps', (planBytes_eq_iff hb hb hsteps hsteps').2 (Or.inl ?_) (by decide)⟩
  decide

/-- Dotted paths may hold at signs.  So the version of one unit can take up what belongs to the
identifier of another, and two plans that run different units are hashed from the same bytes. -/
theorem pins_run_together :
    isDottedPath "t" = true ∧ isDottedPath "a" = true ∧ isDottedPath "a@b" = true ∧
    NulFree "t" ∧ (∀ s ∈ [("a", "b@c"), ("t", "1")], NulFree s.1 ∧ NulFree s.2) ∧
    (∀ s ∈ [("a@b", "c"), ("t", "1")], NulFree s.1 ∧ NulFree s.2) ∧
    [("a", "b@c"), ("t", "1")] ≠ [("a@b", "c"), ("t", "1")] ∧
    bytesOf (planComponents "t" [("a", "b@c"), ("t", "1")]) =
      bytesOf (planComponents "t" [("a@b", "c"), ("t", "1")]) := by
  have hcomponents : planComponents "t" [("a", "b@c"), ("t", "1")] =
      planComponents "t" [("a@b", "c"), ("t", "1")] := by
    decide
  refine ⟨by decide +kernel, by decide +kernel, by decide +kernel, by decide, by decide, by decide,
    by decide, ?_⟩
  rw [hcomponents]

end Workplan.Digest
