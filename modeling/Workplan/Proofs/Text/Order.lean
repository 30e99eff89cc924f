/-
# `Workplan.Proofs.Text.Order` — texts listed in code-point order

Sets of texts are shown as sorted lists.  Sorting distinct texts gives a strictly sorted list, a
strictly sorted list is known by its members, and removing repetitions from distinct texts removes
nothing.
-/
import Mathlib.Data.List.Perm.Basic
import Mathlib.Data.String.Basic

namespace Workplan.Text

theorem pairwise_lt_mergeSort {xs : List String} (h : xs.Nodup) :
    (xs.mergeSort fun a b => decide (a ≤ b)).Pairwise (· < ·) := by
  have hle : (xs.mergeSort fun a b => decide (a ≤ b)).Pairwise
      fun a b => decide (a ≤ b) = true := by
    refine List.pairwise_mergeSort ?_ ?_ xs
    · intro a b c hab hbc
      simp only [decide_eq_true_eq] at *
      exact le_trans hab hbc
    · intro a b
      simpa using le_total a b
  have hne := (List.mergeSort_perm xs fun a b => decide (a ≤ b)).nodup_iff.mpr h
  refine (hle.and hne).imp ?_
  rintro a b ⟨hab, hn⟩
  exact lt_of_le_of_ne (by simpa using hab) hn

theorem eq_of_sorted_of_mem_iff {xs ys : List String} (hx : xs.Pairwise (· < ·))
    (hy : ys.Pairwise (· < ·)) (h : ∀ x, x ∈ xs ↔ x ∈ ys) : xs = ys := by
  have hperm : xs.Perm ys :=
    (List.perm_ext_iff_of_nodup (hx.imp ne_of_lt) (hy.imp ne_of_lt)).mpr h
  exact hperm.eq_of_pairwise (fun _ _ _ _ hab hba => absurd hab (lt_asymm hba)) hx hy

theorem eraseRepsBy_loop_eq :
    ∀ (a : String) (xs acc : List String), (a :: xs).Nodup →
      List.eraseRepsBy.loop (· == ·) a xs acc = acc.reverse ++ a :: xs
  | a, [], acc, _ => by simp [List.eraseRepsBy.loop]
  | a, x :: xs, acc, h => by
      obtain ⟨ha, hxs⟩ := List.nodup_cons.mp h
      have hax : (a == x) = false := by
        simp only [beq_eq_false_iff_ne]
        exact fun e => ha (e ▸ List.mem_cons_self)
      simp only [List.eraseRepsBy.loop, hax]
      rw [eraseRepsBy_loop_eq x xs (a :: acc) hxs]
      simp

theorem eraseReps_eq_self : ∀ {xs : List String}, xs.Nodup → xs.eraseReps = xs
  | [], _ => rfl
  | a :: xs, h => by
      simp [List.eraseReps, List.eraseRepsBy, eraseRepsBy_loop_eq a xs [] h]

end Workplan.Text
