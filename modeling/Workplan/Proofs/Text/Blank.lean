/-
# `Workplan.Proofs.Text.Blank` — blanks around a text

Trimming takes blanks off both ends and stops at the first character that is none.  So a text that
begins and ends with a visible character is what is left of it, however many blanks stand around it.
-/
import Workplan.Text.Blank

namespace Workplan.Text

variable {before cs after : List Char}

theorem dropWhile_isBlank_of_head (hne : cs ≠ []) (hhead : ∀ c ∈ cs.head?, isBlank c = false)
    (rest : List Char) : (cs ++ rest).dropWhile isBlank = cs ++ rest := by
  cases cs with
  | nil => exact absurd rfl hne
  | cons c cs =>
      have hc : isBlank c = false := hhead c rfl
      rw [List.cons_append, List.dropWhile_cons, if_neg (Bool.eq_false_iff.mp hc)]

/-- Blanks around a text that begins and ends with none are cut off, and nothing else is. -/
theorem trimChars_padded (hbefore : ∀ c ∈ before, isBlank c = true)
    (hafter : ∀ c ∈ after, isBlank c = true) (hne : cs ≠ [])
    (hhead : ∀ c ∈ cs.head?, isBlank c = false)
    (hlast : ∀ c ∈ cs.getLast?, isBlank c = false) :
    trimChars (before ++ (cs ++ after)) = cs := by
  have hback : ∀ c ∈ after.reverse, isBlank c = true := by
    intro c hc
    exact hafter c (List.mem_reverse.mp hc)
  have hend : (cs.reverse ++ []).dropWhile isBlank = cs.reverse ++ [] := by
    refine dropWhile_isBlank_of_head ?_ ?_ []
    · simpa using hne
    · rw [List.head?_reverse]
      exact hlast
  rw [List.append_nil] at hend
  rw [trimChars, List.dropWhile_append_of_pos hbefore, dropWhile_isBlank_of_head hne hhead,
    List.reverse_append, List.dropWhile_append_of_pos hback, hend, List.reverse_reverse]

end Workplan.Text
