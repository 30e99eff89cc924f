/-
# `Workplan.Proofs.Text.Lines` — lines of texts that are put together

Where a text ends with a line feed, or is empty, what is written after it begins a new line: the
lines of both together are the lines of the one and then those of the other (`lines_append`).
Where it does not, its last line goes on with the next text.
-/
import Workplan.Text.Lines

namespace Workplan.Text

variable {s t : String}

/-- Text written after this one begins a line. -/
def EndsLine (s : String) : Prop := s = "" ∨ s.toList.getLast? = some '\n'

instance (s : String) : Decidable (EndsLine s) := by
  unfold EndsLine
  infer_instance

theorem endsLine_append_lineFeed (s : String) : EndsLine (s ++ "\n") :=
  Or.inr (by simp)

theorem splitLineFeeds_eq_splitOn (cs : List Char) : splitLineFeeds cs = cs.splitOn '\n' := by
  induction cs with
  | nil => rfl
  | cons c cs ih =>
      rw [List.splitOn_cons_eq_if_modifyHead]
      split
      · rename_i hc
        rw [eq_of_beq hc, splitLineFeeds, ih]
      · rename_i hc
        have hne : c ≠ '\n' := by simpa using hc
        obtain ⟨piece, more, hpieces⟩ := List.exists_cons_of_ne_nil (List.splitOn_ne_nil '\n' cs)
        rw [splitLineFeeds.eq_3 _ _ hne, ih, hpieces]
        rfl

theorem splitLineFeeds_ne_nil (cs : List Char) : splitLineFeeds cs ≠ [] := by
  rw [splitLineFeeds_eq_splitOn]
  exact List.splitOn_ne_nil '\n' cs

theorem lineChars_append_cons (cs ds : List Char) :
    lineChars (cs ++ '\n' :: ds) = (splitLineFeeds cs).map dropCarriageReturn ++ lineChars ds := by
  have hne := splitLineFeeds_ne_nil ds
  have hpieces : splitLineFeeds (cs ++ '\n' :: ds) = splitLineFeeds cs ++ splitLineFeeds ds := by
    simp only [splitLineFeeds_eq_splitOn, List.splitOn_append_cons_self]
  have hlast : (splitLineFeeds cs ++ splitLineFeeds ds).getLast? =
      (splitLineFeeds ds).getLast? := by
    rw [List.getLast?_append, List.getLast?_eq_some_getLast hne, Option.some_or]
  simp only [lineChars, hpieces, List.dropLast_append_of_ne_nil hne, List.map_append, hlast]
  split <;> simp only [List.append_assoc]

theorem lineChars_append_lineFeed (cs : List Char) :
    lineChars (cs ++ ['\n']) = (splitLineFeeds cs).map dropCarriageReturn := by
  rw [lineChars_append_cons]
  exact List.append_nil _

theorem lines_append (hs : EndsLine s) : lines (s ++ t) = lines s ++ lines t := by
  rcases hs with rfl | hs
  · rw [String.empty_append]
    rfl
  · obtain ⟨front, hfront⟩ := List.getLast?_eq_some_iff.mp hs
    rw [lines, lines, lines, String.toList_append, hfront, List.append_assoc,
      List.singleton_append, lineChars_append_cons, lineChars_append_lineFeed, List.map_append]

theorem splitLineFeeds_of_notMem {cs : List Char} (h : '\n' ∉ cs) : splitLineFeeds cs = [cs] := by
  rw [splitLineFeeds_eq_splitOn, List.splitOn_eq_singleton h]

theorem dropCarriageReturn_of_notMem {cs : List Char} (h : '\r' ∉ cs) :
    dropCarriageReturn cs = cs := by
  unfold dropCarriageReturn
  split
  · rename_i rest hrest
    refine absurd ?_ h
    rw [← List.mem_reverse, hrest]
    exact List.mem_cons_self
  · rfl

theorem lines_line (hfeed : '\n' ∉ s.toList) (hreturn : '\r' ∉ s.toList) :
    lines (s ++ "\n") = [s] := by
  rw [lines, String.toList_append]
  change (lineChars (s.toList ++ ['\n'])).map String.ofList = [s]
  rw [lineChars_append_lineFeed, splitLineFeeds_of_notMem hfeed, List.map_singleton,
    dropCarriageReturn_of_notMem hreturn, List.map_singleton, String.ofList_toList]

theorem lines_of_notMem (hfeed : '\n' ∉ s.toList) (hne : s ≠ "") : lines s = [s] := by
  obtain ⟨c, cs, hcs⟩ := List.exists_cons_of_ne_nil (mt String.toList_eq_nil_iff.mp hne)
  have hline : lineChars s.toList = [s.toList] := by
    rw [lineChars, splitLineFeeds_of_notMem hfeed, hcs]
    rfl
  rw [lines, hline, List.map_singleton, String.ofList_toList]

end Workplan.Text
