/-
# `Workplan.Proofs.Journal.Torn` — a record that was cut short

A write that is cut short leaves the beginning of a record without its line feed.  Alone it holds
no event.  The next append writes behind it on the same line, and that line holds none either: a
bracket is still open at its end, or the new record began inside a string, which its first quote
ends where no string may end (`not_closed_text`).  So the first event that is appended is lost, and
no other (`read_after_cut`).
-/
import Workplan.Proofs.Journal.Append
import Workplan.Proofs.Json.Brackets

namespace Workplan

open Json Json.Scan

variable {torn : String}

/-- A part of the text of an event: its beginning, not nothing and not the whole. -/
def TimedEvent.Cut (torn : String) : Prop :=
  ∃ (e : TimedEvent) (missing : String), torn ≠ "" ∧ missing ≠ "" ∧ torn ++ missing = e.text

namespace TimedEvent

theorem ofText?_of_not_closed {line : String} (h : ¬ Closed 0 ((plain 0).run line.toList)) :
    ofText? line = none := by
  unfold ofText?
  cases hdocument : parseDocument line with
  | none => rfl
  | some j => exact absurd (closed_of_parseDocument hdocument) h

theorem toList_text (e : TimedEvent) : e.text.toList = e.toJson.chars := String.toList_ofList

theorem Cut.open (h : Cut torn) : 1 ≤ ((plain 0).run torn.toList).depth := by
  obtain ⟨e, missing, htorn, hmissing, htext⟩ := h
  have hchars : torn.toList ++ missing.toList = e.toJson.chars := by
    rw [← toList_text, ← htext, String.toList_append]
  exact open_of_cut hchars (mt String.toList_eq_nil_iff.mp htorn)
    (mt String.toList_eq_nil_iff.mp hmissing)

theorem Cut.ofText?_eq (h : Cut torn) : ofText? torn = none := by
  refine ofText?_of_not_closed fun hclosed => ?_
  have hdepth := h.open
  rw [hclosed.depth_eq] at hdepth
  omega

/-- Where a bracket is open, the text of an event does not close it: outside strings it leaves the
depth as it is, and in a string its first quote stands where no string may end. -/
theorem not_closed_text {s : Scan} (hs : 1 ≤ s.depth) (e : TimedEvent) :
    ¬ Closed 0 (s.run e.text.toList) := by
  obtain ⟨more, hmore⟩ : ∃ more, e.text.toList = '\x7b' :: '"' :: 't' :: more := by
    rw [toList_text]
    exact ⟨_, rfl⟩
  have hfailed (cs : List Char) : ¬ Closed 0 (failed.run cs) := by
    rw [run_failed]
    rintro (h | h) <;> cases h
  cases s with
  | plain d =>
      obtain ⟨s, hs', hpasses⟩ := passes_chars e.toJson d
      rw [toList_text, hpasses.run_eq]
      intro hclosed
      have hzero := hclosed.depth_eq
      rw [hs'.depth_eq] at hzero
      exact absurd hs (by rw [depth, hzero]; decide)
  | quoted d =>
      rw [hmore]
      exact hfailed more
  | escaped d =>
      rw [hmore]
      exact hfailed more
  | ended d =>
      rw [hmore]
      exact hfailed _
  | failed => cases hs

theorem Cut.ofText?_append (h : Cut torn) (e : TimedEvent) : ofText? (torn ++ e.text) = none := by
  refine ofText?_of_not_closed ?_
  rw [String.toList_append, run_append]
  exact not_closed_text h.open e

theorem Cut.notMem (h : Cut torn) {c : Char} (hc : ¬Json.Visible c) : c ∉ torn.toList := by
  obtain ⟨e, missing, -, -, htext⟩ := h
  intro hmem
  refine e.notMem_text hc ?_
  rw [← htext, String.toList_append]
  exact List.mem_append_left _ hmem

end TimedEvent

namespace Journal

open TimedEvent

variable {t t' : FileTree} {directory complete : String} {es : List TimedEvent}

/-- The beginning of a record at the end of a journal costs nothing as long as it ends there. -/
theorem eventsOf_cut (hline : Text.EndsLine complete) (htorn : Cut torn) :
    eventsOf (complete ++ torn) = eventsOf complete := by
  obtain ⟨-, -, hne, -⟩ := id htorn
  have halone : eventsOf torn = [] := by
    rw [eventsOf, Text.lines_of_notMem (htorn.notMem (by decide)) hne]
    simp [htorn.ofText?_eq]
  rw [eventsOf_append hline, halone, List.append_nil]

/-- The first of the lines behind it goes on with it, and is none of an event. -/
theorem eventsOf_cut_linesOf (hline : Text.EndsLine complete) (htorn : Cut torn)
    (hes : ∀ e ∈ es, e.Storable) :
    eventsOf (complete ++ torn ++ linesOf es) = eventsOf complete ++ es.tail := by
  cases es with
  | nil =>
      rw [linesOf, String.append_empty, eventsOf_cut hline htorn, List.tail_nil, List.append_nil]
  | cons e es =>
      have hline' : '\n' ∉ (torn ++ e.text).toList ∧ '\r' ∉ (torn ++ e.text).toList := by
        simp only [String.toList_append, List.mem_append, not_or]
        exact ⟨⟨htorn.notMem (by decide), e.notMem_text (by decide)⟩,
          htorn.notMem (by decide), e.notMem_text (by decide)⟩
      have hfirst : eventsOf (torn ++ e.text ++ "\n") = [] := by
        rw [eventsOf_line hline'.1 hline'.2, htorn.ofText?_append]
        rfl
      have htext : complete ++ torn ++ linesOf (e :: es) =
          complete ++ ((torn ++ e.text ++ "\n") ++ linesOf es) := by
        simp only [linesOf, String.append_assoc]
      rw [htext, eventsOf_append hline, eventsOf_append (Text.endsLine_append_lineFeed _), hfirst,
        eventsOf_linesOf fun e he => hes e (List.mem_cons_of_mem _ he)]
      rfl

/-- Behind the beginning of a record the first appended event is lost, and all others are read. -/
theorem read_after_cut (h : Found t directory (complete ++ torn))
    (hline : Text.EndsLine complete) (htorn : Cut torn) (happ : Appended directory t es t')
    (hes : ∀ e ∈ es, e.Storable) :
    read t directory = .ok (eventsOf complete) ∧
      read t' directory = .ok (eventsOf complete ++ es.tail) := by
  obtain ⟨-, -, hsome, -⟩ := id htorn
  have hne : complete ++ torn ≠ "" := fun hnone => hsome (String.append_eq_empty_iff.mp hnone).2
  rw [h.read, (happ.contains (h.contains hne)).found.read, eventsOf_cut hline htorn,
    eventsOf_cut_linesOf hline htorn hes]
  exact ⟨rfl, rfl⟩

/-- The beginning of a record of a step. -/
def tornStep : String := "\x7b\"ts\":\"T\",\"event\":\"step_st"

theorem cut_tornStep : Cut tornStep := by
  have htext : tornStep ++ "arted\",\"run_id\":\"r-1\",\"unit\":\"a\",\"version\":\"1\"\x7d" =
      (⟨"T", .stepStarted "r-1" "a" "1"⟩ : TimedEvent).text := by
    rfl
  exact ⟨_, _, by decide, by decide, htext⟩

/-- A journal with a complete record and the beginning of another one. -/
def tornTree : FileTree := treeWith (failure.text ++ "\n" ++ tornStep).toUTF8

/-- The journal after two more appends. -/
def grownTree : FileTree := (append (append tornTree "state" failure).1 "state" finish).1

theorem appended_tornTree : Appended "state" tornTree [failure, finish] grownTree := by
  have hfirst : (append tornTree "state" failure).2.isOk = true := by decide +kernel
  have hsecond : (append (append tornTree "state" failure).1 "state" finish).2.isOk = true := by
    decide +kernel
  exact .next (append_of_isOk hfirst) (.next (append_of_isOk hsecond) (.none _))

theorem read_after_cut_tornTree :
    Found tornTree "state" (failure.text ++ "\n" ++ tornStep) ∧
    Text.EndsLine (failure.text ++ "\n") ∧ Cut tornStep ∧
    Appended "state" tornTree [failure, finish] grownTree ∧
    (∀ e ∈ [failure, finish], e.Storable) ∧
    read tornTree "state" = .ok (eventsOf (failure.text ++ "\n")) ∧
      read grownTree "state" = .ok (eventsOf (failure.text ++ "\n") ++ [finish]) := by
  have hcontains : Contains tornTree "state" (failure.text ++ "\n" ++ tornStep) :=
    contains_treeWith _
  have hline := Text.endsLine_append_lineFeed failure.text
  have hread := read_after_cut hcontains.found hline cut_tornStep appended_tornTree
    storable_failure_finish
  exact ⟨hcontains.found, hline, cut_tornStep, appended_tornTree, storable_failure_finish, hread⟩

/-- An append may report success and its event be lost: of the two behind the torn record only the
second one is read. -/
theorem torn_record_takes_next :
    Found tornTree "state" (failure.text ++ "\n" ++ tornStep) ∧
    Text.EndsLine (failure.text ++ "\n") ∧ Cut tornStep ∧
    Appended "state" tornTree [failure, finish] grownTree ∧
    (∀ e ∈ [failure, finish], e.Storable) ∧
    read grownTree "state" ≠ .ok (eventsOf (failure.text ++ "\n") ++ [failure, finish]) := by
  have hcontains : Contains tornTree "state" (failure.text ++ "\n" ++ tornStep) :=
    contains_treeWith _
  have hline := Text.endsLine_append_lineFeed failure.text
  refine ⟨hcontains.found, hline, cut_tornStep, appended_tornTree, storable_failure_finish, ?_⟩
  rw [(appended_tornTree.contains hcontains).found.read,
    eventsOf_cut_linesOf hline cut_tornStep storable_failure_finish]
  intro heq
  have hlength := congrArg List.length (Except.ok.inj heq)
  simp at hlength

end Journal

end Workplan
