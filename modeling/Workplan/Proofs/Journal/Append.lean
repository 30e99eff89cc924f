/-
# `Workplan.Proofs.Journal.Append` — what is appended is read

An append that reports success has put the line of its event behind the content of the journal,
whether the journal was there or not (`Contains.append`), and so has a run of appends behind
everything before it (`Appended.contains`).  Where the content ended a line, the reader finds in
the new lines the events that were appended (`read_after_appends`): the text of an event holds no
line break, and is read back as that event.

Reading asks for the journal where it is named, appending makes its directory first.  On a path
that goes up again these can be different journals: before the directory is made the path leads
nowhere, and afterwards to a journal that has been there for long (`hidden_journal_comes_back`).
`Kept` says that this does not happen.
-/
import Workplan.Journal.Basic
import Workplan.Proofs.Files.Tree
import Workplan.Proofs.Journal.Codec
import Workplan.Proofs.Text.Bytes

namespace Workplan.Journal

variable {t t' : FileTree} {directory content : String} {e : TimedEvent} {es : List TimedEvent}

/-! ## Content -/

/-- The text of the journal in a directory, as it is found: none where no journal is found. -/
inductive Found (t : FileTree) (directory : String) : String → Prop
  | file {content : String} (there : t.get (path directory) = .ok (.file content.toUTF8)) :
      Found t directory content
  | absent (nothing : t.exists? (path directory) = false) : Found t directory ""

/-- Making the directory brings no journal into reach. -/
def Kept (t : FileTree) (directory : String) : Prop :=
  ∀ made, t.makeDirectories directory = .ok made →
    made.exists? (path directory) = true → t.exists? (path directory) = true

/-- The journal in a directory holds a text, also when the directory has been made. -/
structure Contains (t : FileTree) (directory content : String) : Prop where
  found : Found t directory content
  kept : Kept t directory

theorem isComponent_fileName : FileTree.IsComponent fileName where
  ne_empty := by decide
  ne_dot := by decide
  no_slash := by decide

theorem exists?_of_get {n : FileNode} (h : t.get (path directory) = .ok n) :
    t.exists? (path directory) = true := by
  rw [FileTree.exists?, h]
  rfl

theorem Contains.of_get (h : t.get (path directory) = .ok (.file content.toUTF8)) :
    Contains t directory content :=
  ⟨.file h, fun _ _ _ => exists?_of_get h⟩

theorem Found.contains (h : Found t directory content) (hne : content ≠ "") :
    Contains t directory content := by
  cases h with
  | file there => exact .of_get there
  | absent _ => exact absurd rfl hne

theorem kept_of_down (ht : t.Closed) (hup : ".." ∉ FileTree.components directory) :
    Kept t directory := fun _ hmade hthere =>
  FileTree.exists?_of_made ht isComponent_fileName (by decide) hup hmade hthere

theorem read_of_file {b : ByteArray} (h : t.get (path directory) = .ok (.file b)) :
    read t directory = match String.fromUTF8? b with
      | some s => .ok (eventsOf s)
      | none => .error (.cannotRead (path directory) .notText) := by
  simp only [read, exists?_of_get h, if_true, FileTree.readText, FileTree.readBytes, h, bind, Except.bind]
  cases String.fromUTF8? b <;> rfl

theorem Found.read (h : Found t directory content) :
    read t directory = .ok (eventsOf content) := by
  cases h with
  | file there => rw [read_of_file there, Text.fromUTF8?_toUTF8]
  | absent nothing =>
      simp only [Journal.read, nothing, Bool.false_eq_true, if_false]
      rfl

/-- An append that succeeds puts the line of the event behind what the journal held. -/
theorem Contains.append (h : Contains t directory content)
    (happend : append t directory e = (t', .ok ())) :
    Contains t' directory (content ++ (e.text ++ "\n")) := by
  unfold Journal.append at happend
  cases hmade : t.makeDirectories directory with
  | error cause =>
      rw [hmade] at happend
      cases happend
  | ok made =>
      simp only [hmade] at happend
      cases hwritten : made.append (path directory) (e.text ++ "\n").toUTF8 with
      | error cause =>
          rw [hwritten] at happend
          cases happend
      | ok written =>
          rw [hwritten] at happend
          cases happend
          have hcases := FileTree.append_cases hwritten
          cases h.found with
          | file there =>
              -- the directory is there, so none has been made
              have hsame := FileTree.makeDirectories_of_get isComponent_fileName there
              rw [hmade] at hsame
              cases hsame
              rcases hcases with ⟨old, hold, hnew⟩ | ⟨hold, -⟩ | hold
              · rw [there] at hold
                cases hold
                exact .of_get (by rw [hnew, ← Text.toUTF8_append])
              · rw [there] at hold
                cases hold
              · rw [there] at hold
                cases hold
          | absent nothing =>
              have hnone := mt (h.kept made hmade) (Bool.eq_false_iff.mp nothing)
              rcases hcases with ⟨old, hold, -⟩ | ⟨-, hnew⟩ | hold
              · exact absurd (exists?_of_get hold) hnone
              · rw [String.empty_append]
                exact .of_get hnew
              · exact absurd (exists?_of_get hold) hnone

/-- Events that have been appended one after the other, each with success. -/
inductive Appended (directory : String) : FileTree → List TimedEvent → FileTree → Prop
  | none (t : FileTree) : Appended directory t [] t
  | next {t between t' : FileTree} {e : TimedEvent} {es : List TimedEvent}
      (first : append t directory e = (between, .ok ())) (rest : Appended directory between es t') :
      Appended directory t (e :: es) t'

/-- The lines of events. -/
def linesOf : List TimedEvent → String
  | [] => ""
  | e :: es => e.text ++ "\n" ++ linesOf es

theorem append_of_isOk (h : (append t directory e).2.isOk = true) :
    append t directory e = ((append t directory e).1, .ok ()) := by
  generalize append t directory e = result at h
  obtain ⟨left, outcome⟩ := result
  cases outcome with
  | error cause => cases h
  | ok => rfl

theorem Appended.contains (h : Contains t directory content) (happ : Appended directory t es t') :
    Contains t' directory (content ++ linesOf es) := by
  induction happ generalizing content with
  | none t => rwa [linesOf, String.append_empty]
  | next first rest ih =>
      have hnext := ih (h.append first)
      rwa [String.append_assoc] at hnext

/-! ## Events -/

theorem eventsOf_append {s t : String} (hs : Text.EndsLine s) :
    eventsOf (s ++ t) = eventsOf s ++ eventsOf t := by
  rw [eventsOf, Text.lines_append hs, List.filterMap_append]
  rfl

theorem eventsOf_line {s : String} (hfeed : '\n' ∉ s.toList) (hreturn : '\r' ∉ s.toList) :
    eventsOf (s ++ "\n") = (TimedEvent.ofText? s).toList := by
  rw [eventsOf, Text.lines_line hfeed hreturn]
  cases h : TimedEvent.ofText? s <;> simp [h]

theorem eventsOf_linesOf (hes : ∀ e ∈ es, e.Storable) : eventsOf (linesOf es) = es := by
  induction es with
  | nil => rfl
  | cons e es ih =>
      obtain ⟨he, hrest⟩ := List.forall_mem_cons.mp hes
      rw [linesOf, eventsOf_append (Text.endsLine_append_lineFeed e.text),
        eventsOf_line (e.notMem_text (by decide)) (e.notMem_text (by decide)),
        TimedEvent.ofText?_text he, ih hrest]
      rfl

/-- Behind a content that ends its last line, exactly the appended events are read, unless making
the directory brings a journal into reach.  That does not happen where a journal is found already,
nor on a path that only leads down. -/
theorem read_after_appends (h : Found t directory content) (hline : Text.EndsLine content)
    (happ : Appended directory t es t') (hes : ∀ e ∈ es, e.Storable) :
    (Kept t directory →
      ∃ before, read t directory = .ok before ∧ read t' directory = .ok (before ++ es)) ∧
    (t.exists? (path directory) = true ∨ t.Closed ∧ ".." ∉ FileTree.components directory →
      Kept t directory) := by
  constructor
  · intro hkept
    have hafter := (happ.contains ⟨h, hkept⟩).found.read
    rw [eventsOf_append hline, eventsOf_linesOf hes] at hafter
    exact ⟨eventsOf content, h.read, hafter⟩
  · rintro (hthere | ⟨ht, hup⟩)
    · exact fun _ _ _ => hthere
    · exact kept_of_down ht hup

theorem get_path {p : Path} {b : ByteArray} (hnul : '\x00' ∉ directory.toList)
    (hroot : directory.startsWith "/" = false)
    (hleads : (FileTree.components directory ++ [fileName]).foldlM t.enter t.current = .ok p)
    (hfile : t.node? p = some (.file b)) : t.get (path directory) = .ok (.file b) := by
  have hresolve := FileTree.resolve_joinPath isComponent_fileName (by decide) hnul hroot (t := t)
  rw [hleads] at hresolve
  rw [path, FileTree.get_of_resolve hresolve, hfile,
    FileTree.namesDirectory_joinPath isComponent_fileName]
  rfl

/-! ### A journal that holds something else -/

/-- A tree with a journal of these bytes in a directory of its own. -/
def treeWith (bytes : ByteArray) : FileTree :=
  ⟨FileTree.system ++ [(["tmp", "work", "state"], .directory),
    (["tmp", "work", "state", fileName], .file bytes)], ["tmp", "work"]⟩

theorem get_treeWith (bytes : ByteArray) :
    (treeWith bytes).get (path "state") = .ok (.file bytes) := by
  have hnames : FileTree.components "state" = ["state"] := by decide
  have hroot : "state".startsWith "/" = false := by
    rw [String.startsWith_string_eq_false_iff]
    decide
  refine get_path (p := ["tmp", "work", "state", fileName]) (by decide) hroot ?_ rfl
  rw [hnames]
  rfl

theorem contains_treeWith (content : String) :
    Contains (treeWith content.toUTF8) "state" content := .of_get (get_treeWith content.toUTF8)

/-- A failure whose texts hold quotes, line breaks and a control character. -/
def failure : TimedEvent :=
  ⟨"2024-05-01T10:00:00Z", .stepFailed "r-1" "a \"b\"" .failed "C:\\x\r\n\u0001é"⟩

/-- A quarter of a second. -/
def quarter : Binary64 := ⟨false, 0x10000000000000, 1020, by decide⟩

/-- The end of a run that took a quarter of a second. -/
def finish : TimedEvent := ⟨"2024-05-01T10:00:01Z", .runCompleted "r-1" "a" 3 1 quarter⟩

theorem storable_failure : failure.Storable := List.forall_mem_nil _

theorem storable_finish : finish.Storable := by
  refine List.forall_mem_singleton.mpr ?_
  show Number.read (Number.real quarter).chars = some (.real quarter, [])
  decide +kernel

theorem storable_failure_finish : ∀ e ∈ [failure, finish], e.Storable :=
  List.forall_mem_cons.mpr ⟨storable_failure, List.forall_mem_singleton.mpr storable_finish⟩

/-- A journal with one line, of no event. -/
def scribbledTree : FileTree := treeWith "scribble\n".toUTF8

theorem read_after_appends_scribbled :
    (Found scribbledTree "state" "scribble\n" ∧ Text.EndsLine "scribble\n" ∧
      (∀ e ∈ [failure, finish], e.Storable) ∧
      ∃ t', Appended "state" scribbledTree [failure, finish] t' ∧
        ∃ before, read scribbledTree "state" = .ok before ∧
          read t' "state" = .ok (before ++ [failure, finish])) ∧
    Found .fresh "state" "" ∧ Text.EndsLine "" ∧
      FileTree.fresh.Closed ∧ ".." ∉ FileTree.components "state" ∧
      ∃ t', Appended "state" .fresh [finish] t' ∧
        ∃ before, read .fresh "state" = .ok before ∧ read t' "state" = .ok (before ++ [finish]) := by
  constructor
  · have hfirst : (append scribbledTree "state" failure).2.isOk = true := by decide +kernel
    have hsecond :
        (append (append scribbledTree "state" failure).1 "state" finish).2.isOk = true := by
      decide +kernel
    have happ := Appended.next (append_of_isOk hfirst) (.next (append_of_isOk hsecond) (.none _))
    have hline : Text.EndsLine "scribble\n" := by decide
    have hthere := get_treeWith "scribble\n".toUTF8
    obtain ⟨hread, hkept⟩ := read_after_appends (.file hthere) hline happ storable_failure_finish
    exact ⟨.file hthere, hline, storable_failure_finish, _, happ,
      hread (hkept (.inl (exists?_of_get hthere)))⟩
  · have hnothing : Found .fresh "state" "" := .absent (by decide +kernel)
    have hfirst : (append .fresh "state" finish).2.isOk = true := by decide +kernel
    have happ := Appended.next (append_of_isOk hfirst) (.none _)
    have hup : ".." ∉ FileTree.components "state" := by decide
    obtain ⟨hread, hkept⟩ := read_after_appends hnothing (by decide) happ
      (List.forall_mem_singleton.mpr storable_finish)
    exact ⟨hnothing, by decide, FileTree.closed_fresh, hup, _, happ,
      hread (hkept (.inr ⟨FileTree.closed_fresh, hup⟩))⟩

/-! ### A journal that comes into reach -/

/-- Where the directory has been made and the path leads to a journal, an append finds nothing to
make. -/
theorem append_of_made {made : FileTree} {n : FileNode}
    (hmade : t.makeDirectories directory = .ok made) (hthere : made.get (path directory) = .ok n) :
    append made directory e = append t directory e := by
  have hsame := FileTree.makeDirectories_of_get isComponent_fileName hthere
  simp only [append, hmade, hsame]

/-- A directory to make, and the way back from it to one that is there. -/
def detour : String := "new/../state"

theorem components_detour : FileTree.components detour = ["new", "..", "state"] := by
  decide

theorem startsWith_detour : detour.startsWith "/" = false := by
  rw [String.startsWith_string_eq_false_iff]
  decide

/-- The tree when the directory has been made. -/
def openedTree (bytes : ByteArray) : FileTree :=
  (treeWith bytes).setNode ["tmp", "work", "new"] .directory

theorem makeDirectories_detour (bytes : ByteArray) :
    (treeWith bytes).makeDirectories detour = .ok (openedTree bytes) := by
  have hnul : detour.toList.contains '\x00' = false := by decide
  rw [FileTree.makeDirectories, hnul, startsWith_detour, components_detour]
  rfl

theorem get_openedTree (bytes : ByteArray) :
    (openedTree bytes).get (path detour) = .ok (.file bytes) := by
  refine get_path (p := ["tmp", "work", "state", fileName]) (by decide) startsWith_detour ?_ rfl
  rw [components_detour]
  rfl

/-- A journal with one event. -/
def hiddenTree : FileTree := treeWith (failure.text ++ "\n").toUTF8

theorem append_hiddenTree (e : TimedEvent) :
    append (openedTree (failure.text ++ "\n").toUTF8) detour e = append hiddenTree detour e :=
  append_of_made (makeDirectories_detour _) (get_openedTree _)

theorem eventsOf_failure_finish :
    eventsOf (failure.text ++ "\n" ++ (finish.text ++ "\n")) = [failure, finish] := by
  have h := eventsOf_linesOf storable_failure_finish
  rwa [linesOf, linesOf, linesOf, String.append_empty] at h

/-- Nothing is read on the detour at first.  Then an event is appended, which makes the directory
on the way, and the event that was in the journal all along is read before it. -/
theorem hidden_journal_comes_back :
    Found hiddenTree detour "" ∧ Text.EndsLine "" ∧ (∀ e ∈ [finish], e.Storable) ∧
    ∃ t', Appended detour hiddenTree [finish] t' ∧
      read hiddenTree detour = .ok [] ∧ read t' detour = .ok [failure, finish] ∧
      ¬ ∃ before, read hiddenTree detour = .ok before ∧
        read t' detour = .ok (before ++ [finish]) := by
  have hnothing : Found hiddenTree detour "" := .absent (by decide +kernel)
  have hisOk : (append hiddenTree detour finish).2.isOk = true := by decide +kernel
  have happend := append_of_isOk hisOk
  have hafter := ((Contains.of_get (get_openedTree _)).append
    ((append_hiddenTree finish).trans happend)).found.read
  rw [eventsOf_failure_finish] at hafter
  refine ⟨hnothing, by decide, List.forall_mem_singleton.mpr storable_finish, _,
    .next happend (.none _), hnothing.read, hafter, ?_⟩
  rintro ⟨before, hbefore, hboth⟩
  cases hnothing.read.symm.trans hbefore
  have hlength := congrArg List.length (Except.ok.inj (hafter.symm.trans hboth))
  exact absurd hlength (by decide)

end Workplan.Journal
