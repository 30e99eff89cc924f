/-
# `Workplan.Proofs.Files.Tree` — what appending to a file does to a tree

Resolving a path asks of a tree only which places are directories.  So a path that leads somewhere
goes on leading there when files grow, and when files and directories are added
(`KeepsDirectories.resolve`).  From this follows what an append does, seen through the path that
it was given (`append_cases`): the file under the path has grown, or is there now.

Making a directory leaves a tree as it is when a path already leads through the directory
(`makeDirectories_of_get`), and does not make a file below it (`exists?_of_made`).  The names of a
joined path are those of the directory with one more, however the directory is written.
-/
import Workplan.Files.Tree

namespace Workplan.FileTree

variable {t t' : FileTree} {p q : Path} {name path directory : String}

/-! ## Nodes -/

theorem find?_replace_self {n : FileNode} {es : List (Path × FileNode)}
    (h : (es.any fun e => e.1 == p) = true) :
    ((es.map fun e => if e.1 == p then (p, n) else e).find? fun e => e.1 == p) = some (p, n) := by
  induction es with
  | nil => cases h
  | cons e es ih =>
      rw [List.map_cons, List.find?_cons]
      by_cases he : e.1 = p
      · simp [he]
      · have hrest : (es.any fun e => e.1 == p) = true := by simpa [he] using h
        simp only [beq_false_of_ne he, Bool.false_eq_true, if_false]
        exact ih hrest

theorem find?_replace_other {n : FileNode} {es : List (Path × FileNode)} (hq : q ≠ p) :
    ((es.map fun e => if e.1 == p then (p, n) else e).find? fun e => e.1 == q) =
      es.find? fun e => e.1 == q := by
  induction es with
  | nil => rfl
  | cons e es ih =>
      rw [List.map_cons, List.find?_cons, List.find?_cons, ih]
      by_cases he : e.1 = p
      · have hpq : (p == q) = false := beq_false_of_ne (Ne.symm hq)
        simp [he, hpq]
      · simp [he]

theorem node?_setNode (t : FileTree) (p : Path) (n : FileNode) (q : Path) :
    (t.setNode p n).node? q = if q = p then some n else t.node? q := by
  unfold setNode
  split
  · rename_i hany
    by_cases hq : q = p
    · subst hq
      simp only [node?, find?_replace_self hany, if_true, Option.map_some]
    · simp only [node?, find?_replace_other hq, hq, if_false]
  · rename_i hany
    by_cases hq : q = p
    · subst hq
      have hnone : (t.nodes.find? fun e => e.1 == q) = none :=
        List.find?_eq_none.mpr fun e he heq => hany (List.any_eq_true.mpr ⟨e, he, heq⟩)
      simp [node?, List.find?_append, hnone]
    · simp [node?, List.find?_append, hq, Ne.symm hq]

@[simp] theorem current_setNode (t : FileTree) (p : Path) (n : FileNode) :
    (t.setNode p n).current = t.current := by
  unfold setNode
  split <;> rfl

/-! ## Where paths lead -/

/-- Relative paths start in the same place, and nothing has stopped being a directory. -/
structure KeepsDirectories (t t' : FileTree) : Prop where
  current_eq : t'.current = t.current
  directory : ∀ p, t.node? p = some .directory → t'.node? p = some .directory

theorem keepsDirectories_setNode (hp : t.node? p ≠ some .directory) (n : FileNode) :
    t.KeepsDirectories (t.setNode p n) := by
  refine ⟨current_setNode t p n, fun q hq => ?_⟩
  have hne : q ≠ p := by
    rintro rfl
    exact hp hq
  rw [node?_setNode, if_neg hne, hq]

theorem directory_of_enter (h : t.enter p name = .ok q) : t.node? p = some .directory := by
  unfold enter at h
  split at h
  · cases h
  · assumption
  · cases h

theorem KeepsDirectories.enter (hk : t.KeepsDirectories t') (h : t.enter p name = .ok q) :
    t'.enter p name = .ok q := by
  have hp := directory_of_enter h
  have hp' := hk.directory p hp
  simp only [FileTree.enter, hp] at h
  simp only [FileTree.enter, hp']
  exact h

theorem foldlM_cons_ok {names : List String}
    (h : (name :: names).foldlM t.enter p = .ok q) :
    ∃ next, t.enter p name = .ok next ∧ names.foldlM t.enter next = .ok q := by
  rw [List.foldlM_cons] at h
  cases hnext : t.enter p name with
  | error cause =>
      rw [hnext] at h
      cases h
  | ok next =>
      rw [hnext] at h
      exact ⟨next, rfl, h⟩

theorem KeepsDirectories.foldlM_enter (hk : t.KeepsDirectories t') {names : List String}
    (h : names.foldlM t.enter p = .ok q) : names.foldlM t'.enter p = .ok q := by
  induction names generalizing p with
  | nil => exact h
  | cons name names ih =>
      obtain ⟨next, hnext, hrest⟩ := foldlM_cons_ok h
      rw [List.foldlM_cons, hk.enter hnext]
      exact ih hrest

theorem resolve_eq_ok_iff : t.resolve path = .ok p ↔
    path.toList.contains '\x00' = false ∧ path.isEmpty = false ∧
      (components path).foldlM t.enter (if path.startsWith "/" then [] else t.current) = .ok p := by
  unfold resolve
  cases path.toList.contains '\x00' <;> cases path.isEmpty <;> simp

/-- A path that leads somewhere goes on leading there. -/
theorem KeepsDirectories.resolve (hk : t.KeepsDirectories t') (h : t.resolve path = .ok p) :
    t'.resolve path = .ok p := by
  obtain ⟨hnul, hempty, hfold⟩ := resolve_eq_ok_iff.mp h
  rw [← hk.current_eq] at hfold
  exact resolve_eq_ok_iff.mpr ⟨hnul, hempty, hk.foldlM_enter hfold⟩

/-! ## Reading and appending -/

theorem get_of_resolve (h : t.resolve path = .ok p) :
    t.get path = match t.node? p with
      | none => .error .notFound
      | some .directory => .ok .directory
      | some n => if namesDirectory path then .error .notDirectory else .ok n := by
  rw [get, h]
  rfl

/-- An append that succeeds leaves more of a file, or a file, or went to a device. -/
theorem append_cases {bytes : ByteArray} (h : t.append path bytes = .ok t') :
    (∃ old, t.get path = .ok (.file old) ∧ t'.get path = .ok (.file (old ++ bytes))) ∨
    (t.get path = .error .notFound ∧ t'.get path = .ok (.file bytes)) ∨
    t.get path = .ok .null := by
  unfold append modify at h
  cases hresolve : t.resolve path with
  | error cause =>
      rw [hresolve] at h
      cases h
  | ok p =>
      rw [hresolve] at h
      have hget := get_of_resolve hresolve
      -- after a node is set under the path, the path leads to it
      have hset : ∀ content, t.node? p ≠ some .directory → namesDirectory path = false →
          (t.setNode p (.file content)).get path = .ok (.file content) := by
        intro content hp hname
        rw [get_of_resolve ((keepsDirectories_setNode hp _).resolve hresolve), node?_setNode,
          if_pos rfl]
        simp [hname]
      cases hnode : t.node? p with
      | none =>
          rw [hnode] at hget
          simp only [bind, Except.bind, hnode] at h
          split at h
          · cases h
          · rename_i hname
            split at h
            · cases h
              refine Or.inr (Or.inl ⟨hget, ?_⟩)
              rw [hset _ (by simp [hnode]) (Bool.of_not_eq_true hname), ByteArray.empty_append]
            · cases h
            · cases h
      | some n =>
          rw [hnode] at hget
          simp only [bind, Except.bind, hnode] at h
          cases n with
          | directory => cases h
          | null =>
              cases hname : namesDirectory path with
              | true =>
                  rw [hname] at h
                  cases h
              | false =>
                  simp only [hname] at hget
                  exact Or.inr (Or.inr hget)
          | file old =>
              cases hname : namesDirectory path with
              | true =>
                  rw [hname] at h
                  cases h
              | false =>
                  simp only [hname] at hget h
                  cases h
                  exact Or.inl ⟨old, hget, hset _ (by simp [hnode]) hname⟩

/-! ## Names of joined paths -/

/-- A name for one step down: it is a component as it stands. -/
structure IsComponent (name : String) : Prop where
  ne_empty : name ≠ ""
  ne_dot : name ≠ "."
  no_slash : '/' ∉ name.toList

theorem IsComponent.filter_eq (h : IsComponent name) :
    [name].filter (fun c => !c.isEmpty && c != ".") = [name] := by
  simp [h.ne_empty, h.ne_dot]

theorem IsComponent.splitOn_eq (h : IsComponent name) : name.toList.splitOn '/' = [name.toList] :=
  List.splitOn_eq_singleton h.no_slash

theorem IsComponent.startsWith_eq (h : IsComponent name) : name.startsWith "/" = false := by
  rw [String.startsWith_string_eq_false_iff]
  intro hfront
  exact h.no_slash (hfront.subset (by decide))

/-- A joined path is the directory and the name, with a slash between them where one is needed. -/
theorem joinPath_cases (h : IsComponent name) (directory : String) :
    directory = "" ∧ joinPath directory name = name ∨
    (∃ front, directory.toList = front ++ ['/'] ∧
      (joinPath directory name).toList = front ++ '/' :: name.toList) ∨
    directory ≠ "" ∧ (joinPath directory name).toList = directory.toList ++ '/' :: name.toList := by
  unfold joinPath
  rw [h.startsWith_eq]
  by_cases hempty : directory = ""
  · simp [hempty]
  · by_cases hslash : directory.endsWith "/" = true
    · obtain ⟨front, hfront⟩ : ['/'] <:+ directory.toList := by
        simpa [← String.endsWith_toSlice] using hslash
      refine Or.inr (Or.inl ⟨front, hfront.symm, ?_⟩)
      simp [hempty, hslash, ← hfront]
    · simp [hempty, hslash]

theorem components_joinPath (h : IsComponent name) (directory : String) :
    components (joinPath directory name) = components directory ++ [name] := by
  rcases joinPath_cases h directory with ⟨rfl, hjoin⟩ | ⟨front, hfront, hjoin⟩ | ⟨-, hjoin⟩
  · rw [hjoin, components, h.splitOn_eq, List.map_singleton, String.ofList_toList, h.filter_eq]
    rfl
  · rw [components, components, hjoin, hfront, List.splitOn_append_cons_self, h.splitOn_eq,
      List.splitOn_append_cons_self]
    simp [h.ne_empty, h.ne_dot]
  · rw [components, components, hjoin, List.splitOn_append_cons_self, h.splitOn_eq]
    simp [h.ne_empty, h.ne_dot]

theorem startsWith_joinPath (h : IsComponent name) (directory : String) :
    (joinPath directory name).startsWith "/" = directory.startsWith "/" := by
  rcases joinPath_cases h directory with ⟨rfl, hjoin⟩ | ⟨front, hfront, hjoin⟩ | ⟨hne, hjoin⟩
  · rw [hjoin, h.startsWith_eq]
    rfl
  · rw [Bool.eq_iff_iff, String.startsWith_string_iff, String.startsWith_string_iff, hjoin, hfront]
    cases front <;> simp [List.cons_prefix_cons]
  · rw [Bool.eq_iff_iff, String.startsWith_string_iff, String.startsWith_string_iff, hjoin]
    cases hchars : directory.toList with
    | nil => exact absurd (String.toList_eq_nil_iff.mp hchars) hne
    | cons c rest => simp [List.cons_prefix_cons]

theorem mem_joinPath (h : IsComponent name) {c : Char} (hc : c ∈ directory.toList) :
    c ∈ (joinPath directory name).toList := by
  rcases joinPath_cases h directory with ⟨rfl, -⟩ | ⟨front, hfront, hjoin⟩ | ⟨-, hjoin⟩
  · cases hc
  · rw [hfront] at hc
    rw [hjoin]
    rcases List.mem_append.mp hc with hc | hc
    · exact List.mem_append_left _ hc
    · exact List.mem_append_right _ (List.mem_singleton.mp hc ▸ List.mem_cons_self)
  · rw [hjoin]
    exact List.mem_append_left _ hc

theorem exists_toList_joinPath (h : IsComponent name) (directory : String) :
    ∃ front, (joinPath directory name).toList = front ++ name.toList ∧
      ∀ c ∈ front, c ∈ directory.toList ∨ c = '/' := by
  rcases joinPath_cases h directory with ⟨-, hjoin⟩ | ⟨front, hfront, hjoin⟩ | ⟨-, hjoin⟩
  · exact ⟨[], by rw [hjoin, List.nil_append], List.forall_mem_nil _⟩
  · refine ⟨front ++ ['/'], by rw [hjoin, List.append_assoc]; rfl, fun c hc => ?_⟩
    exact Or.inl (hfront ▸ hc)
  · refine ⟨directory.toList ++ ['/'], by rw [hjoin, List.append_assoc]; rfl, fun c hc => ?_⟩
    simpa using hc

theorem toList_joinPath_ne_nil (h : IsComponent name) (directory : String) :
    (joinPath directory name).toList ≠ [] := by
  obtain ⟨front, hjoin, -⟩ := exists_toList_joinPath h directory
  rw [hjoin]
  exact List.append_ne_nil_of_right_ne_nil front (mt String.toList_eq_nil_iff.mp h.ne_empty)

theorem namesDirectory_joinPath (h : IsComponent name) (directory : String) :
    namesDirectory (joinPath directory name) = false := by
  obtain ⟨front, hjoin, -⟩ := exists_toList_joinPath h directory
  have hname : name.toList <:+ (joinPath directory name).toList := hjoin ▸ List.suffix_append _ _
  have hnil : ¬ name.toList <:+ [] := by
    rw [List.suffix_nil]
    exact mt String.toList_eq_nil_iff.mp h.ne_empty
  have hdot : ¬ name.toList <:+ ['.'] := by
    rw [List.suffix_cons_iff, not_or]
    exact ⟨fun hc => h.ne_dot (String.toList_inj.mp hc), hnil⟩
  -- an end that begins with a slash goes back beyond the name
  have hslash : ∀ rest, ¬ name.toList <:+ rest →
      ¬ '/' :: rest <:+ (joinPath directory name).toList := by
    intro rest hrest hend
    rcases List.suffix_or_suffix_of_suffix hend hname with hin | hin
    · exact h.no_slash (hin.subset List.mem_cons_self)
    · rcases List.suffix_cons_iff.mp hin with heq | hin
      · exact h.no_slash (heq ▸ List.mem_cons_self)
      · exact hrest hin
  have hone : joinPath directory name ≠ "." := by
    intro heq
    rw [heq] at hname
    exact hdot hname
  have hends := And.intro (hslash [] hnil) (hslash ['.'] hdot)
  simpa [namesDirectory, ← String.endsWith_toSlice] using And.intro hends hone

theorem resolve_joinPath (h : IsComponent name) (hname : '\x00' ∉ name.toList)
    (hdirectory : '\x00' ∉ directory.toList) (hroot : directory.startsWith "/" = false) :
    t.resolve (joinPath directory name) =
      (components directory ++ [name]).foldlM t.enter t.current := by
  obtain ⟨front, hjoin, hfront⟩ := exists_toList_joinPath h directory
  have hnul : (joinPath directory name).toList.contains '\x00' = false := by
    rw [List.contains_eq_mem, decide_eq_false_iff_not, hjoin, List.mem_append, not_or]
    exact ⟨fun hc => (hfront _ hc).elim hdirectory (by decide), hname⟩
  have hempty : (joinPath directory name).isEmpty = false := by
    rw [Bool.eq_false_iff, Ne, String.isEmpty_iff, ← String.toList_eq_nil_iff]
    exact toList_joinPath_ne_nil h directory
  rw [resolve, hnul, hempty, startsWith_joinPath h, hroot, components_joinPath h]
  rfl

/-! ## Directories that are there already -/

theorem makeEach_of_foldlM {names : List String} (h : names.foldlM t.enter p = .ok q)
    (hq : t.node? q = some .directory) : t.makeEach p names = .ok (t, q) := by
  induction names generalizing p with
  | nil =>
      cases h
      rfl
  | cons name names ih =>
      obtain ⟨next, hnext, hrest⟩ := foldlM_cons_ok h
      have hthere : t.node? next = some .directory := by
        cases names with
        | nil =>
            cases hrest
            exact hq
        | cons name' names' =>
            obtain ⟨_, henter, -⟩ := foldlM_cons_ok hrest
            exact directory_of_enter henter
      simp only [makeEach, hnext, bind, Except.bind, hthere]
      exact ih hrest

theorem makeDirectories_of_resolve (hname : IsComponent name)
    (h : t.resolve (joinPath directory name) = .ok p) : t.makeDirectories directory = .ok t := by
  obtain ⟨hnul, -, hfold⟩ := resolve_eq_ok_iff.mp h
  have hnul' : directory.toList.contains '\x00' = false := by
    refine Bool.eq_false_iff.mpr fun hc => Bool.eq_false_iff.mp hnul ?_
    rw [List.contains_iff_mem] at hc ⊢
    exact mem_joinPath hname hc
  rw [startsWith_joinPath hname, components_joinPath hname, List.foldlM_append] at hfold
  cases hdir : (components directory).foldlM t.enter
      (if directory.startsWith "/" then [] else t.current) with
  | error cause =>
      rw [hdir] at hfold
      cases hfold
  | ok q =>
      rw [hdir] at hfold
      obtain ⟨_, henter, -⟩ := foldlM_cons_ok hfold
      have hq := directory_of_enter henter
      simp only [makeDirectories, hnul', Bool.false_eq_true, if_false,
        makeEach_of_foldlM hdir hq, bind, Except.bind, hq]

theorem makeDirectories_of_get {n : FileNode} (hname : IsComponent name)
    (h : t.get (joinPath directory name) = .ok n) : t.makeDirectories directory = .ok t := by
  cases hresolve : t.resolve (joinPath directory name) with
  | error cause =>
      rw [get, hresolve] at h
      cases h
  | ok p => exact makeDirectories_of_resolve hname hresolve

/-! ## Files that are not there

A path without `..` leads down.  The directories that are made on its way then stand above the
file that it names, which is there afterwards only if it was there before.  With `..` in it a path
may lead elsewhere once the directories exist that it goes through. -/

/-- Whatever stands below another place stands in a directory. -/
def Closed (t : FileTree) : Prop :=
  ∀ p name n, t.node? (p ++ [name]) = some n → t.node? p = some .directory

theorem closed_of_forall
    (h : ∀ e ∈ t.nodes, e.1 = [] ∨ t.node? e.1.dropLast = some .directory) : t.Closed := by
  intro p name n hn
  obtain ⟨e, hfind, -⟩ := Option.map_eq_some_iff.mp hn
  have hpath : e.1 = p ++ [name] := by simpa using List.find?_some hfind
  rcases h e (List.mem_of_find?_eq_some hfind) with hroot | hparent
  · rw [hpath] at hroot
    exact absurd hroot (List.append_ne_nil_of_right_ne_nil p (List.cons_ne_nil _ _))
  · rwa [hpath, List.dropLast_concat] at hparent

theorem closed_fresh : fresh.Closed :=
  closed_of_forall (by simp [fresh, system, node?])

variable {made : FileTree} {names : List String}

theorem Closed.node?_eq {n : FileNode} (ht : t.Closed) (hne : names ≠ [])
    (h : t.node? (p ++ names) = some n) : t.node? p = some .directory := by
  induction names generalizing p with
  | nil => exact absurd rfl hne
  | cons name names ih =>
      rw [List.append_cons] at h
      cases names with
      | nil =>
          rw [List.append_nil] at h
          exact ht p name n h
      | cons name' names => exact ht p name _ (ih (List.cons_ne_nil _ _) h)

theorem enter_eq (hup : name ≠ "..") (h : t.enter p name = .ok q) :
    q = p ++ [name] ∧ name.utf8ByteSize ≤ 255 := by
  simp only [enter, directory_of_enter h, if_neg hup] at h
  split at h
  · cases h
  · rename_i hsize
    cases h
    exact ⟨rfl, Nat.le_of_not_lt hsize⟩

theorem foldlM_enter_eq (hup : ".." ∉ names) (h : names.foldlM t.enter p = .ok q) :
    q = p ++ names ∧ ∀ name ∈ names, name.utf8ByteSize ≤ 255 := by
  induction names generalizing p with
  | nil =>
      cases h
      exact ⟨(List.append_nil _).symm, List.forall_mem_nil _⟩
  | cons name names ih =>
      rw [List.mem_cons, not_or] at hup
      obtain ⟨next, hnext, hrest⟩ := foldlM_cons_ok h
      obtain ⟨rfl, hsize⟩ := enter_eq (Ne.symm hup.1) hnext
      obtain ⟨rfl, hsizes⟩ := ih hup.2 hrest
      exact ⟨(List.append_cons p name names).symm, List.forall_mem_cons.mpr ⟨hsize, hsizes⟩⟩

/-- In a closed tree a path leads down to whatever stands at its end. -/
theorem foldlM_enter_of_node {n : FileNode} (ht : t.Closed) (hup : ".." ∉ names)
    (hsizes : ∀ name ∈ names, name.utf8ByteSize ≤ 255) (h : t.node? (p ++ names) = some n) :
    names.foldlM t.enter p = .ok (p ++ names) := by
  induction names generalizing p with
  | nil =>
      rw [List.append_nil]
      rfl
  | cons name names ih =>
      have hp := ht.node?_eq (List.cons_ne_nil _ _) h
      rw [List.mem_cons, not_or] at hup
      obtain ⟨hsize, hsizes⟩ := List.forall_mem_cons.mp hsizes
      have henter : t.enter p name = .ok (p ++ [name]) := by
        simp only [enter, hp, if_neg (Ne.symm hup.1), if_neg (Nat.not_lt.mpr hsize)]
      rw [List.append_cons] at h ⊢
      rw [List.foldlM_cons, henter]
      exact ih hup.2 hsizes h

/-- Directories are made down to the end of a path and no further. -/
theorem makeEach_node? (hup : ".." ∉ names) (h : t.makeEach p names = .ok (made, q)) :
    made.current = t.current ∧
      ∀ deep : Path, p.length + names.length < deep.length → made.node? deep = t.node? deep := by
  induction names generalizing t p with
  | nil =>
      cases h
      exact ⟨rfl, fun _ _ => rfl⟩
  | cons name names ih =>
      rw [List.mem_cons, not_or] at hup
      rw [makeEach] at h
      cases henter : t.enter p name with
      | error cause =>
          rw [henter] at h
          cases h
      | ok next =>
          obtain ⟨rfl, -⟩ := enter_eq (Ne.symm hup.1) henter
          simp only [henter, bind, Except.bind] at h
          have hlength :
              (p ++ [name]).length + names.length = p.length + (name :: names).length := by
            simp only [List.length_append, List.length_cons, List.length_nil]
            omega
          split at h
          · obtain ⟨hcurrent, hnode⟩ := ih hup.2 h
            exact ⟨hcurrent, hlength ▸ hnode⟩
          · obtain ⟨hcurrent, hnode⟩ := ih hup.2 h
            refine ⟨hcurrent.trans (current_setNode t _ _), fun deep hdeep => ?_⟩
            rw [hnode deep (hlength ▸ hdeep), node?_setNode, if_neg]
            rintro rfl
            simp only [List.length_append, List.length_cons, List.length_nil] at hdeep
            omega

theorem makeDirectories_node? (hup : ".." ∉ components directory)
    (h : t.makeDirectories directory = .ok made) :
    made.current = t.current ∧ ∀ deep : Path,
      (if directory.startsWith "/" then [] else t.current).length +
        (components directory).length < deep.length → made.node? deep = t.node? deep := by
  unfold makeDirectories at h
  split at h
  · cases h
  · cases hmade : t.makeEach (if directory.startsWith "/" then [] else t.current)
        (components directory) with
    | error cause =>
        simp only [hmade, bind, Except.bind] at h
        cases h
    | ok result =>
        obtain ⟨left, q⟩ := result
        simp only [hmade, bind, Except.bind] at h
        split at h
        · cases h
          exact makeEach_node? hup hmade
        · cases h

/-- Making the directory of a file does not make the file. -/
theorem exists?_of_made (ht : t.Closed) (hname : IsComponent name) (hdots : name ≠ "..")
    (hup : ".." ∉ components directory) (hmade : t.makeDirectories directory = .ok made)
    (h : made.exists? (joinPath directory name) = true) :
    t.exists? (joinPath directory name) = true := by
  obtain ⟨hcurrent, hnode⟩ := makeDirectories_node? hup hmade
  cases hresolve : made.resolve (joinPath directory name) with
  | error cause =>
      rw [exists?, get, hresolve] at h
      cases h
  | ok p =>
      obtain ⟨hnul, hempty, hfold⟩ := resolve_eq_ok_iff.mp hresolve
      have hnames : ".." ∉ components (joinPath directory name) := by
        rw [components_joinPath hname, List.mem_append, List.mem_singleton, not_or]
        exact ⟨hup, Ne.symm hdots⟩
      obtain ⟨hp, hsizes⟩ := foldlM_enter_eq hnames hfold
      -- the file stands below every directory that was made
      have hsame : made.node? p = t.node? p := by
        refine hnode p ?_
        rw [hp, hcurrent, startsWith_joinPath hname, components_joinPath hname]
        simp only [List.length_append, List.length_cons, List.length_nil]
        omega
      have hget := get_of_resolve hresolve
      cases hthere : t.node? p with
      | none =>
          rw [hsame, hthere] at hget
          rw [exists?, hget] at h
          cases h
      | some n =>
          rw [hcurrent] at hp
          rw [hp] at hthere
          have hleads : t.resolve (joinPath directory name) = .ok p := by
            refine resolve_eq_ok_iff.mpr ⟨hnul, hempty, ?_⟩
            rw [hp]
            exact foldlM_enter_of_node ht hnames hsizes hthere
          rwa [exists?, get_of_resolve hleads, ← hsame, ← hget]

end Workplan.FileTree
