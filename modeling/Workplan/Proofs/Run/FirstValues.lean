/-
# `Workplan.Proofs.Run.FirstValues` — first values stay, also where a merge fails

`Workplan.Proofs.Run.Merge` describes a merge that meets no conflict.  A strict merge that meets one
has by then bound the outputs before it, and the context goes on to be used.  `Merged` puts the two
together: which result belongs to a merge, and which entries it has added by then.

Whatever a merge adds, it adds behind the old entries (`prefix_mergePairs`), so a sequence of merges
only ever lengthens the list of entries, whichever of them fail.  A merge that went through leaves
all keys of its outputs bound, and they stay bound; merged once more, the outputs find nothing to
do.
-/
import Workplan.Proofs.Run.Calls

namespace Workplan

/-- What a merge reports about a writer: the keys bound and those left alone, or the conflict. -/
def Merge.result (m : Merge) (writer : String) : Except RunError (List String × List String) :=
  match m.conflict with
  | some key => .error (.duplicateBinding key writer)
  | none => .ok (m.bound, m.discarded)

theorem Merge.result_of_none {m : Merge} (h : m.conflict = none) (writer : String) :
    m.result writer = .ok (m.bound, m.discarded) := by
  simp only [result, h]

theorem Merge.result_of_some {m : Merge} {key : String} (h : m.conflict = some key)
    (writer : String) : m.result writer = .error (.duplicateBinding key writer) := by
  simp only [result, h]

namespace Context

variable {policy : BindingPolicy} {c : Context} {outputs : Outputs}

/-! ## One merge -/

theorem mergePairs_cons_of_unbound (policy : BindingPolicy) {values : Table Value} {k : String}
    (v : Value) (rest : List (String × Value)) (h : values.contains k = false) :
    mergePairs policy values ((k, v) :: rest) =
      { mergePairs policy (values.insert k v) rest with
        bound := k :: (mergePairs policy (values.insert k v) rest).bound } := by
  simp only [mergePairs, h, Bool.false_eq_true, if_false]

theorem mergePairs_strict_cons_of_bound {values : Table Value} {k : String} (v : Value)
    (rest : List (String × Value)) (h : values.contains k = true) :
    mergePairs .strict values ((k, v) :: rest) = { values, conflict := some k } := by
  rw [mergePairs, if_pos h]

/-- A strict merge that meets a key that is bound has merged the pairs before it, and no more. -/
theorem mergePairs_strict_of_split {before rest : List (String × Value)} {key : String}
    {value : Value} {values : Table Value}
    (hkeys : ((before ++ (key, value) :: rest).map Prod.fst).Nodup)
    (hbefore : ∀ e ∈ before, values.contains e.1 = false) (hkey : values.contains key = true) :
    (mergePairs .strict values (before ++ (key, value) :: rest)).conflict = some key ∧
      (mergePairs .strict values (before ++ (key, value) :: rest)).values.entries =
        values.entries ++ before := by
  induction before generalizing values with
  | nil =>
      rw [List.nil_append, mergePairs_strict_cons_of_bound value rest hkey]
      exact ⟨rfl, (List.append_nil _).symm⟩
  | cons e before ih =>
      obtain ⟨k, v⟩ := e
      obtain ⟨hk, hrest⟩ := List.nodup_cons.mp hkeys
      have hunbound : values.contains k = false := hbefore (k, v) List.mem_cons_self
      have hsame := contains_insert_of_notMem values v hk
      have hlater : ∀ e ∈ before, (values.insert k v).contains e.1 = false := by
        intro e he
        rw [hsame e.1 (List.mem_map_of_mem (List.mem_append_left _ he))]
        exact hbefore e (List.mem_cons_of_mem _ he)
      have hstop : (values.insert k v).contains key = true := by
        rw [hsame key (List.mem_map_of_mem (List.mem_append_right before List.mem_cons_self))]
        exact hkey
      obtain ⟨hconflict, hentries⟩ := ih hrest hlater hstop
      rw [List.cons_append, mergePairs_cons_of_unbound .strict v _ hunbound]
      refine ⟨hconflict, ?_⟩
      show (mergePairs .strict (values.insert k v) _).values.entries = _
      rw [hentries, Table.entries_insert hunbound, List.append_assoc, List.singleton_append]

/-- The result of a merge, and the entries that it has added by then. -/
inductive Merged (c : Context) (outputs : Outputs) (writer : String) :
    Except RunError (List String × List String) → List (String × Value) → Prop
  | lenient : c.policy = .firstWins →
      Merged c outputs writer
        (.ok (outputs.keys.filter (fun k => !c.contains k), outputs.keys.filter c.contains))
        (outputs.entries.filter (fun e => !c.contains e.1))
  | added : c.policy = .strict → (∀ e ∈ outputs.entries, c.contains e.1 = false) →
      Merged c outputs writer (.ok (outputs.keys, [])) outputs.entries
  | stopped {before rest : List (String × Value)} {key : String} {value : Value} :
      c.policy = .strict → outputs.entries = before ++ (key, value) :: rest →
      (∀ e ∈ before, c.contains e.1 = false) → c.contains key = true →
      Merged c outputs writer (.error (.duplicateBinding key writer)) before

theorem conflict_merge_of_firstWins (h : c.policy = .firstWins) (outputs : Outputs) :
    (c.merge outputs).conflict = none := by
  rw [merge, h]
  exact conflict_mergePairs_firstWins _ _

theorem merge_of_unbound (h : (c.merge outputs).conflict = none)
    (hunbound : ∀ e ∈ outputs.entries, c.contains e.1 = false) :
    (c.after outputs).values.entries = c.values.entries ++ outputs.entries ∧
      (c.merge outputs).bound = outputs.keys ∧ (c.merge outputs).discarded = [] := by
  have hkeys : ∀ k ∈ outputs.keys, c.contains k = false := by
    intro k hk
    obtain ⟨e, he, rfl⟩ := List.mem_map.mp hk
    exact hunbound e he
  rw [entries_after h, bound_merge h, discarded_merge h]
  refine ⟨?_, ?_, ?_⟩
  · rw [List.filter_eq_self.mpr fun e he => by rw [hunbound e he]; rfl]
  · exact List.filter_eq_self.mpr fun k hk => by rw [hkeys k hk]; rfl
  · exact List.filter_eq_nil_iff.mpr fun k hk => Bool.eq_false_iff.mp (hkeys k hk)

theorem exists_merged (c : Context) (outputs : Outputs) (writer : String) :
    ∃ added, c.Merged outputs writer ((c.merge outputs).result writer) added ∧
      (c.after outputs).values.entries = c.values.entries ++ added := by
  cases hpolicy : c.policy with
  | firstWins =>
      have hc := conflict_merge_of_firstWins hpolicy outputs
      refine ⟨_, ?_, entries_after hc⟩
      rw [Merge.result_of_none hc, bound_merge hc, discarded_merge hc]
      exact .lenient hpolicy
  | strict =>
      have hmerge : c.merge outputs = mergePairs .strict c.values outputs.entries := by
        rw [merge, hpolicy]
      cases hfind : outputs.entries.find? fun e => c.contains e.1 with
      | none =>
          have hunbound : ∀ e ∈ outputs.entries, c.contains e.1 = false :=
            fun e he => Bool.eq_false_iff.mpr (List.find?_eq_none.mp hfind e he)
          have hc : (c.merge outputs).conflict = none := by
            rw [hmerge, conflict_mergePairs_strict outputs.distinct]
            refine List.find?_eq_none.mpr fun k hk => ?_
            obtain ⟨e, he, rfl⟩ := List.mem_map.mp hk
            exact List.find?_eq_none.mp hfind e he
          obtain ⟨hentries, hbound, hdiscarded⟩ := merge_of_unbound hc hunbound
          refine ⟨_, ?_, hentries⟩
          rw [Merge.result_of_none hc, hbound, hdiscarded]
          exact .added hpolicy hunbound
      | some e =>
          obtain ⟨key, value⟩ := e
          obtain ⟨hkey, before, rest, hsplit, hbefore⟩ := List.find?_eq_some_iff_append.mp hfind
          have hunbound : ∀ e ∈ before, c.contains e.1 = false := by
            intro e he
            exact Bool.not_eq_true' _ ▸ hbefore e he
          obtain ⟨hconflict, hentries⟩ :=
            mergePairs_strict_of_split (hsplit ▸ outputs.distinct) hunbound hkey
          rw [← hsplit, ← hmerge] at hconflict hentries
          refine ⟨before, ?_, hentries⟩
          rw [Merge.result_of_some hconflict]
          exact .stopped hpolicy hsplit hunbound hkey

theorem Merged.error_iff {writer : String} {result : Except RunError (List String × List String)}
    {added : List (String × Value)} (h : c.Merged outputs writer result added) :
    (∃ error, result = .error error) ↔
      c.policy = .strict ∧ ∃ key ∈ outputs.keys, c.contains key = true := by
  cases h with
  | lenient hpolicy => simp [hpolicy]
  | added hpolicy hunbound =>
      constructor
      · rintro ⟨error, herror⟩
        cases herror
      · rintro ⟨-, key, hkey, hbound⟩
        obtain ⟨e, he, rfl⟩ := List.mem_map.mp hkey
        rw [hunbound e he] at hbound
        cases hbound
  | @stopped before rest key value hpolicy hsplit _ hkey =>
      refine iff_of_true ⟨_, rfl⟩ ⟨hpolicy, key, ?_, hkey⟩
      exact List.mem_map.mpr ⟨(key, value), by rw [hsplit]; simp, rfl⟩

/-! ## Many merges -/

/-- The same values under another policy. -/
def under (c : Context) (policy : BindingPolicy) : Context := { c with policy }

/-- The context after some merges, each of them under a policy of its own.  A merge that fails does
not keep the others from being made. -/
def afterAll (c : Context) (merges : List (BindingPolicy × Outputs)) : Context :=
  merges.foldl (fun c m => (c.under m.1).after m.2) c

theorem prefix_mergePairs (policy : BindingPolicy) (pairs : List (String × Value))
    (values : Table Value) :
    values.entries <+: (mergePairs policy values pairs).values.entries := by
  induction pairs generalizing values with
  | nil => exact List.prefix_rfl
  | cons pair rest ih =>
      obtain ⟨k, v⟩ := pair
      cases hk : values.contains k with
      | true =>
          cases policy with
          | strict =>
              have hstop := mergePairs_strict_cons_of_bound v rest hk
              simp only [hstop, List.prefix_rfl]
          | firstWins =>
              rw [mergePairs, if_pos hk]
              exact ih values
      | false =>
          rw [mergePairs_cons_of_unbound policy v rest hk]
          refine List.IsPrefix.trans ?_ (ih (values.insert k v))
          rw [Table.entries_insert hk]
          exact List.prefix_append _ _

theorem prefix_after (c : Context) (outputs : Outputs) :
    c.values.entries <+: (c.after outputs).values.entries :=
  prefix_mergePairs c.policy outputs.entries c.values

theorem prefix_afterAll (c : Context) (merges : List (BindingPolicy × Outputs)) :
    c.values.entries <+: (c.afterAll merges).values.entries := by
  induction merges generalizing c with
  | nil => exact List.prefix_rfl
  | cons m rest ih => exact (prefix_after (c.under m.1) m.2).trans (ih _)

theorem afterAll_append (c : Context) (earlier later : List (BindingPolicy × Outputs)) :
    c.afterAll (earlier ++ later) = (c.afterAll earlier).afterAll later :=
  List.foldl_append

theorem contains_of_prefix {c' : Context} (h : c.values.entries <+: c'.values.entries)
    {key : String} (hkey : c.contains key = true) : c'.contains key = true :=
  (c'.values.contains_iff key).mpr
    (((List.IsPrefix.map Prod.fst h).subset) ((c.values.contains_iff key).mp hkey))

theorem after_of_bound (hpolicy : c.policy = .firstWins)
    (hbound : ∀ key ∈ outputs.keys, c.contains key = true) (writer : String) :
    c.after outputs = c ∧ (c.merge outputs).result writer = .ok ([], outputs.keys) := by
  have hc := conflict_merge_of_firstWins hpolicy outputs
  have hentries : (c.after outputs).values.entries = c.values.entries := by
    rw [entries_after hc, List.filter_eq_nil_iff.mpr, List.append_nil]
    intro e he
    rw [hbound e.1 (List.mem_map_of_mem he)]
    exact Bool.false_ne_true
  constructor
  · have hvalues : (c.after outputs).values = c.values := by
      cases hnew : (c.after outputs).values
      cases hold : c.values
      rw [hnew, hold] at hentries
      subst hentries
      rfl
    show ({ c with values := (c.after outputs).values } : Context) = c
    rw [hvalues]
  · rw [Merge.result_of_none hc, bound_merge hc, discarded_merge hc]
    rw [List.filter_eq_nil_iff.mpr, List.filter_eq_self.mpr hbound]
    intro key hkey
    rw [hbound key hkey]
    exact Bool.false_ne_true

end Context

/-- A run that takes in outputs goes on with what the merge has left, and fails if the merge
does. -/
theorem Run.finish_returned {r : Run} {u : WorkUnit} {result : StepResult} {outputs : Outputs}
    (h : result.outcome = .ok outputs) :
    (r.finish u result).1.context = r.context.after outputs ∧
      ∀ error, (r.finish u result).2 = some error ↔
        (r.context.merge outputs).result u.id = .error error := by
  cases hc : (r.context.merge outputs).conflict with
  | some key =>
      rw [finish_of_conflict h hc, Merge.result_of_some hc]
      exact ⟨rfl, fun error => by simp⟩
  | none =>
      rw [finish_of_merged h hc, Merge.result_of_none hc]
      exact ⟨rfl, fun error => by simp⟩

namespace Context

/-- Merging keeps first values.  The result of a merge and the entries it adds, behind the old ones,
are known whether or not it fails, and a run goes on with just these.  Over any merges, failed ones
among them, the entries are only ever added to; and outputs that have been merged without conflict
change nothing when they are merged again under the first-wins policy, whatever was merged in
between. -/
theorem merge_keeps_first_values (c : Context) (outputs : Outputs) (writer : String) :
    (∃ added, c.Merged outputs writer ((c.merge outputs).result writer) added ∧
      (c.after outputs).values.entries = c.values.entries ++ added) ∧
    ((∃ error, (c.merge outputs).result writer = .error error) ↔
      c.policy = .strict ∧ ∃ key ∈ outputs.keys, c.contains key = true) ∧
    (∀ (r : Run) (u : WorkUnit) (result : StepResult), result.outcome = .ok outputs →
      (r.finish u result).1.context = r.context.after outputs ∧
      ∀ error, (r.finish u result).2 = some error ↔
        (r.context.merge outputs).result u.id = .error error) ∧
    (∀ earlier later, (c.afterAll earlier).values.entries <+:
      (c.afterAll (earlier ++ later)).values.entries) ∧
    ((∃ keys, (c.merge outputs).result writer = .ok keys) → ∀ later,
      let again := ((c.after outputs).afterAll later).under .firstWins
      again.after outputs = again ∧
        (again.merge outputs).result writer = .ok ([], outputs.keys)) := by
  obtain ⟨added, hmerged, hentries⟩ := exists_merged c outputs writer
  refine ⟨⟨added, hmerged, hentries⟩, hmerged.error_iff, ?_, ?_, ?_⟩
  · intro r u result hreturned
    exact Run.finish_returned hreturned
  · intro earlier later
    rw [afterAll_append]
    exact prefix_afterAll _ later
  · rintro ⟨keys, hok⟩ later again
    refine after_of_bound rfl ?_ writer
    intro key hkey
    have hc : (c.merge outputs).conflict = none := by
      cases hc : (c.merge outputs).conflict with
      | none => rfl
      | some key =>
          rw [Merge.result_of_some hc] at hok
          cases hok
    have hbound : (c.after outputs).contains key = true := by
      rw [contains_after hc, (outputs.contains_iff key).mpr hkey, Bool.or_true]
    exact contains_of_prefix (prefix_afterAll (c.after outputs) later) hbound

/-- A strict context that binds one key. -/
def seeded : Context := ({ policy := .strict } : Context).insert "a" (.ofString "old")

/-- Outputs whose second key is the one that is bound. -/
def late : Outputs :=
  Table.ofList [("b", .ofString "1"), ("a", .ofString "2"), ("d", .ofString "3")]

theorem result_seeded : (seeded.merge late).result "w" = .error (.duplicateBinding "a" "w") := rfl

/-- The strict merge stops at the second output and keeps the first.  Merged leniently afterwards,
the outputs lose only the key that was bound all along, and merged a third time they lose all. -/
theorem merge_keeps_first_values_seeded :
    (∃ added, seeded.Merged late "w" (.error (.duplicateBinding "a" "w")) added ∧
      (seeded.after late).values.entries = seeded.values.entries ++ added) ∧
    seeded.values.entries <+:
      (seeded.afterAll [(.strict, late), (.firstWins, late)]).values.entries ∧
    let again := ((seeded.under .firstWins).after late).under .firstWins
    again.after late = again ∧ (again.merge late).result "w" = .ok ([], ["b", "a", "d"]) := by
  obtain ⟨hmerged, -, -, hprefix, -⟩ := merge_keeps_first_values seeded late "w"
  obtain ⟨-, -, -, -, hagain⟩ := merge_keeps_first_values (seeded.under .firstWins) late "w"
  refine ⟨?_, hprefix [] [(.strict, late), (.firstWins, late)], ?_⟩
  · rw [result_seeded] at hmerged
    exact hmerged
  · exact hagain ⟨(["b", "d"], ["a"]), rfl⟩ []

end Context

end Workplan
