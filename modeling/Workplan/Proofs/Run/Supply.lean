/-
# `Workplan.Proofs.Run.Supply` — no step of a plan is starved

A plan puts the first producer of every key that a unit requires, unless the context binds it,
into an earlier level.  So after some levels every key that their units produce is bound: not
always by the producer that the planner meant, since a value may be discarded for an earlier one,
but bound nevertheless, because merging only adds keys.  `Supplied` is this invariant as a property
of the units that are still to run, and both loops keep it.
-/
import Mathlib
import Workplan.Proofs.Plan.Units
import Workplan.Proofs.Run.Calls
import Workplan.Proofs.Step

namespace Workplan

/-! ## Units that are supplied -/

/-- Every unit finds what it requires among the bound keys and what the units before it
produce. -/
def Supplied (bound : String → Prop) : List WorkUnit → Prop
  | [] => True
  | u :: rest =>
    (∀ key ∈ u.descriptor.requiredKeys, bound key) ∧
      Supplied (fun key => bound key ∨ u.descriptor.produces key = true) rest

/-- Every unit finds what it requires among the bound keys and what the units of the levels before
its own produce. -/
def SuppliedLevels (bound : String → Prop) : List (List WorkUnit) → Prop
  | [] => True
  | level :: rest =>
    (∀ u ∈ level, ∀ key ∈ u.descriptor.requiredKeys, bound key) ∧
      SuppliedLevels (fun key => bound key ∨ ∃ u ∈ level, u.descriptor.produces key = true) rest

theorem Supplied.mono {units : List WorkUnit} {bound more : String → Prop}
    (hmore : ∀ key, bound key → more key) (h : Supplied bound units) : Supplied more units := by
  induction units generalizing bound more with
  | nil => trivial
  | cons u rest ih =>
      exact ⟨fun key hkey => hmore key (h.1 key hkey),
        ih (fun key => Or.imp_left (hmore key)) h.2⟩

theorem SuppliedLevels.mono {levels : List (List WorkUnit)} {bound more : String → Prop}
    (hmore : ∀ key, bound key → more key) (h : SuppliedLevels bound levels) :
    SuppliedLevels more levels := by
  induction levels generalizing bound more with
  | nil => trivial
  | cons level rest ih =>
      exact ⟨fun u hu key hkey => hmore key (h.1 u hu key hkey),
        ih (fun key => Or.imp_left (hmore key)) h.2⟩

/-- A level that is supplied by what is bound already may run in any order. -/
theorem Supplied.level {level rest : List WorkUnit} {bound : String → Prop}
    (hlevel : ∀ u ∈ level, ∀ key ∈ u.descriptor.requiredKeys, bound key)
    (hrest : Supplied (fun key => bound key ∨ ∃ u ∈ level, u.descriptor.produces key = true)
      rest) :
    Supplied bound (level ++ rest) := by
  induction level generalizing bound with
  | nil => exact hrest.mono (by simp)
  | cons u others ih =>
      refine ⟨hlevel u List.mem_cons_self, ih ?_ (hrest.mono ?_)⟩
      · exact fun v hv key hkey => Or.inl (hlevel v (List.mem_cons_of_mem _ hv) key hkey)
      · rintro key (h | ⟨v, hv, hp⟩)
        · exact Or.inl (Or.inl h)
        · rcases List.mem_cons.mp hv with rfl | hv
          · exact Or.inl (Or.inr hp)
          · exact Or.inr ⟨v, hv, hp⟩

theorem SuppliedLevels.flatten {levels : List (List WorkUnit)} {bound : String → Prop}
    (h : SuppliedLevels bound levels) : Supplied bound levels.flatten := by
  induction levels generalizing bound with
  | nil => trivial
  | cons level rest ih => exact Supplied.level h.1 (ih h.2)

/-! ## The levels of a plan -/

namespace OrderedPlan.Schedules

variable {p : OrderedPlan} {reg : Registry} {c : Context} {target : String}

/-- What a unit of a plan requires is bound, or a unit of an earlier level produces it. -/
theorem bound_or_produced (hs : p.Schedules reg c target)
    (hlacks : ¬ ∃ key, reg.Lacks c target key) {before after : List (List String)}
    {level : List String} (hlev : p.levels = before ++ level :: after) {u : WorkUnit}
    (hu : u ∈ reg.unitsOf level) {key : String} (hkey : key ∈ u.descriptor.requiredKeys) :
    c.contains key = true ∨
      ∃ q ∈ reg.unitsOf before.flatten, q.descriptor.produces key = true := by
  obtain ⟨id, hid, hget⟩ := Registry.mem_unitsOf.mp hu
  have hneeded : reg.Needed c target id := by
    rw [← hs.mem_iff, hs.steps_eq, hlev]
    exact List.mem_flatten.mpr ⟨level, by simp, hid⟩
  cases hbound : c.contains key with
  | true => exact Or.inl rfl
  | false =>
      rcases reg.firstProducer_or_unproduced key with ⟨q, hq⟩ | hnone
      · obtain ⟨v, hv, hproduces⟩ := hq.get?
        have hawaits : reg.Awaits c id q := .producer hget hkey hbound hq
        have hbefore := hs.awaited_before before level after hlev id hid q hawaits
        exact Or.inr ⟨v, Registry.mem_unitsOf.mpr ⟨q, hbefore, hv⟩, hproduces⟩
      · exact absurd ⟨key, id, u, hneeded, hget, hkey, hbound, hnone⟩ hlacks

theorem suppliedLevels (hs : p.Schedules reg c target)
    (hlacks : ¬ ∃ key, reg.Lacks c target key) :
    SuppliedLevels (fun key => c.contains key = true) (p.levels.map reg.unitsOf) := by
  suffices hsuffix : ∀ after before, p.levels = before ++ after →
      SuppliedLevels (fun key => c.contains key = true ∨
        ∃ q ∈ reg.unitsOf before.flatten, q.descriptor.produces key = true)
        (after.map reg.unitsOf) from
    (hsuffix p.levels [] rfl).mono (by simp [Registry.unitsOf])
  intro after
  induction after with
  | nil => exact fun _ _ => trivial
  | cons level rest ih =>
      intro before hlev
      refine ⟨fun u hu key hkey => hs.bound_or_produced hlacks hlev hu hkey, ?_⟩
      have hrest := ih (before ++ [level]) (by simp [hlev])
      refine hrest.mono fun key h => ?_
      simpa [Registry.unitsOf, or_assoc, or_and_right, exists_or] using h

end OrderedPlan.Schedules

/-! ## Both loops feed their steps -/

/-- Every start in the record is followed by a call, and every call hands a registered unit what
it requires. -/
structure FedLog (reg : Registry) (log : List LogEntry) : Prop where
  started_eq : startedIn log = (callsIn log).map Prod.fst
  fed : ∀ call ∈ callsIn log, ∃ u, reg.get? call.1 = some u ∧ u.Fed call.2

/-- The run ends for the want of a unit or of an input. -/
inductive RunError.Starves : RunError → Prop
  | unit (id : String) : Starves (.unitNotFound id)
  | input {cause : StepError} (id : String) (completed : Nat) : cause.IsMissingInput →
      Starves (.step id completed cause)

/-- A run that feeds its steps: whatever it starts is a registered unit that is handed all its
required inputs, and neither a unit nor an input is ever found missing. -/
structure RunOutcome.Feeds (o : RunOutcome) (reg : Registry) : Prop where
  log : FedLog reg o.log
  ending : ∀ error, o.ending = .failed error → ¬ error.Starves

/-- The unit is registered under its name, and keeps its promise of outputs. -/
def Registry.Reliable (reg : Registry) (u : WorkUnit) : Prop :=
  reg.get? u.id = some u ∧ u.ReturnsDeclared

theorem WorkUnit.fed_slice {u : WorkUnit} {c : Context}
    (h : ∀ key ∈ u.descriptor.requiredKeys, c.contains key = true) :
    u.Fed (c.slice u.descriptor) := by
  intro key hkey
  obtain ⟨value, hvalue⟩ := Table.contains_eq_true_iff.mp (h key hkey)
  refine Table.contains_eq_true_iff.mpr ⟨value, ?_⟩
  rw [Context.get?_slice, if_pos (Descriptor.mem_keys_of_mem_requiredKeys hkey)]
  exact hvalue

namespace FedLog

variable {reg : Registry} {log later : List LogEntry} {r : Run}

theorem quietly (h : FedLog reg log) (hq : QuietlyExtends log later) : FedLog reg later where
  started_eq := by rw [hq.startedIn_eq, hq.callsIn_eq, h.started_eq]
  fed := by
    rw [hq.callsIn_eq]
    exact h.fed

theorem handedLevel (h : FedLog reg r.log) {units : List WorkUnit}
    (hget : ∀ u ∈ units, reg.get? u.id = some u)
    (hkeys : ∀ u ∈ units, ∀ key ∈ u.descriptor.requiredKeys, r.context.contains key = true) :
    FedLog reg (r.handedLevel units).log where
  started_eq := by
    rw [Run.startedIn_handedLevel, Run.callsIn_handedLevel, h.started_eq, List.map_append,
      List.map_map]
    rfl
  fed := by
    rw [Run.callsIn_handedLevel]
    refine List.forall_mem_append.mpr ⟨h.fed, fun call hcall => ?_⟩
    obtain ⟨u, hu, rfl⟩ := List.mem_map.mp hcall
    exact ⟨u, hget u hu, WorkUnit.fed_slice (hkeys u hu)⟩

theorem handed (h : FedLog reg r.log) {u : WorkUnit} (hget : reg.get? u.id = some u)
    (hkeys : ∀ key ∈ u.descriptor.requiredKeys, r.context.contains key = true) :
    FedLog reg (r.handed u).log := by
  show FedLog reg (r.handedLevel [u]).log
  exact h.handedLevel (by simpa using hget) (by simpa using hkeys)

theorem complete (h : FedLog reg r.log) : r.complete.Feeds reg :=
  ⟨h.quietly r.quietlyExtends_complete, nofun⟩

end FedLog

/-- A step that was fed does not stop a run for the want of anything. -/
theorem Run.Stops.not_starves {u : WorkUnit} {result : StepResult} {error : RunError}
    (h : Stops u result error)
    (hresult : ∀ cause, result.outcome = .error cause → ¬ cause.IsMissingInput) :
    ¬ error.Starves := by
  cases h with
  | step completed hcause =>
      rintro (_ | ⟨_, _, hmissing⟩)
      exact hresult _ hcause hmissing
  | conflict key => exact nofun

namespace Run

variable {reg : Registry}

theorem sequence_feeds {units : List WorkUnit} {r : Run} (hlog : FedLog reg r.log)
    (hunits : ∀ u ∈ units, reg.Reliable u)
    (hsupplied : Supplied (fun key => r.context.contains key = true) units) :
    (sequence units r).Feeds reg := by
  induction units generalizing r with
  | nil => exact hlog.complete
  | cons u rest ih =>
      obtain ⟨⟨hget, hdeclared⟩, hrest⟩ := List.forall_mem_cons.mp hunits
      obtain ⟨hkeys, hsupplied⟩ := hsupplied
      have hhanded := hlog.handed hget hkeys
      rcases sequence_cons_cases u rest r with
        ⟨crash, hs⟩ | ⟨result, later, error, hp, hstop, hlater, hs⟩ |
        ⟨result, outputs, hp, hok, hc, hs⟩
      · rw [hs]
        exact ⟨hhanded, nofun⟩
      · rw [hs]
        refine ⟨hhanded.quietly hlater, ?_⟩
        rintro _ ⟨⟩
        exact hstop.not_starves fun cause herr =>
          WorkUnit.not_isMissingInput_of_perform (WorkUnit.fed_slice hkeys) hp herr
      · rw [hs]
        refine ih (hhanded.quietly (quietlyExtends_merged _ u _ outputs)) hrest ?_
        refine hsupplied.mono fun key h => ?_
        rw [context_merged, context_handed, Context.contains_after hc]
        rcases h with h | h
        · rw [h, Bool.true_or]
        · rw [hdeclared _ _ (WorkUnit.execute_of_perform hp hok) key h, Bool.or_true]

theorem levelByLevel_feeds {levels : List (List WorkUnit)} {r : Run} (hlog : FedLog reg r.log)
    (hunits : ∀ level ∈ levels, ∀ u ∈ level, reg.Reliable u)
    (hsupplied : SuppliedLevels (fun key => r.context.contains key = true) levels) :
    (levelByLevel levels r).Feeds reg := by
  induction levels generalizing r with
  | nil => exact hlog.complete
  | cons level rest ih =>
      obtain ⟨hlevel, hrest⟩ := List.forall_mem_cons.mp hunits
      obtain ⟨hkeys, hsupplied⟩ := hsupplied
      have hhanded := hlog.handedLevel (fun u hu => (hlevel u hu).1) hkeys
      have hlevel_eq := performLevel_eq r level
      rcases finishAll_cases (level.map fun u => (u, u.performContained (r.inputsFor u)))
          (r.handedLevel level) with
        ⟨later, error, hf, hlater, job, hjob, hstop⟩ | ⟨later, hf, hlater, hold, hjobs⟩
      · obtain ⟨u, hu, rfl⟩ := List.mem_map.mp hjob
        rw [levelByLevel, hlevel_eq, hf]
        refine ⟨hhanded.quietly hlater, ?_⟩
        rintro _ ⟨⟩
        exact hstop.not_starves fun cause herr =>
          WorkUnit.not_isMissingInput_of_performContained (WorkUnit.fed_slice (hkeys u hu)) herr
      · rw [levelByLevel, hlevel_eq, hf]
        refine ih (hhanded.quietly hlater) hrest (hsupplied.mono fun key h => ?_)
        rcases h with h | ⟨u, hu, hproduces⟩
        · exact hold key (by rw [context_handedLevel, h])
        · obtain ⟨outputs, hok, hbinds⟩ := hjobs _ (List.mem_map_of_mem hu)
          have hexec := WorkUnit.execute_of_performContained hok
          exact hbinds key ((hlevel u hu).2 _ _ hexec key hproduces)

end Run

theorem fedLog_begin (reg : Registry) (run : String) (p : OrderedPlan) (c : Context) :
    FedLog reg (Run.begin reg run p c).log :=
  ⟨rfl, nofun⟩

/-- Run from the context it was made for, under either policy and with either loop, a plan hands
every step that is started all that the step requires, provided that the units of the plan return
at least what they declare. -/
theorem runs_feed_steps {r : Registry} {target : String} {c : Context} {p : OrderedPlan}
    (hplan : r.buildPlan target c = .ok (.ordered p))
    (hunits : ∀ id ∈ p.steps, ∀ u, r.get? id = some u → u.ReturnsDeclared)
    (run : String) (policy : BindingPolicy) :
    (r.runPlan run p { c with policy }).Feeds r ∧
      (r.runPlanParallel run p { c with policy }).Feeds r := by
  obtain ⟨hs, hlacks⟩ := schedules_of_buildPlan hplan
  have hlevels := hs.suppliedLevels hlacks
  have hreliable : ∀ u ∈ r.unitsOf p.steps, r.Reliable u := by
    intro u hu
    obtain ⟨id, hid, hget⟩ := Registry.mem_unitsOf.mp hu
    exact ⟨Registry.get?_of_mem_unitsOf hu, hunits id hid u hget⟩
  have hflat : r.unitsOf p.steps = (p.levels.map r.unitsOf).flatten := by
    rw [hs.steps_eq]
    exact List.filterMap_flatten
  constructor
  · rw [Registry.runPlan, hs.resolveSteps_eq]
    refine Run.sequence_feeds (fedLog_begin r run p _) hreliable ?_
    rw [hflat]
    exact hlevels.flatten
  · rw [Registry.runPlanParallel, hs.resolveSteps_eq]
    show (Run.levelByLevel (p.levels.map (Registry.levelUnits (r.unitsOf p.steps))) _).Feeds r
    rw [hs.levels_eq]
    refine Run.levelByLevel_feeds (fedLog_begin r run p _) (fun level hlevel u hu => ?_) hlevels
    refine hreliable u ?_
    rw [hflat]
    exact List.mem_flatten.mpr ⟨level, hlevel, hu⟩

/-! ## The two producers, run -/

theorem WorkUnit.constant_returnsExactly (id : String) (requires : List String)
    (outputs : List (String × String)) :
    (WorkUnit.constant id requires outputs).ReturnsExactly := by
  rintro inputs _ ⟨⟩ key
  show (Table.ofList _).contains key = (KeySet.ofList _).contains key
  rw [Table.contains_ofList, KeySet.contains_ofList, List.map_map]
  rfl

theorem twoProducers_returnsExactly {id : String} {u : WorkUnit}
    (h : twoProducers.get? id = some u) : u.ReturnsExactly := by
  have hentries : twoProducers.units.entries.map Prod.snd =
      [.constant "z" [] [("k", "from z")], .constant "a" [] [("k", "from a"), ("m", "")],
        .constant "u" ["k", "m"] []] := rfl
  have hu : u ∈ twoProducers.units.entries.map Prod.snd :=
    List.mem_map.mpr ⟨(id, u), Table.get?_eq_some_iff.mp h, rfl⟩
  rw [hentries] at hu
  simp only [List.mem_cons, List.not_mem_nil, or_false] at hu
  rcases hu with rfl | rfl | rfl <;> exact WorkUnit.constant_returnsExactly _ _ _

theorem runs_feed_steps_twoProducers :
    (twoProducers.runPlan "run" twoProducersPlan { policy := .strict }).Feeds twoProducers ∧
      (twoProducers.runPlanParallel "run" twoProducersPlan { policy := .strict }).Feeds
        twoProducers :=
  runs_feed_steps buildPlan_twoProducers
    (fun _ _ _ hu => (twoProducers_returnsExactly hu).returnsDeclared) "run" .strict

end Workplan
