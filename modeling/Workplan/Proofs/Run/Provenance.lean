/-
# `Workplan.Proofs.Run.Provenance` — the step that a value comes from

The planner draws an edge to a consumer from the first registered producer of a key.  A run binds
the key when a step first returns it, and steps run by level and name.  Where a plan holds several
producers of one key, the second for another of its keys or because it was requested, the step
that comes first need not be the provider of the edge, and its value is the one handed on.
-/
import Workplan.Proofs.Run.Supply
import Workplan.Proofs.Run.Trace

namespace Workplan

/-! ## Values handed out and values returned -/

namespace RunOutcome

/-- The run hands a unit a value under a key. -/
def Hands (o : RunOutcome) (id key : String) (value : Value) : Prop :=
  ∃ inputs, (id, inputs) ∈ o.calls ∧ inputs.get? key = some value

/-- In the run a unit returns a value under a key. -/
def Returns (o : RunOutcome) (reg : Registry) (id key : String) (value : Value) : Prop :=
  ∃ u inputs outputs, reg.get? id = some u ∧ (id, inputs) ∈ o.calls ∧
    u.execute inputs = .returned outputs ∧ outputs.get? key = some value

/-- The trace of a run that performed the units registered under the names, once each. -/
structure Traced (o : RunOutcome) (reg : Registry) (c : Context) (ids : List String)
    (trace : List Performed) : Prop where
  calls_eq : o.calls = trace.map fun s => (s.unit.id, s.inputs)
  ids_eq : trace.map (fun s => s.unit.id) = ids
  nodup : ids.Nodup
  registered : ∀ s ∈ trace, reg.get? s.unit.id = some s.unit
  threads : Threads c trace

namespace Traced

variable {o : RunOutcome} {reg : Registry} {c : Context} {ids : List String}
  {trace : List Performed} {s : Performed} {key : String} {value : Value}

theorem mem_calls_iff (h : o.Traced reg c ids trace) (hs : s ∈ trace) {inputs : Inputs} :
    (s.unit.id, inputs) ∈ o.calls ↔ inputs = s.inputs := by
  rw [h.calls_eq, List.mem_map]
  constructor
  · rintro ⟨t, ht, heq⟩
    have hnodup : (trace.map fun s => s.unit.id).Nodup := h.ids_eq ▸ h.nodup
    obtain rfl := List.inj_on_of_nodup_map hnodup ht hs (congrArg Prod.fst heq)
    exact (congrArg Prod.snd heq).symm
  · rintro rfl
    exact ⟨s, hs, rfl⟩

theorem hands_iff (h : o.Traced reg c ids trace) (hs : s ∈ trace) :
    o.Hands s.unit.id key value ↔ s.inputs.get? key = some value := by
  simp only [Hands, h.mem_calls_iff hs, exists_eq_left]

theorem returns_iff (h : o.Traced reg c ids trace) (hs : s ∈ trace) :
    o.Returns reg s.unit.id key value ↔ s.outputs.get? key = some value := by
  simp only [Returns, h.mem_calls_iff hs, h.registered s hs]
  constructor
  · rintro ⟨_, _, outputs, ⟨⟩, rfl, hexec, hvalue⟩
    cases (h.threads.execute hs).symm.trans hexec
    exact hvalue
  · exact fun hvalue => ⟨s.unit, s.inputs, s.outputs, rfl, rfl, h.threads.execute hs, hvalue⟩

end Traced

end RunOutcome

namespace OrderedPlan.Schedules

variable {p : OrderedPlan} {reg : Registry} {c : Context} {target : String}

theorem traced (hs : p.Schedules reg c target) {run : String}
    (h : ∃ report, (reg.runPlan run p c).ending = .completed report) :
    ∃ trace, (reg.runPlan run p c).Traced reg c p.steps trace := by
  obtain ⟨report, hreport⟩ := h
  have hrun : reg.runPlan run p c =
      Run.sequence (reg.unitsOf p.steps) (Run.begin reg run p c) := by
    rw [Registry.runPlan, hs.resolveSteps_eq]
  rw [hrun] at hreport ⊢
  obtain ⟨trace, hunits, hthreads, hcalls⟩ := Run.sequence_completed hreport
  refine ⟨trace, hcalls, ?_, hs.nodup, fun s hmem => ?_, hthreads⟩
  · rw [← hs.map_id_unitsOf, ← hunits, List.map_map]
    rfl
  · have hu : s.unit ∈ reg.unitsOf p.steps := by
      rw [← hunits]
      exact List.mem_map_of_mem hmem
    exact Registry.get?_of_mem_unitsOf hu

end OrderedPlan.Schedules

/-! ## The first step that produces a key -/

/-- The unit registered under the name produces the key. -/
def Registry.Produces (reg : Registry) (id key : String) : Prop :=
  ∃ u, reg.get? id = some u ∧ u.descriptor.produces key = true

/-- The step produces the key, and no step of the plan before it does. -/
def OrderedPlan.FirstProducing (p : OrderedPlan) (reg : Registry) (key id : String) : Prop :=
  ∃ before after, p.steps = before ++ id :: after ∧ reg.Produces id key ∧
    ∀ other ∈ before, ¬ reg.Produces other key

/-- The steps return exactly what their units declare. -/
def ReturnDeclared (trace : List Performed) : Prop :=
  ∀ s ∈ trace, ∀ key, s.outputs.contains key = s.unit.descriptor.produces key

theorem findSome?_outputs {trace : List Performed} (h : ReturnDeclared trace) (key : String) :
    (trace.findSome? fun s => s.outputs.get? key) =
      (trace.find? fun s => s.unit.descriptor.produces key).bind fun s => s.outputs.get? key := by
  induction trace with
  | nil => rfl
  | cons s rest ih =>
      obtain ⟨hs, hrest⟩ := List.forall_mem_cons.mp h
      rw [List.findSome?_cons, List.find?_cons, ih hrest, ← hs key]
      cases hget : s.outputs.get? key with
      | none => simp [Table.contains, hget]
      | some value => simp [Table.contains, hget]

namespace RunOutcome.Traced

variable {o : RunOutcome} {reg : Registry} {c : Context} {p : OrderedPlan}
  {trace : List Performed} {s : Performed} {key : String}

theorem produces_iff (h : o.Traced reg c p.steps trace) (hs : s ∈ trace) :
    reg.Produces s.unit.id key ↔ s.unit.descriptor.produces key = true := by
  simp only [Registry.Produces, h.registered s hs, Option.some.injEq, exists_eq_left']

theorem returnDeclared (h : o.Traced reg c p.steps trace)
    (hunits : ∀ id ∈ p.steps, ∀ u, reg.get? id = some u → u.ReturnsExactly) :
    ReturnDeclared trace := by
  intro s hs key
  have hid : s.unit.id ∈ p.steps := by
    rw [← h.ids_eq]
    exact List.mem_map_of_mem hs
  exact hunits _ hid _ (h.registered s hs) _ _ (h.threads.execute hs) key

/-- A step is handed, under a required key that was not bound at first and that an earlier step
produces, what the first step producing the key returned. -/
theorem handed_by_first {before after : List Performed}
    (h : o.Traced reg c p.steps (before ++ s :: after))
    (hdeclared : ReturnDeclared (before ++ s :: after))
    (hkey : key ∈ s.unit.descriptor.requiredKeys) (hbound : c.contains key = false)
    {t : Performed} (ht : t ∈ before) (hproduces : t.unit.descriptor.produces key = true) :
    ∃ first ∈ before, first.unit.descriptor.produces key = true ∧
      p.FirstProducing reg key first.unit.id ∧
      s.inputs.get? key = first.outputs.get? key := by
  have hfound : (before.find? fun s => s.unit.descriptor.produces key).isSome = true :=
    List.find?_isSome.mpr ⟨t, ht, hproduces⟩
  obtain ⟨first, hfirst⟩ := Option.isSome_iff_exists.mp hfound
  have hfp : first.unit.descriptor.produces key = true := by simpa using List.find?_some hfirst
  refine ⟨first, List.mem_of_find?_eq_some hfirst, hfp, ?_, ?_⟩
  · obtain ⟨-, left, right, rfl, hleft⟩ := List.find?_eq_some_iff_append.mp hfirst
    refine ⟨left.map fun s => s.unit.id, (right ++ s :: after).map fun s => s.unit.id, ?_, ?_, ?_⟩
    · rw [← h.ids_eq]
      simp
    · exact (h.produces_iff (by simp)).mpr hfp
    · intro other hother
      obtain ⟨l, hl, rfl⟩ := List.mem_map.mp hother
      rw [h.produces_iff (by simp [hl])]
      simpa using hleft l hl
  · have hget := h.threads.get?_inputs (Descriptor.mem_keys_of_mem_requiredKeys hkey)
    have hbefore : ReturnDeclared before :=
      fun s hs => hdeclared s (List.mem_append_left _ hs)
    rw [show c.get? key = none from Table.contains_eq_false_iff.mp hbound, Option.none_or,
      findSome?_outputs hbefore, hfirst] at hget
    exact hget

theorem exists_returned (h : o.Traced reg c p.steps trace) (hdeclared : ReturnDeclared trace)
    (hs : s ∈ trace) (hproduces : s.unit.descriptor.produces key = true) :
    ∃ value, s.outputs.get? key = some value ∧ ∀ x, o.Returns reg s.unit.id key x ↔ x = value := by
  have hcontains : s.outputs.contains key = true := (hdeclared s hs key).trans hproduces
  obtain ⟨value, hvalue⟩ := Table.contains_eq_true_iff.mp hcontains
  refine ⟨value, hvalue, fun x => ?_⟩
  rw [h.returns_iff hs, hvalue, Option.some.injEq, eq_comm]

/-- In the trace of a plan, what a step waits for was performed before it. -/
theorem awaited_split (h : o.Traced reg c p.steps trace) {target : String}
    (hs : p.Schedules reg c target) {id q : String} (hid : id ∈ p.steps)
    (hq : reg.Awaits c id q) :
    ∃ before s after, trace = before ++ s :: after ∧ s.unit.id = id ∧
      ∃ t ∈ before, t.unit.id = q := by
  obtain ⟨left, right, hsteps, hleft⟩ := hs.awaited_earlier hid hq
  obtain ⟨before, rest, rfl, rfl, hrest⟩ :=
    List.map_eq_append_iff.mp (h.ids_eq.trans hsteps)
  obtain ⟨s, after, rfl, hname, -⟩ := List.map_eq_cons_iff.mp hrest
  exact ⟨before, s, after, rfl, hname, List.mem_map.mp hleft⟩

end RunOutcome.Traced

/-- In a completed run a consumer is handed the value that the first step producing the key
returned.  This is the value of the provider that the planner chose exactly when the provider
returned the same one, as it does when it is that first step itself. -/
theorem handed_by_first_producing_step {r : Registry} {target : String} {c : Context}
    {g : ProviderGraph} {p : OrderedPlan} {run : String}
    (hgraph : r.buildGraph target c = .ok g)
    (hplan : r.buildPlan target c = .ok (.ordered p))
    (hunits : ∀ id ∈ p.steps, ∀ u, r.get? id = some u → u.ReturnsExactly)
    (hrun : ∃ report, (r.runPlan run p c).ending = .completed report)
    {provider consumer key : String}
    (hedge : (⟨.unit provider, .unit consumer, .providesKey key⟩ : Edge) ∈ g.edges) :
    ∃ first v w, p.FirstProducing r key first ∧
      (∀ x, (r.runPlan run p c).Hands consumer key x ↔ x = v) ∧
      (∀ x, (r.runPlan run p c).Returns r first key x ↔ x = v) ∧
      (∀ x, (r.runPlan run p c).Returns r provider key x ↔ x = w) ∧
      ((∀ x, (r.runPlan run p c).Hands consumer key x ↔
        (r.runPlan run p c).Returns r provider key x) ↔ v = w) := by
  obtain ⟨hs, -⟩ := schedules_of_buildPlan hplan
  obtain ⟨trace, htrace⟩ := hs.traced hrun
  have hdeclared := htrace.returnDeclared hunits
  obtain ⟨hg, -⟩ := Registry.resolves_of_buildGraph hgraph
  obtain ⟨id, u, hneeded, hu, hin⟩ := (hg.edges_iff _).mp hedge
  obtain rfl : id = consumer := by simpa [eq_comm] using hin.target_eq
  cases hin with
  | providesKey hkey hbound hprovider =>
      obtain ⟨before, s, after, rfl, rfl, t, ht, rfl⟩ :=
        htrace.awaited_split hs ((hs.mem_iff id).mpr hneeded)
          (.producer hu hkey hbound hprovider)
      have hmem : s ∈ before ++ s :: after := by simp
      have hmem_before : ∀ q ∈ before, q ∈ before ++ s :: after :=
        fun q hq => List.mem_append_left _ hq
      cases hu.symm.trans (htrace.registered s hmem)
      have hproduces : t.unit.descriptor.produces key = true :=
        (htrace.produces_iff (hmem_before t ht)).mp hprovider.get?
      obtain ⟨first, hfirst, hfp, hproducing, hhanded⟩ :=
        htrace.handed_by_first hdeclared hkey hbound ht hproduces
      obtain ⟨v, hv, hfirst_returns⟩ :=
        htrace.exists_returned hdeclared (hmem_before first hfirst) hfp
      obtain ⟨w, -, hprovider_returns⟩ :=
        htrace.exists_returned hdeclared (hmem_before t ht) hproduces
      have hhands : ∀ x, (r.runPlan run p c).Hands s.unit.id key x ↔ x = v := fun x => by
        rw [htrace.hands_iff hmem, hhanded, hv, Option.some.injEq, eq_comm]
      refine ⟨first.unit.id, v, w, hproducing, hhands, hfirst_returns, hprovider_returns, ?_⟩
      simp only [hhands, hprovider_returns]
      exact ⟨fun h => (h v).mp rfl, fun h x => by rw [h]⟩

/-! ## A provider that is overtaken -/

theorem sequence_twoProducers (run target planHash : String) (steps : UInt64) :
    let o := Run.sequence (twoProducers.unitsOf twoProducersPlan.steps)
      { run, target, planHash, context := {},
        log := [.event (.runStarted run target planHash steps)] }
    o.completed = true ∧ o.calls = [("a", {}), ("z", {}),
      ("u", Table.ofList [("k", .ofString "from a"), ("m", .ofString "")])] :=
  ⟨by cbv, by cbv⟩

theorem runPlan_twoProducers :
    (twoProducers.runPlan "run" twoProducersPlan {}).completed = true ∧
      (twoProducers.runPlan "run" twoProducersPlan {}).calls = [("a", {}), ("z", {}),
        ("u", Table.ofList [("k", .ofString "from a"), ("m", .ofString "")])] :=
  sequence_twoProducers _ _ _ _

theorem handed_by_first_producing_step_twoProducers :
    ∃ first v w, twoProducersPlan.FirstProducing twoProducers "k" first ∧
      (∀ x, (twoProducers.runPlan "run" twoProducersPlan {}).Hands "u" "k" x ↔ x = v) ∧
      (∀ x, (twoProducers.runPlan "run" twoProducersPlan {}).Returns twoProducers first "k" x ↔
        x = v) ∧
      (∀ x, (twoProducers.runPlan "run" twoProducersPlan {}).Returns twoProducers "z" "k" x ↔
        x = w) ∧
      ((∀ x, (twoProducers.runPlan "run" twoProducersPlan {}).Hands "u" "k" x ↔
        (twoProducers.runPlan "run" twoProducersPlan {}).Returns twoProducers "z" "k" x) ↔
          v = w) :=
  handed_by_first_producing_step buildGraph_twoProducers buildPlan_twoProducers
    (fun _ _ _ hu => twoProducers_returnsExactly hu)
    (RunOutcome.completed_eq_true_iff.mp runPlan_twoProducers.1)
    (by simp [twoProducersGraph])

/-- The planner draws the edge for `k` from `z`, but the run hands on what `a` returned: the
provider of an edge need not be the one whose value is used. -/
theorem provider_overtaken :
    ({} : Context).policy = .firstWins ∧
    twoProducers.buildGraph "u" {} = .ok twoProducersGraph ∧
    (⟨.unit "z", .unit "u", .providesKey "k"⟩ : Edge) ∈ twoProducersGraph.edges ∧
    twoProducers.buildPlan "u" {} = .ok (.ordered twoProducersPlan) ∧
    (∀ id u, twoProducers.get? id = some u → u.ReturnsExactly) ∧
    (∃ report, (twoProducers.runPlan "run" twoProducersPlan {}).ending = .completed report) ∧
    ∃ value, (twoProducers.runPlan "run" twoProducersPlan {}).Hands "u" "k" value ∧
      ¬ (twoProducers.runPlan "run" twoProducersPlan {}).Returns twoProducers "z" "k" value := by
  refine ⟨rfl, buildGraph_twoProducers, by simp [twoProducersGraph], buildPlan_twoProducers,
    fun _ _ => twoProducers_returnsExactly,
    RunOutcome.completed_eq_true_iff.mp runPlan_twoProducers.1, .ofString "from a", ?_, ?_⟩
  · refine ⟨Table.ofList [("k", .ofString "from a"), ("m", .ofString "")], ?_, rfl⟩
    rw [runPlan_twoProducers.2]
    simp
  · rintro ⟨u, inputs, outputs, hu, -, hexec, hvalue⟩
    have hz : twoProducers.get? "z" = some (.constant "z" [] [("k", "from z")]) := rfl
    cases hz.symm.trans hu
    cases hexec
    have hreturned : (Table.ofList [("k", Value.ofString "from z")]).get? "k" =
        some (.ofString "from z") := rfl
    have htexts : Value.ofString "from z" = .ofString "from a" :=
      Option.some.inj (hreturned.symm.trans hvalue)
    simp [Value.ofString] at htexts

end Workplan
