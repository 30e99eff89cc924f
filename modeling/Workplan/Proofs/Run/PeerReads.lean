/-
# `Workplan.Proofs.Run.PeerReads` — optional inputs that a unit of the same level returns

The planner puts the provider of a required input into an earlier level.  It does not look at
optional inputs, so a unit may stand in its level behind another one that produces one of them.  One
after the other, it is handed the value; level by level it is not, because all units of a level see
what was bound before the level.  `ReadsPeer` is this situation, and it is the only one in which the
two loops hand out different inputs.

`SuppliedAt` says which of its inputs a unit is handed by a run over levels: those bound at first,
and those that units of earlier levels produce.  The sequential loop is the loop over levels of one
unit each, so both loops are instances, and what they hand out is compared key by key.
-/
import Workplan.Proofs.Run.Accounts
import Workplan.Proofs.Run.Agreement
import Workplan.Proofs.Run.Supply

namespace Workplan

/-! ## What a unit is supplied with -/

/-- Of its inputs, the unit is handed those that the context binds and those that units of the
levels before its own produce. -/
def SuppliedAt (levels : List (List WorkUnit)) (c : Context) (h : WorkUnit × Inputs) : Prop :=
  ∃ before level after, levels = before ++ level :: after ∧ h.1 ∈ level ∧
    ∀ key, h.2.contains key = true ↔ key ∈ h.1.descriptor.inputs.keys ∧
      (c.contains key = true ∨ ∃ v ∈ before.flatten, v.descriptor.produces key = true)

/-- A unit reads a peer: it declares an input that is neither bound nor produced in an earlier
level, but produced by a unit before it in its own level. -/
def OrderedPlan.ReadsPeer (p : OrderedPlan) (reg : Registry) (c : Context) (u : WorkUnit)
    (key : String) : Prop :=
  ∃ before left right after, p.levels.map reg.unitsOf = before ++ (left ++ u :: right) :: after ∧
    key ∈ u.descriptor.inputs.keys ∧ c.contains key = false ∧
    (∀ v ∈ before.flatten, v.descriptor.produces key = false) ∧
    ∃ v ∈ left, v.descriptor.produces key = true

/-- The run completed, having handed each unit of the levels, in order, what it is supplied with. -/
structure RunOutcome.Supplies (o : RunOutcome) (levels : List (List WorkUnit)) (c : Context) : Prop
    where
  completed : ∃ report, o.ending = .completed report
  handed : ∃ handed : List (WorkUnit × Inputs), handed.map Prod.fst = levels.flatten ∧
    o.calls = handed.map (fun h => (h.1.id, h.2)) ∧ ∀ h ∈ handed, SuppliedAt levels c h

/-! ## Runs over levels that succeed -/

/-- The invariant of a run over levels under the first-wins policy, whose units return exactly what
they declare: what is bound, and what was handed out. -/
structure Supplying (levels : List (List WorkUnit)) (c : Context)
    (handed : List (WorkUnit × Inputs)) (done : List Performed) (r : Run) : Prop where
  policy_eq : r.context.policy = .firstWins
  bound_iff : ∀ key, r.context.contains key = true ↔
    c.contains key = true ∨ ∃ u ∈ done.map Performed.unit, u.descriptor.produces key = true
  supplied : ∀ h ∈ handed, SuppliedAt levels c h

namespace Run

theorem keeps_supplying {levels : List (List WorkUnit)} (c : Context)
    (hexact : ∀ u ∈ levels.flatten, u.ReturnsExactly) : Keeps levels (Supplying levels c) where
  hand before level after done r hlevels hdone h := by
    refine ⟨?_, ?_, List.forall_mem_append.mpr ⟨h.supplied, fun job hjob => ?_⟩⟩
    · rw [context_handedLevel]
      exact h.policy_eq
    · rw [context_handedLevel]
      exact h.bound_iff
    · obtain ⟨u, hu, rfl⟩ := List.mem_map.mp hjob
      refine ⟨before, level, after, hlevels, hu, fun key => ?_⟩
      rw [← hdone, ← h.bound_iff key]
      exact Context.contains_slice
  take done s waiting r h hexec hc := by
    refine ⟨h.policy_eq, fun key => ?_, h.supplied⟩
    obtain ⟨before, level, after, hlevels, hlevel, -⟩ := h.supplied s.handout (by simp)
    have hs : s.unit ∈ levels.flatten := List.mem_flatten.mpr ⟨level, by simp [hlevels], hlevel⟩
    rw [context_merged, Context.contains_after hc, Bool.or_eq_true, h.bound_iff,
      hexact s.unit hs _ _ hexec key, or_assoc]
    simp

/-- A run over levels completes and supplies its units if these return exactly what they declare,
and succeed on what the run hands them. -/
theorem levelByLevel_supplies {levels : List (List WorkUnit)}
    (hexact : ∀ u ∈ levels.flatten, u.ReturnsExactly) {r : Run} (hlog : callsIn r.log = [])
    (hsteps : r.steps = []) (hpolicy : r.context.policy = .firstWins)
    (hsucceeds : ∀ u ∈ levels.flatten, ∀ inputs, (u.id, inputs) ∈ (levelByLevel levels r).calls →
      ∃ outputs, (u.performContained inputs).outcome = .ok outputs) :
    (levelByLevel levels r).Supplies levels r.context := by
  have haccounted : Accounted r.context [] [] r := ⟨by rw [hsteps]; exact .start _, hlog, nofun⟩
  have hsupplying : Supplying levels r.context [] [] r := ⟨hpolicy, by simp, nofun⟩
  have hcourse := levelByLevel_course
    ((keeps_accounted r.context levels).and (keeps_supplying r.context hexact))
    ⟨haccounted, hsupplying⟩
  generalize levelByLevel levels r = o at hcourse hsucceeds ⊢
  cases hcourse with
  | @completed done last hdone hkept =>
      obtain ⟨haccounted, hsupplying⟩ := hkept
      refine ⟨⟨_, rfl⟩, done.map Performed.handout, ?_, ?_, hsupplying.supplied⟩
      · rw [← hdone, List.map_map]
        rfl
      · rw [RunOutcome.calls, last.quietlyExtends_complete.callsIn_eq, haccounted.calls_eq]
  | @stopped before after left u inputs waiting done last later error hlevels hdone hkept hfinish =>
      -- the step whose turn it is was handed its inputs, so it succeeded and stopped nothing
      obtain ⟨haccounted, hsupplying⟩ := hkept
      have hu : u ∈ levels.flatten := by simp [hlevels]
      have hcall : (u.id, inputs) ∈ callsIn later.log := by
        rw [(quietlyExtends_finish hfinish).callsIn_eq, haccounted.calls_eq]
        simp
      obtain ⟨outputs, hok⟩ := hsucceeds u hu inputs hcall
      rw [finish_of_firstWins hsupplying.policy_eq hok] at hfinish
      cases hfinish

end Run

/-! ## What a unit is supplied with, at its place -/

theorem SuppliedAt.contains_iff {levels before after : List (List WorkUnit)} {level : List WorkUnit}
    {c : Context} {u : WorkUnit} {inputs : Inputs} (h : SuppliedAt levels c (u, inputs))
    (hnodup : levels.flatten.Nodup) (hsplit : levels = before ++ level :: after) (hu : u ∈ level)
    (key : String) : inputs.contains key = true ↔ key ∈ u.descriptor.inputs.keys ∧
      (c.contains key = true ∨ ∃ v ∈ before.flatten, v.descriptor.produces key = true) := by
  obtain ⟨before', level', after', hsplit', hu', hkeys⟩ := h
  obtain ⟨rfl, -⟩ := split_of_distinct hnodup hsplit hsplit' hu hu'
  exact hkeys key

/-! ## The two loops of a plan -/

namespace OrderedPlan

variable {p : OrderedPlan} {reg : Registry} {c : Context} {u : WorkUnit} {key : String}

theorem readsPeer_iff (hnodup : (p.levels.map reg.unitsOf).flatten.Nodup)
    {before after : List (List WorkUnit)} {left right : List WorkUnit}
    (hsplit : p.levels.map reg.unitsOf = before ++ (left ++ u :: right) :: after) :
    p.ReadsPeer reg c u key ↔ key ∈ u.descriptor.inputs.keys ∧ c.contains key = false ∧
      (∀ v ∈ before.flatten, v.descriptor.produces key = false) ∧
      ∃ v ∈ left, v.descriptor.produces key = true := by
  constructor
  · rintro ⟨before', left', right', after', hsplit', hread⟩
    obtain ⟨rfl, hlevel⟩ := split_of_distinct hnodup hsplit hsplit' (by simp) (x := u) (by simp)
    obtain ⟨rfl, -⟩ := place_of_distinct
      ((List.nodup_flatten.mp hnodup).1 _ (by simp [hsplit])) hlevel
    exact hread
  · exact fun hread => ⟨before, left, right, after, hsplit, hread⟩

theorem ReadsPeer.mem (h : p.ReadsPeer reg c u key) : u ∈ (p.levels.map reg.unitsOf).flatten := by
  obtain ⟨before, left, right, after, hsplit, -⟩ := h
  simp [hsplit]

/-- The loop over levels has nothing to hand out where a unit reads a peer. -/
theorem ReadsPeer.contains_eq_false (h : p.ReadsPeer reg c u key)
    (hnodup : (p.levels.map reg.unitsOf).flatten.Nodup) {inputs : Inputs}
    (hsupplied : SuppliedAt (p.levels.map reg.unitsOf) c (u, inputs)) :
    inputs.contains key = false := by
  obtain ⟨before, left, right, after, hsplit, -, hunbound, hearlier, -⟩ := h
  rw [← Bool.not_eq_true, hsupplied.contains_iff hnodup hsplit (by simp) key]
  rintro ⟨-, hbound | ⟨v, hv, hproduces⟩⟩
  · rw [hunbound] at hbound
    cases hbound
  · rw [hearlier v hv] at hproduces
    cases hproduces

/-- The planner sees to required inputs, so a unit reads peers only where an input is optional. -/
theorem Schedules.not_required_of_readsPeer {target : String} (hs : p.Schedules reg c target)
    (hlacks : ¬ ∃ key, reg.Lacks c target key) (h : p.ReadsPeer reg c u key) :
    key ∉ u.descriptor.requiredKeys := by
  obtain ⟨before, left, right, after, hsplit, -, hunbound, hearlier, -⟩ := h
  obtain ⟨ids_before, ids_rest, hlevels, rfl, hrest⟩ := List.map_eq_append_iff.mp hsplit
  obtain ⟨ids, ids_after, rfl, hids, rfl⟩ := List.map_eq_cons_iff.mp hrest
  intro hkey
  rcases hs.bound_or_produced hlacks hlevels (hids ▸ by simp) hkey with hbound | ⟨q, hq, hproduces⟩
  · rw [hunbound] at hbound
    cases hbound
  · rw [hearlier q (Registry.unitsOf_flatten ids_before ▸ hq)] at hproduces
    cases hproduces

/-- Where no unit reads a peer, units that return exactly what they declare spare their peers. -/
theorem peersSpared_of_not_readsPeer
    (hexact : ∀ u ∈ (p.levels.map reg.unitsOf).flatten, u.ReturnsExactly)
    (h : ∀ u key, ¬ p.ReadsPeer reg c u key) :
    PeersSpared (fun key => c.contains key = true) (p.levels.map reg.unitsOf) := by
  refine .of_split fun before level after hsplit => pairwise_of_split ?_
  rintro left v right rfl u hu key hkey ⟨inputs, outputs, hexec, hreturned⟩
  have hproduces : u.descriptor.produces key = true := by
    rw [← hexact u (by simp [hsplit, hu]) inputs outputs hexec key, hreturned]
  by_contra hno
  obtain ⟨hunbound, hnone⟩ := not_or.mp hno
  refine h v key ⟨before, left, right, after, hsplit, hkey, by simpa using hunbound, ?_, u, hu,
    hproduces⟩
  intro w hw
  by_contra hw_produces
  refine hnone ⟨w, hw, fun inputs outputs hexec => ?_⟩
  have hw_exact : w.ReturnsExactly := hexact w (by
    rw [hsplit, List.flatten_append]
    exact List.mem_append_left _ hw)
  rw [hw_exact inputs outputs hexec key]
  simpa using hw_produces

end OrderedPlan

/-- Every unit succeeds on what the run hands it. -/
def RunOutcome.AllSucceed (o : RunOutcome) (reg : Registry) : Prop :=
  ∀ id inputs, (id, inputs) ∈ o.calls → ∀ u, reg.get? id = some u →
    ∃ outputs, (u.performContained inputs).outcome = .ok outputs

namespace RunOutcome.Supplies

variable {o : RunOutcome} {levels : List (List WorkUnit)} {c : Context} {p : OrderedPlan}
  {reg : Registry}

theorem map_fst_calls (h : o.Supplies levels c) (hp : p.Runnable reg)
    (hlevels : levels.flatten = reg.unitsOf p.steps) : o.calls.map Prod.fst = p.steps := by
  obtain ⟨handed, hunits, hcalls, -⟩ := h.handed
  rw [hcalls, ← hp.map_id_unitsOf, ← hlevels, ← hunits, List.map_map, List.map_map]
  rfl

theorem exists_call (h : o.Supplies levels c) {u : WorkUnit} (hu : u ∈ levels.flatten) :
    ∃ inputs, (u.id, inputs) ∈ o.calls := by
  obtain ⟨handed, hunits, hcalls, -⟩ := h.handed
  rw [← hunits] at hu
  obtain ⟨job, hjob, rfl⟩ := List.mem_map.mp hu
  exact ⟨job.2, hcalls ▸ List.mem_map_of_mem hjob⟩

theorem suppliedAt (h : o.Supplies levels c) (hlevels : levels.flatten = reg.unitsOf p.steps)
    {u : WorkUnit} (hu : reg.get? u.id = some u) {inputs : Inputs}
    (hcall : (u.id, inputs) ∈ o.calls) :
    SuppliedAt levels c (u, inputs) ∧ u ∈ levels.flatten := by
  obtain ⟨handed, hunits, hcalls, hsupplied⟩ := h.handed
  rw [hcalls] at hcall
  obtain ⟨⟨v, vinputs⟩, hjob, heq⟩ := List.mem_map.mp hcall
  obtain ⟨hid, rfl⟩ := Prod.mk.inj heq
  have hv : v ∈ levels.flatten := by
    rw [← hunits]
    exact List.mem_map_of_mem hjob
  have hget := Registry.get?_of_mem_unitsOf (hlevels ▸ hv)
  rw [hid, hu] at hget
  cases hget
  exact ⟨hsupplied _ hjob, hv⟩

end RunOutcome.Supplies

namespace OrderedPlan.Runnable

variable {p : OrderedPlan} {reg : Registry} {c : Context} {run run' : String}

theorem runPlanParallel_supplies (hp : p.Runnable reg) (hpolicy : c.policy = .firstWins)
    (hexact : ∀ u ∈ reg.unitsOf p.steps, u.ReturnsExactly)
    (hsucceeds : (reg.runPlanParallel run p c).AllSucceed reg) :
    (reg.runPlanParallel run p c).Supplies (p.levels.map reg.unitsOf) c := by
  rw [hp.runPlanParallel_eq] at hsucceeds ⊢
  have hunits : ∀ u ∈ (p.levels.map reg.unitsOf).flatten, u ∈ reg.unitsOf p.steps := by
    rw [hp.flatten_unitsOf]
    exact fun u hu => hu
  exact Run.levelByLevel_supplies (fun u hu => hexact u (hunits u hu)) rfl rfl hpolicy
    fun u hu inputs hcall =>
      hsucceeds u.id inputs hcall u (Registry.get?_of_mem_unitsOf (hunits u hu))

theorem runPlan_supplies (hp : p.Runnable reg) (hpolicy : c.policy = .firstWins)
    (hexact : ∀ u ∈ reg.unitsOf p.steps, u.ReturnsExactly)
    (hsucceeds : (reg.runPlan run p c).AllSucceed reg) :
    (reg.runPlan run p c).Supplies ((reg.unitsOf p.steps).map fun u => [u]) c := by
  rw [hp.runPlan_eq] at hsucceeds ⊢
  have hflat := Run.flatten_singles (reg.unitsOf p.steps)
  rcases Run.sequence_cases (reg.unitsOf p.steps) (Run.begin reg run p c) with
    ⟨u, hu, inputs, crash, hperform, hcall, -⟩ | hs
  · obtain ⟨outputs, hok⟩ := hsucceeds u.id inputs hcall u (Registry.get?_of_mem_unitsOf hu)
    simp [WorkUnit.performContained, hperform] at hok
  · rw [hs] at hsucceeds ⊢
    exact Run.levelByLevel_supplies (fun u hu => hexact u (hflat ▸ hu)) rfl rfl hpolicy
      fun u hu inputs hcall =>
        hsucceeds u.id inputs hcall u (Registry.get?_of_mem_unitsOf (hflat ▸ hu))

/-- Besides what the loop over levels hands a unit, the sequential one hands it what peers return.
-/
theorem contains_iff_or_readsPeer (hp : p.Runnable reg) {sequential parallel : RunOutcome}
    (hseq : sequential.Supplies ((reg.unitsOf p.steps).map fun u => [u]) c)
    (hpar : parallel.Supplies (p.levels.map reg.unitsOf) c) {u : WorkUnit}
    (hu : reg.get? u.id = some u) {inputs inputs' : Inputs}
    (hcall : (u.id, inputs) ∈ sequential.calls) (hcall' : (u.id, inputs') ∈ parallel.calls)
    (key : String) :
    inputs.contains key = true ↔ inputs'.contains key = true ∨ p.ReadsPeer reg c u key := by
  have hflat := Run.flatten_singles (reg.unitsOf p.steps)
  have hnodup := hp.nodup_flatten
  obtain ⟨hsupplied, -⟩ := hseq.suppliedAt hflat hu hcall
  obtain ⟨hsupplied', -⟩ := hpar.suppliedAt hp.flatten_unitsOf hu hcall'
  obtain ⟨before, level, after, hsplit, hlevel, -⟩ := id hsupplied'
  obtain ⟨left, right, rfl⟩ := List.append_of_mem hlevel
  have hsingles : (reg.unitsOf p.steps).map (fun u => [u]) =
      (before.flatten ++ left).map (fun u => [u]) ++
        [u] :: (right ++ after.flatten).map (fun u => [u]) := by
    rw [← hp.flatten_unitsOf, hsplit]
    simp
  have hnodup' : ((reg.unitsOf p.steps).map fun u => [u]).flatten.Nodup :=
    hflat.symm ▸ hp.nodup_unitsOf
  rw [hsupplied.contains_iff hnodup' hsingles (by simp) key,
    Run.flatten_singles,
    hsupplied'.contains_iff hnodup hsplit hlevel key, readsPeer_iff hnodup hsplit]
  have hnone : (∀ v ∈ before.flatten, v.descriptor.produces key = false) ↔
      ¬ ∃ v ∈ before.flatten, v.descriptor.produces key = true := by simp
  have honly : ∀ declared bound earlier peer : Prop, declared ∧ (bound ∨ earlier ∨ peer) ↔
      declared ∧ (bound ∨ earlier) ∨ declared ∧ ¬ bound ∧ ¬ earlier ∧ peer := by tauto
  rw [hnone, ← Bool.not_eq_true]
  simp only [List.mem_append, or_and_right, exists_or]
  exact honly _ _ _ _

end OrderedPlan.Runnable

/-- Under the first-wins policy, both loops hand every step of a plan inputs once, in order,
provided that the units return exactly what they declare and succeed on what they are handed.  They
hand out the same inputs exactly if no unit reads a peer.  Otherwise the sequential loop hands such
a unit, among its optional inputs, what the peer returned, and the loop over levels does not; apart
from that every unit is handed the same keys. -/
theorem loops_differ_by_peer_reads {reg : Registry} {target : String} {c : Context}
    {p : OrderedPlan} {run run' : String} (hplan : reg.buildPlan target c = .ok (.ordered p))
    (hpolicy : c.policy = .firstWins)
    (hunits : ∀ id ∈ p.steps, ∀ u, reg.get? id = some u → u.ReturnsExactly)
    (hsequential : (reg.runPlan run p c).AllSucceed reg)
    (hparallel : (reg.runPlanParallel run' p c).AllSucceed reg) :
    (reg.runPlan run p c).calls.map Prod.fst = p.steps ∧
    (reg.runPlanParallel run' p c).calls.map Prod.fst = p.steps ∧
    (∀ u inputs inputs', reg.get? u.id = some u → (u.id, inputs) ∈ (reg.runPlan run p c).calls →
      (u.id, inputs') ∈ (reg.runPlanParallel run' p c).calls → ∀ key,
        inputs.contains key = true ↔ inputs'.contains key = true ∨ p.ReadsPeer reg c u key) ∧
    (∀ u key, p.ReadsPeer reg c u key → key ∉ u.descriptor.requiredKeys ∧
      ∀ inputs', (u.id, inputs') ∈ (reg.runPlanParallel run' p c).calls →
        inputs'.contains key = false) ∧
    ((reg.runPlan run p c).calls = (reg.runPlanParallel run' p c).calls ↔
      ∀ u key, ¬ p.ReadsPeer reg c u key) := by
  obtain ⟨hs, hlacks⟩ := schedules_of_buildPlan hplan
  have hp := hs.runnable
  have hexact := Registry.forall_mem_unitsOf.mpr hunits
  have hseq := hp.runPlan_supplies hpolicy hexact hsequential
  have hpar := hp.runPlanParallel_supplies hpolicy hexact hparallel
  have hflat := Run.flatten_singles (reg.unitsOf p.steps)
  have hnodup := hp.nodup_flatten
  have hkeys : ∀ u inputs inputs', reg.get? u.id = some u →
      (u.id, inputs) ∈ (reg.runPlan run p c).calls →
      (u.id, inputs') ∈ (reg.runPlanParallel run' p c).calls → ∀ key,
        inputs.contains key = true ↔ inputs'.contains key = true ∨ p.ReadsPeer reg c u key :=
    fun u inputs inputs' hu hcall hcall' =>
      hp.contains_iff_or_readsPeer hseq hpar hu hcall hcall'
  have hregistered : ∀ u key, p.ReadsPeer reg c u key → reg.get? u.id = some u :=
    fun u key hread => Registry.get?_of_mem_unitsOf (hp.flatten_unitsOf ▸ hread.mem)
  have habsent : ∀ u key, p.ReadsPeer reg c u key →
      ∀ inputs', (u.id, inputs') ∈ (reg.runPlanParallel run' p c).calls →
        inputs'.contains key = false :=
    fun u key hread inputs' hcall' => hread.contains_eq_false hnodup
      (hpar.suppliedAt hp.flatten_unitsOf (hregistered u key hread) hcall').1
  refine ⟨hseq.map_fst_calls hp hflat, hpar.map_fst_calls hp hp.flatten_unitsOf, hkeys,
    fun u key hread => ⟨hs.not_required_of_readsPeer hlacks hread, habsent u key hread⟩,
    fun hsame u key hread => ?_, fun hnone => ?_⟩
  · -- the same call would have to hold the key and to lack it
    obtain ⟨inputs, hcall⟩ := hpar.exists_call hread.mem
    have hpresent := (hkeys u inputs inputs (hregistered u key hread) (hsame ▸ hcall) hcall key).mpr
      (.inr hread)
    rw [habsent u key hread inputs hcall] at hpresent
    cases hpresent
  · have hexact_levels : ∀ u ∈ (p.levels.map reg.unitsOf).flatten, u.ReturnsExactly :=
      hp.flatten_unitsOf.symm ▸ hexact
    have hspared := OrderedPlan.peersSpared_of_not_readsPeer hexact_levels hnone
    have hagree := Run.loops_agree (Run.alike_begin reg run' run p c) rfl hspared
    rw [hp.flatten_unitsOf, ← hp.runPlan_eq, ← hp.runPlanParallel_eq] at hagree
    obtain ⟨report, hreport⟩ := hseq.completed
    rcases hagree with ⟨crash, hcrash⟩ | ⟨-, -, hsame⟩
    · rw [hreport] at hcrash
      cases hcrash
    · exact hsame ⟨report, hreport⟩

/-! ## A unit that reads a peer -/

/-- A unit that tells what it was handed under `k`, if anything. -/
def WorkUnit.peeking (id : String) : WorkUnit where
  descriptor :=
    { id, version := "1", name := id
      inputs := Table.ofList [("k", { type := .string })]
      outputs := KeySet.ofList ["m", "seen"] }
  execute := fun inputs =>
    .returned (Table.ofList [("m", .ofString ""), ("seen", (inputs.get? "k").getD (.data .null))])

/-- A target that requires `k` and `m`, the producer of `k`, and a producer of `m` with `k` for an
optional input. -/
def peeking : Registry := ({} : Registry).registerMany
  [.constant "a" [] [("k", "from a")], .peeking "b", .constant "t" ["k", "m"] []]

def peekingPlan : OrderedPlan where
  target := "t"
  steps := ["a", "b", "t"]
  levels := [["a", "b"], ["t"]]

theorem buildPlan_peeking : peeking.buildPlan "t" {} = .ok (.ordered peekingPlan) := by
  cbv

theorem unitsOf_peekingPlan : peeking.unitsOf peekingPlan.steps =
    [.constant "a" [] [("k", "from a")], .peeking "b", .constant "t" ["k", "m"] []] := rfl

theorem peeking_returnsExactly :
    ∀ id ∈ peekingPlan.steps, ∀ u, peeking.get? id = some u → u.ReturnsExactly := by
  rw [← Registry.forall_mem_unitsOf, unitsOf_peekingPlan]
  simp only [List.forall_mem_cons, WorkUnit.constant_returnsExactly, true_and]
  refine ⟨?_, List.forall_mem_nil _⟩
  rintro inputs _ ⟨⟩ key
  show (Table.ofList _).contains key = (KeySet.ofList _).contains key
  rw [Table.contains_ofList, KeySet.contains_ofList]
  rfl

theorem sequence_peeking (run target planHash : String) (steps : UInt64) :
    (Run.sequence (peeking.unitsOf peekingPlan.steps)
      { run, target, planHash, context := {},
        log := [.event (.runStarted run target planHash steps)] }).calls =
      [("a", {}), ("b", Table.ofList [("k", .ofString "from a")]),
        ("t", Table.ofList [("k", .ofString "from a"), ("m", .ofString "")])] := by
  cbv

theorem levelByLevel_peeking (run target planHash : String) (steps : UInt64) :
    (Run.levelByLevel (peekingPlan.levels.map (Registry.levelUnits
      (peeking.unitsOf peekingPlan.steps)))
      { run, target, planHash, context := {},
        log := [.event (.runStarted run target planHash steps)] }).calls =
      [("a", {}), ("b", {}),
        ("t", Table.ofList [("k", .ofString "from a"), ("m", .ofString "")])] := by
  cbv

theorem peeking_succeeds {o : RunOutcome} {peeked : Inputs}
    (hpeeked : peeked = {} ∨ peeked = Table.ofList [("k", .ofString "from a")])
    (hcalls : o.calls = [("a", {}), ("b", peeked),
      ("t", Table.ofList [("k", .ofString "from a"), ("m", .ofString "")])]) :
    o.AllSucceed peeking := by
  intro id inputs hcall u hu
  rw [hcalls] at hcall
  simp only [List.mem_cons, Prod.mk.injEq, List.not_mem_nil, or_false] at hcall
  rcases hcall with ⟨rfl, rfl⟩ | ⟨rfl, rfl⟩ | ⟨rfl, rfl⟩
  · have ha : peeking.get? "a" = some (.constant "a" [] [("k", "from a")]) := rfl
    cases ha.symm.trans hu
    exact ⟨_, rfl⟩
  · have hb : peeking.get? "b" = some (.peeking "b") := rfl
    cases hb.symm.trans hu
    rcases hpeeked with rfl | rfl
    · exact ⟨_, rfl⟩
    · exact ⟨_, rfl⟩
  · have ht : peeking.get? "t" = some (.constant "t" ["k", "m"] []) := rfl
    cases ht.symm.trans hu
    exact ⟨_, rfl⟩

theorem runPlan_peeking : (peeking.runPlan "run" peekingPlan {}).calls =
    [("a", {}), ("b", Table.ofList [("k", .ofString "from a")]),
      ("t", Table.ofList [("k", .ofString "from a"), ("m", .ofString "")])] :=
  sequence_peeking _ _ _ _

theorem runPlanParallel_peeking : (peeking.runPlanParallel "run" peekingPlan {}).calls =
    [("a", {}), ("b", {}),
      ("t", Table.ofList [("k", .ofString "from a"), ("m", .ofString "")])] :=
  levelByLevel_peeking _ _ _ _

theorem readsPeer_peeking : peekingPlan.ReadsPeer peeking {} (.peeking "b") "k" :=
  ⟨[], [.constant "a" [] [("k", "from a")]], [], [[.constant "t" ["k", "m"] []]], rfl,
    List.mem_singleton.mpr rfl, rfl, nofun, _, List.mem_singleton.mpr rfl, rfl⟩

theorem loops_differ_by_peer_reads_peeking :
    "k" ∉ (WorkUnit.peeking "b").descriptor.requiredKeys ∧
    (∀ inputs, ("b", inputs) ∈ (peeking.runPlanParallel "run" peekingPlan {}).calls →
      inputs.contains "k" = false) ∧
    (peeking.runPlan "run" peekingPlan {}).calls ≠
      (peeking.runPlanParallel "run" peekingPlan {}).calls := by
  obtain ⟨-, -, -, hreads, hsame⟩ := loops_differ_by_peer_reads buildPlan_peeking rfl
    peeking_returnsExactly (peeking_succeeds (.inr rfl) runPlan_peeking)
    (peeking_succeeds (.inl rfl) runPlanParallel_peeking)
  obtain ⟨hoptional, habsent⟩ := hreads _ _ readsPeer_peeking
  exact ⟨hoptional, habsent, fun hcalls => hsame.mp hcalls _ _ readsPeer_peeking⟩

/-- Units of one level need not be independent of each other: `a` and `b` are planned into one
level, and what `b` is handed depends on the loop. -/
theorem peers_not_independent :
    ({} : Context).policy = .firstWins ∧
    peeking.buildPlan "t" {} = .ok (.ordered peekingPlan) ∧
    peekingPlan.levels = [["a", "b"], ["t"]] ∧
    (∀ id ∈ peekingPlan.steps, ∀ u, peeking.get? id = some u →
      u.ReturnsExactly ∧ ∀ inputs, ∃ outputs, u.execute inputs = .returned outputs) ∧
    (peeking.runPlan "run" peekingPlan {}).AllSucceed peeking ∧
    (peeking.runPlanParallel "run" peekingPlan {}).AllSucceed peeking ∧
    ∃ inputs inputs', ("b", inputs) ∈ (peeking.runPlan "run" peekingPlan {}).calls ∧
      ("b", inputs') ∈ (peeking.runPlanParallel "run" peekingPlan {}).calls ∧
      inputs.contains "k" = true ∧ inputs'.contains "k" = false := by
  refine ⟨rfl, buildPlan_peeking, rfl, fun id hid u hu => ⟨peeking_returnsExactly id hid u hu, ?_⟩,
    peeking_succeeds (.inr rfl) runPlan_peeking,
    peeking_succeeds (.inl rfl) runPlanParallel_peeking,
    Table.ofList [("k", .ofString "from a")], {}, ?_, ?_, rfl, rfl⟩
  · have hmem : u ∈ peeking.unitsOf peekingPlan.steps := Registry.mem_unitsOf.mpr ⟨id, hid, hu⟩
    simp only [unitsOf_peekingPlan, List.mem_cons, List.not_mem_nil, or_false] at hmem
    rcases hmem with rfl | rfl | rfl <;> exact fun inputs => ⟨_, rfl⟩
  · rw [runPlan_peeking]
    simp
  · rw [runPlanParallel_peeking]
    simp

end Workplan
