/-
# `Workplan.Proofs.Plan.Growth` — planning when the registry or the context grows

Two things may grow between one planning and the next.  Units registered in addition come after
those that were there (`Registry.Extends`), so none of them becomes the first producer of a key
that had one, and where nothing was lacking and nothing dangled the target needs exactly what it
needed before.  Keys bound in addition cut the search short: a unit awaits fewer others, so the
target needs less, lacks less, and no cycle comes up that was not there.

Both arguments compare two closures with `Registry.Needed.mono`.  In the first one the steps agree
in both directions and the plan is the same; in the second one only the steps in the larger context
are known to be steps in the smaller one, and the levels of the plan may well move.
-/
import Workplan.Proofs.Plan.Outcome

namespace Workplan

open ProviderGraph

variable {r r' : Registry} {c c' : Context} {target : String}

/-! ## More units -/

theorem Table.putEntry_append {α : Type} {key : String} {value : α} :
    ∀ {front back : List (String × α)}, key ∉ front.map Prod.fst →
      putEntry key value (front ++ back) = front ++ putEntry key value back
  | [], _, _ => rfl
  | (k, v) :: front, back, h => by
      rw [List.map_cons, List.mem_cons, not_or] at h
      obtain ⟨hk, hfront⟩ := h
      simp only [List.cons_append, putEntry, if_neg (Ne.symm hk), putEntry_append hfront]

namespace Registry

/-- The units of the one registry, in their order, followed by others. -/
def Extends (r r' : Registry) : Prop :=
  ∃ more, r'.units.entries = r.units.entries ++ more

theorem Extends.refl (r : Registry) : r.Extends r := ⟨[], (List.append_nil _).symm⟩

/-- A unit that is not in the front registry lands behind it, whether it is new altogether or
replaces one of the others. -/
theorem Extends.register (h : r.Extends r') {u : WorkUnit} (hnew : r.contains u.id = false) :
    r.Extends (r'.register u) := by
  obtain ⟨more, hmore⟩ := h
  cases hblank : Text.allBlank u.id with
  | true => exact ⟨more, by simp [Registry.register, hblank, hmore]⟩
  | false =>
      have hfront : u.id ∉ r.units.entries.map Prod.fst := by
        intro hmem
        rw [contains_iff_mem_ids.mpr hmem] at hnew
        cases hnew
      refine ⟨Table.putEntry u.id u more, ?_⟩
      simp [Registry.register, hblank, Table.insert, hmore, Table.putEntry_append hfront]

theorem Extends.registerMany {us : List WorkUnit} (hnew : ∀ u ∈ us, r.contains u.id = false) :
    r.Extends (r.registerMany us) := by
  suffices hfold : ∀ r', r.Extends r' → r.Extends (us.foldl Registry.register r') from
    hfold r (.refl r)
  induction us with
  | nil => exact fun _ h => h
  | cons u us ih =>
      obtain ⟨hu, hus⟩ := List.forall_mem_cons.mp hnew
      exact fun r' h => ih hus (r'.register u) (h.register hu)

theorem Extends.get? (h : r.Extends r') {id : String} {u : WorkUnit} (hu : r.get? id = some u) :
    r'.get? id = some u := by
  obtain ⟨more, hmore⟩ := h
  refine Table.get?_eq_some_iff.mpr ?_
  rw [hmore]
  exact List.mem_append_left _ (Table.get?_eq_some_iff.mp hu)

theorem Extends.contains (h : r.Extends r') {id : String} (hid : r.contains id = true) :
    r'.contains id = true := by
  obtain ⟨u, hu⟩ := contains_eq_true_iff.mp hid
  exact contains_of_get? (h.get? hu)

/-- A later unit never becomes the first producer of a key that has one. -/
theorem Extends.firstProducer (h : r.Extends r') {key p : String} (hp : r.FirstProducer key p) :
    r'.FirstProducer key p := by
  obtain ⟨more, hmore⟩ := h
  obtain ⟨before, u, after, hentries, hu, hbefore⟩ := hp
  exact ⟨before, u, after ++ more, by simp [hmore, hentries], hu, hbefore⟩

theorem Extends.awaits (h : r.Extends r') {id p : String} (ha : r.Awaits c id p) :
    r'.Awaits c id p := by
  cases ha with
  | producer hu hkey hbound hp => exact .producer (h.get? hu) hkey hbound (h.firstProducer hp)
  | request hu hq hactive => exact .request (h.get? hu) hq hactive

/-! What was needed and awaited is so still; the converse is where nothing may be lacking and
nothing may dangle, since a later unit would step in. -/

section Complete

variable (h : r.Extends r') (hlacks : ¬ ∃ key, r.Lacks c target key)
  (hdangles : ∀ id, ¬ r.Dangles c target id)

include h hlacks in
theorem Extends.awaits_iff {id : String} (hid : r.Needed c target id) (p : String) :
    r.Awaits c id p ↔ r'.Awaits c id p := by
  refine ⟨h.awaits, fun ha => ?_⟩
  obtain ⟨u, hu⟩ := hid.get?
  have hu' := h.get? hu
  cases ha with
  | @producer v key _ hv hkey hbound hp =>
      obtain rfl : u = v := Option.some.inj (hu'.symm.trans hv)
      rcases r.firstProducer_or_unproduced key with ⟨q, hq⟩ | hnone
      · obtain rfl : p = q := hp.unique (h.firstProducer hq)
        exact .producer hu hkey hbound hq
      · exact absurd ⟨key, id, u, hid, hu, hkey, hbound, hnone⟩ hlacks
  | @request v q hv hq hactive =>
      obtain rfl : u = v := Option.some.inj (hu'.symm.trans hv)
      exact .request hu hq hactive

include h hlacks hdangles

theorem Extends.needed_iff (id : String) : r.Needed c target id ↔ r'.Needed c target id := by
  constructor
  · exact fun hid => hid.mono h.contains fun _ _ _ _ ha hp => ⟨h.awaits ha, h.contains hp⟩
  · refine fun hid => hid.mono (fun _ => target_registered hdangles) fun id _ hold p ha _ => ?_
    have ha' := (h.awaits_iff hlacks hold p).mpr ha
    exact ⟨ha', ha'.registered hdangles hold⟩

theorem Extends.not_dangles (id : String) : ¬ r'.Dangles c target id := by
  intro hid
  cases hid with
  | target ht =>
      rw [h.contains (target_registered hdangles)] at ht
      cases ht
  | request hneeded hu hq hactive hp =>
      have hold := (h.needed_iff hlacks hdangles _).mpr hneeded
      have ha := (h.awaits_iff hlacks hold _).mpr (.request hu hq hactive)
      rw [h.contains (ha.registered hdangles hold)] at hp
      cases hp

theorem Extends.not_lacks (key : String) : ¬ r'.Lacks c target key := by
  rintro ⟨id, u, hneeded, hu, hkey, hbound, hnone⟩
  have hold := (h.needed_iff hlacks hdangles id).mpr hneeded
  obtain ⟨v, hv⟩ := hold.get?
  obtain rfl : v = u := Option.some.inj ((h.get? hv).symm.trans hu)
  refine hlacks ⟨key, id, v, hold, hv, hkey, hbound, fun e he => hnone e ?_⟩
  obtain ⟨more, hmore⟩ := h
  rw [hmore]
  exact List.mem_append_left _ he

/-- Where nothing was lacking and nothing dangled, further units change nothing. -/
theorem Extends.buildPlan_eq : r.buildPlan target c = r'.buildPlan target c :=
  buildPlan_congr (h.needed_iff hlacks hdangles) (fun _ hid => h.awaits_iff hlacks hid)
    (fun key => ⟨fun hkey => absurd ⟨key, hkey⟩ hlacks,
      fun hkey => absurd hkey (h.not_lacks hlacks hdangles key)⟩)
    hdangles (h.not_dangles hlacks hdangles)

end Complete

end Registry

/-- Registering further units, under identifiers that are not registered yet or that are blank,
leaves a plan as it is, whatever these units produce, require or request, and so too the report of
a cycle.  Only a plan that failed for want of something may be different afterwards. -/
theorem buildPlan_registerMany {us : List WorkUnit} (hnew : ∀ u ∈ us, r.contains u.id = false) :
    (∀ p, r.buildPlan target c = .ok (.ordered p) →
      (r.registerMany us).buildPlan target c = .ok (.ordered p)) ∧
    (∀ members, r.buildPlan target c = .ok (.infeasible (.cyclic members)) →
      (r.registerMany us).buildPlan target c = .ok (.infeasible (.cyclic members))) := by
  have hextends := Registry.Extends.registerMany hnew
  have hsame : (¬ ∃ id, r.Dangles c target id) → (¬ ∃ key, r.Lacks c target key) →
      r.buildPlan target c = (r.registerMany us).buildPlan target c :=
    fun hdangles hlacks => hextends.buildPlan_eq hlacks fun id hid => hdangles ⟨id, hid⟩
  have hout := planOutcome_buildPlan r target c
  constructor
  · intro p hp
    rw [hp] at hout
    cases hout with
    | ordered hdangles hlacks _ _ => rw [← hsame hdangles hlacks, hp]
  · intro members hp
    rw [hp] at hout
    cases hout with
    | cyclic hdangles hlacks _ => rw [← hsame hdangles hlacks, hp]

/-- Further producers of both keys, one of them registered twice and one of them waiting for the
consumer, and a unit without an identifier. -/
def lateProducers : List WorkUnit :=
  [.constant "b" ["missing"] [("k", "from b"), ("m", "from b")],
    .constant " " [] [("k", "from nobody")],
    .constant "b" [] [("k", "from b")],
    { descriptor := { id := "y", version := "1", name := "y", outputs := .ofList ["m"],
                      requests := [⟨"u", none⟩, ⟨"nobody", none⟩] }
      execute := fun _ => .returned {} }]

theorem lateProducers_new : ∀ u ∈ lateProducers, twoProducers.contains u.id = false := by
  decide

theorem buildPlan_twoProducers_late :
    (twoProducers.registerMany lateProducers).buildPlan "u" {} =
      .ok (.ordered twoProducersPlan) :=
  (buildPlan_registerMany lateProducers_new).1 twoProducersPlan buildPlan_twoProducers

/-! ## More bound keys -/

namespace Registry

/-- All that the larger context binds may change of planning: more keys are bound, and the
conditions of the units needed before hold as they did. -/
structure BindsMore (r : Registry) (target : String) (c c' : Context) : Prop where
  bound : ∀ key, c.contains key = true → c'.contains key = true
  conditions : ∀ id, r.Needed c target id → ∀ u, r.get? id = some u →
    ∀ q ∈ u.descriptor.requests, q.active c = q.active c'

namespace BindsMore

variable (h : r.BindsMore target c c')

include h

theorem unbound {key : String} (hkey : c'.contains key = false) : c.contains key = false := by
  cases hc : c.contains key with
  | false => rfl
  | true => rw [h.bound key hc] at hkey; exact hkey

theorem awaits {id p : String} (hid : r.Needed c target id) (ha : r.Awaits c' id p) :
    r.Awaits c id p := by
  cases ha with
  | producer hu hkey hbound hp => exact .producer hu hkey (h.unbound hbound) hp
  | request hu hq hactive =>
      exact .request hu hq (by rw [h.conditions id hid _ hu _ hq, hactive])

theorem needed {id : String} (hid : r.Needed c' target id) : r.Needed c target id :=
  hid.mono (fun hreg => hreg) fun _ _ hold _ ha hp => ⟨h.awaits hold ha, hp⟩

theorem dangles {id : String} (hid : r.Dangles c' target id) : r.Dangles c target id := by
  cases hid with
  | target hreg => exact .target hreg
  | request hneeded hu hq hactive hp =>
      have hold := h.needed hneeded
      exact .request hold hu hq (by rw [h.conditions _ hold _ hu _ hq, hactive]) hp

theorem lacks {key : String} (hkey : r.Lacks c' target key) : r.Lacks c target key := by
  obtain ⟨id, u, hneeded, hu, hreq, hbound, hnone⟩ := hkey
  exact ⟨id, u, h.needed hneeded, hu, hreq, h.unbound hbound, hnone⟩

theorem circular (hcycle : r.Circular c' target) : r.Circular c target := by
  obtain ⟨id, hid⟩ := hcycle
  refine ⟨id, Relation.TransGen.mono ?_ id id hid⟩
  rintro a b ⟨ha, hb, hwait⟩
  have hold := h.needed ha
  exact ⟨hold, h.needed hb, h.awaits hold hwait⟩

end BindsMore

end Registry

/-- Binding further keys never makes planning worse, as long as the conditions of the units in the
graph hold as they did: planning still succeeds, with no further unit and no further missing key,
and where there was a plan there is one, all of whose steps were steps before. -/
theorem buildPlan_of_more_bound {g : ProviderGraph} (hg : r.buildGraph target c = .ok g)
    (hbound : ∀ key, c.contains key = true → c'.contains key = true)
    (hconditions : ∀ id ∈ g.units, ∀ u, r.get? id = some u → ∀ q ∈ u.descriptor.requests,
      ∀ key, q.condition = some key → c.truthy key = c'.truthy key) :
    ∃ g', r.buildGraph target c' = .ok g' ∧ r.buildPlan target c' = .ok g'.toPlan ∧
      g'.units ⊆ g.units ∧ g'.missingKeys ⊆ g.missingKeys ∧
      ∀ p, r.buildPlan target c = .ok (.ordered p) →
        ∃ p', r.buildPlan target c' = .ok (.ordered p') ∧ p'.steps ⊆ p.steps := by
  obtain ⟨hres, hdangles⟩ := Registry.resolves_of_buildGraph hg
  have hmore : r.BindsMore target c c' :=
    { bound := hbound
      conditions := by
        intro id hid u hu q hq
        cases hcond : q.condition with
        | none => simp only [Request.active, hcond]
        | some key =>
            simp only [Request.active, hcond,
              hconditions id ((hres.units_iff id).mpr hid) u hu q hq key hcond] }
  rcases Registry.buildGraph_cases r target c' with ⟨g', hok', hres', hdangles'⟩ | ⟨id, -, hid⟩
  swap
  · exact absurd (hmore.dangles hid) (hdangles id)
  refine ⟨g', hok', by rw [Registry.buildPlan, hok']; rfl, fun id hid => ?_, fun key hkey => ?_,
    fun p hp => ?_⟩
  · exact (hres.units_iff id).mpr (hmore.needed ((hres'.units_iff id).mp hid))
  · exact hres.mem_missingKeys_iff_lacks.mpr
      (hmore.lacks (hres'.mem_missingKeys_iff_lacks.mp hkey))
  · -- nothing was lacking and nothing circular, so neither is it now
    have hout := planOutcome_buildPlan r target c
    rw [hp] at hout
    cases hout with
    | ordered _ hlacks hcycle hs =>
        have hplan : ∃ p', r.buildPlan target c' = .ok (.ordered p') := by
          refine (buildPlan_outcome r target c').2.2.2.2.1.mpr ⟨?_, ?_, ?_⟩
          · rintro ⟨id, hid⟩
            exact hdangles' id hid
          · rintro ⟨key, hkey⟩
            exact hlacks ⟨key, hmore.lacks hkey⟩
          · exact fun hcycle' => hcycle (hmore.circular hcycle')
        obtain ⟨p', hp'⟩ := hplan
        refine ⟨p', hp', fun id hid => ?_⟩
        have hneeded := ((schedules_of_buildPlan hp').1.mem_iff id).mp hid
        exact (hs.mem_iff id).mpr (hmore.needed hneeded)

/-- A consumer of `k` that requests the unit `w` while `flag` is set, and a producer of `k`. -/
def flagged : Registry := ({} : Registry).registerMany
  [.constant "z" [] [("k", "from z")], .constant "w" [] [],
    { descriptor := { (WorkUnit.constant "u" ["k"] []).descriptor with
                      requests := [⟨"w", some "flag"⟩] }
      execute := fun _ => .returned {} }]

/-- The flag is set. -/
def flagSet : Context := Context.insert {} "flag" (.ofString "set")

/-- The flag is set, and `k` is given, so that its producer is not needed. -/
def flagSetAndGiven : Context := flagSet.insert "k" (.ofString "given")

/-- The provider graph of the consumer while the flag is set. -/
def flaggedGraph : ProviderGraph where
  target := "u"
  nodes := [.unit "u", .unit "z", .unit "w"]
  edges := [⟨.unit "z", .unit "u", .providesKey "k"⟩, ⟨.unit "w", .unit "u", .requested⟩]

theorem buildGraph_flagged : flagged.buildGraph "u" flagSet = .ok flaggedGraph := rfl

theorem conditions_flagged :
    ∀ e ∈ flagged.units.entries, ∀ q ∈ e.2.descriptor.requests, ∀ key ∈ q.condition,
      flagSet.truthy key = flagSetAndGiven.truthy key := by
  decide

theorem buildPlan_flagged_given :
    ∃ g, flagged.buildGraph "u" flagSetAndGiven = .ok g ∧
      flagged.buildPlan "u" flagSetAndGiven = .ok g.toPlan ∧
      g.units ⊆ flaggedGraph.units ∧ g.missingKeys ⊆ flaggedGraph.missingKeys ∧
      ∀ p, flagged.buildPlan "u" flagSet = .ok (.ordered p) →
        ∃ p', flagged.buildPlan "u" flagSetAndGiven = .ok (.ordered p') ∧ p'.steps ⊆ p.steps := by
  refine buildPlan_of_more_bound buildGraph_flagged (fun key hkey => ?_)
    fun id _ u hu q hq key hkey => ?_
  · rw [flagSetAndGiven, Context.insert, Context.contains, Table.contains_insert]
    exact Bool.or_eq_true_iff.mpr (Or.inr hkey)
  · exact conditions_flagged (id, u) (Table.get?_eq_some_iff.mp hu) q hq key hkey

end Workplan
