/-
# `Workplan.Proofs.Contract` — what validation reports, and which verifiers it asks

Validation looks for three kinds of violation, one after the other: a required input that is
absent, a declared input of the wrong type, a verifier that does not accept.  `Judged` says which
result belongs to a contract and some inputs, and which verifiers have been asked by then.  It has
one clause for each kind of result, and each clause names the first violation of its kind and rules
out the kinds that go before.

Results can be read off `validateInputs`; that a verifier was not asked cannot.  So the same
validation is written once more as a program that gets each verdict from outside (`validateWith`).
With verdicts that are there at once it is `violation?`, and with verdicts that are written down
as they are given it tells who was asked (`asked`).  Its two nested loops, along the properties and
along the verifiers of one property, are one walk along the `inquiries`, and everything that is
proved about the verifiers is proved about that walk.
-/
import Mathlib.Data.List.Basic
import Workplan.Contract
import Workplan.Proofs.Table

namespace Workplan

/-- The reason that a verdict gives for not accepting. -/
def Verdict.reason? : Verdict → Option String
  | .accepted | .refused => none
  | .failed reason => some reason
  | .crashed crash => some crash.note

/-- A verifier of an input that is present, and the value that it is asked about. -/
structure Inquiry where
  property : String
  verifier : Verifier
  value : Value

namespace Inquiry

/-- What the verifier answers; it may look at all inputs. -/
def verdict (q : Inquiry) (inputs : Inputs) : Verdict :=
  q.verifier.judge q.property q.value inputs

/-- The violation that an answer amounts to. -/
def violation? (q : Inquiry) (v : Verdict) : Option Violation :=
  Descriptor.verdictViolation? q.property q.verifier.name v

theorem violation?_accepted (q : Inquiry) : q.violation? .accepted = none := rfl

theorem violation?_of_ne {q : Inquiry} {v : Verdict} (h : v ≠ .accepted) :
    q.violation? v = some (.verificationFailed q.property q.verifier.name v.reason?) := by
  cases v with
  | accepted => exact absurd rfl h
  | refused => rfl
  | failed reason => rfl
  | crashed crash => rfl

end Inquiry

namespace Descriptor

/-- The verifiers of one declared input, if the input is present. -/
def inquiriesOf (inputs : Inputs) (key : String) (p : Property) : List Inquiry :=
  match inputs.get? key with
  | none => []
  | some value => p.verifiers.map fun v => ⟨key, v, value⟩

/-- The verifiers of all declared inputs that are present, in the order of declaration. -/
def inquiries (d : Descriptor) (inputs : Inputs) : List Inquiry :=
  d.inputs.entries.flatMap fun e => inquiriesOf inputs e.1 e.2

theorem mem_inquiries {d : Descriptor} {inputs : Inputs} {q : Inquiry} :
    q ∈ d.inquiries inputs ↔ ∃ p, d.inputs.get? q.property = some p ∧
      inputs.get? q.property = some q.value ∧ q.verifier ∈ p.verifiers := by
  simp only [inquiries, List.mem_flatMap]
  constructor
  · rintro ⟨⟨key, p⟩, he, hq⟩
    unfold inquiriesOf at hq
    split at hq
    · cases hq
    · rename_i value hvalue
      obtain ⟨v, hv, rfl⟩ := List.mem_map.mp hq
      exact ⟨p, Table.get?_eq_some_iff.mpr he, hvalue, hv⟩
  · rintro ⟨p, hp, hvalue, hv⟩
    refine ⟨(q.property, p), Table.get?_eq_some_iff.mp hp, ?_⟩
    simp only [inquiriesOf, hvalue]
    exact List.mem_map_of_mem hv

/-! ## Validation as a program -/

section Program

variable {m : Type → Type} [Monad m] (ask : Inquiry → m Verdict)

/-- Asks about one declared input, up to the first verifier that does not accept. -/
def verifyWith (inputs : Inputs) (key : String) (p : Property) : m (Option Violation) :=
  match inputs.get? key with
  | none => pure none
  | some value => p.verifiers.findSomeM? fun v => do
      let verdict ← ask ⟨key, v, value⟩
      return verdictViolation? key v.name verdict

/-- Validation, with every verdict asked for. -/
def validateWith (d : Descriptor) (inputs : Inputs) : m (Option Violation) :=
  match d.missingInput? inputs with
  | some violation => pure (some violation)
  | none =>
    match d.inputs.entries.findSome? fun e => typeViolation? inputs e.1 e.2 with
    | some violation => pure (some violation)
    | none => d.inputs.entries.findSomeM? fun e => verifyWith ask inputs e.1 e.2

/-- Asks one verifier after the other, up to the first that does not accept. -/
def consult : List Inquiry → m (Option Violation)
  | [] => pure none
  | q :: rest => do
    match q.violation? (← ask q) with
    | some violation => pure (some violation)
    | none => consult rest

variable [LawfulMonad m]

theorem consult_append (xs ys : List Inquiry) :
    consult ask (xs ++ ys) = (do
      match ← consult ask xs with
      | some violation => pure (some violation)
      | none => consult ask ys) := by
  induction xs with
  | nil => simp only [consult, List.nil_append, pure_bind]
  | cons q rest ih =>
      simp only [consult, List.cons_append, bind_assoc]
      refine bind_congr fun verdict => ?_
      cases q.violation? verdict with
      | some violation => simp only [pure_bind]
      | none => exact ih

theorem verifyWith_eq (inputs : Inputs) (key : String) (p : Property) :
    verifyWith ask inputs key p = consult ask (inquiriesOf inputs key p) := by
  unfold verifyWith inquiriesOf
  cases inputs.get? key with
  | none => rfl
  | some value =>
      show p.verifiers.findSomeM? _ = consult ask (p.verifiers.map _)
      induction p.verifiers with
      | nil => rfl
      | cons v rest ih =>
          simp only [List.findSomeM?, List.map_cons, consult, bind_assoc, pure_bind]
          refine bind_congr fun verdict => ?_
          simp only [Inquiry.violation?]
          cases verdictViolation? key v.name verdict with
          | some violation => rfl
          | none => exact ih

/-- The two loops are one walk. -/
theorem findSomeM?_verifyWith (d : Descriptor) (inputs : Inputs) :
    (d.inputs.entries.findSomeM? fun e => verifyWith ask inputs e.1 e.2) =
      consult ask (d.inquiries inputs) := by
  unfold inquiries
  induction d.inputs.entries with
  | nil => rfl
  | cons e rest ih =>
      rw [List.flatMap_cons, consult_append, List.findSomeM?, verifyWith_eq]
      exact bind_congr fun found => by cases found <;> simp [ih]

end Program

/-! ## Written down while it runs -/

section Recorded

variable {σ : Type} {d : Descriptor} {inputs : Inputs}

/-- Notes that a verifier is asked, and gives its verdict. -/
def recorded (note : σ → Inquiry → σ) (inputs : Inputs) (q : Inquiry) : StateM σ Verdict := do
  modify (note · q)
  return q.verdict inputs

/-- The verifiers that validation asks, in order. -/
def asked (d : Descriptor) (inputs : Inputs) : List Inquiry :=
  ((validateWith (recorded (fun log q => log ++ [q]) inputs) d inputs).run []).2

/-- The front of a list of inquiries, up to the first that is not accepted. -/
def upToRefusal (inputs : Inputs) : List Inquiry → List Inquiry
  | [] => []
  | q :: rest => if q.verdict inputs = .accepted then q :: upToRefusal inputs rest else [q]

theorem run_consult (note : σ → Inquiry → σ) (xs : List Inquiry) (s : σ) :
    (consult (recorded note inputs) xs).run s =
      (xs.findSome? fun q => q.violation? (q.verdict inputs),
        (upToRefusal inputs xs).foldl note s) := by
  induction xs generalizing s with
  | nil => rfl
  | cons q rest ih =>
      have hstep : (consult (recorded note inputs) (q :: rest)).run s =
          (match q.violation? (q.verdict inputs) with
            | some violation => pure (some violation)
            | none => consult (recorded note inputs) rest : StateM σ (Option Violation)).run
              (note s q) := rfl
      rw [hstep, List.findSome?_cons, upToRefusal]
      by_cases hq : q.verdict inputs = .accepted
      · rw [hq, Inquiry.violation?_accepted, if_pos rfl]
        exact ih (note s q)
      · rw [Inquiry.violation?_of_ne hq, if_neg hq]
        rfl

theorem verifierViolation?_eq (key : String) (p : Property) :
    verifierViolation? inputs key p =
      (inquiriesOf inputs key p).findSome? fun q => q.violation? (q.verdict inputs) := by
  unfold verifierViolation? inquiriesOf
  cases inputs.get? key with
  | none => rfl
  | some value =>
      simp only [List.findSome?_map]
      rfl

theorem findSome?_verifierViolation? :
    (d.inputs.entries.findSome? fun e => verifierViolation? inputs e.1 e.2) =
      (d.inquiries inputs).findSome? fun q => q.violation? (q.verdict inputs) := by
  unfold inquiries
  induction d.inputs.entries with
  | nil => rfl
  | cons e rest ih =>
      rw [List.flatMap_cons, List.findSome?_append, List.findSome?_cons, ih, verifierViolation?_eq]
      cases (inquiriesOf inputs e.1 e.2).findSome? fun q => q.violation? (q.verdict inputs) with
      | none => rfl
      | some violation => rfl

theorem foldl_append_singleton (xs log : List Inquiry) :
    xs.foldl (fun log q => log ++ [q]) log = log ++ xs := by
  induction xs generalizing log with
  | nil => exact (List.append_nil log).symm
  | cons q rest ih => rw [List.foldl_cons, ih, List.append_assoc, List.singleton_append]

/-! Nobody is asked before the inputs are known to be present and of their types. -/

theorem asked_of_missing {v : Violation} (h : d.missingInput? inputs = some v) :
    d.asked inputs = [] := by
  simp only [asked, validateWith, h]
  rfl

theorem asked_of_mistyped {v : Violation} (h : d.missingInput? inputs = none)
    (ht : (d.inputs.entries.findSome? fun e => typeViolation? inputs e.1 e.2) = some v) :
    d.asked inputs = [] := by
  simp only [asked, validateWith, h, ht]
  rfl

theorem asked_of_typed (h : d.missingInput? inputs = none)
    (ht : (d.inputs.entries.findSome? fun e => typeViolation? inputs e.1 e.2) = none) :
    d.asked inputs = upToRefusal inputs (d.inquiries inputs) := by
  simp only [asked, validateWith, h, ht, findSomeM?_verifyWith, run_consult]
  exact foldl_append_singleton _ []

/-- Whatever is noted on the way, validation reports the same, and notes those that it asks. -/
theorem run_validateWith (note : σ → Inquiry → σ) (d : Descriptor) (inputs : Inputs) (s : σ) :
    (validateWith (recorded note inputs) d inputs).run s =
      (d.violation? inputs, (d.asked inputs).foldl note s) := by
  cases hm : d.missingInput? inputs with
  | some v =>
      rw [asked_of_missing hm]
      simp only [validateWith, violation?, hm, Option.some_or]
      rfl
  | none =>
      cases ht : d.inputs.entries.findSome? fun e => typeViolation? inputs e.1 e.2 with
      | some v =>
          rw [asked_of_mistyped hm ht]
          simp only [validateWith, violation?, hm, ht, Option.none_or, Option.some_or]
          rfl
      | none =>
          rw [asked_of_typed hm ht]
          simp only [validateWith, violation?, hm, ht, Option.none_or, findSomeM?_verifyWith,
            run_consult, findSome?_verifierViolation?]

end Recorded

/-! ## The first violation -/

section Judged

variable {d : Descriptor} {inputs : Inputs}

/-- Every required input is there. -/
def Complete (d : Descriptor) (inputs : Inputs) : Prop :=
  ∀ key ∈ d.requiredKeys, inputs.contains key = true

/-- A declared input has its type, if it is there. -/
def Typed (inputs : Inputs) (e : String × Property) : Prop :=
  ∀ value, inputs.get? e.1 = some value → value.hasType e.2.type = true

/-- The result of validation, and the verifiers that were asked by then. -/
inductive Judged (d : Descriptor) (inputs : Inputs) :
    Except Violation Unit → List Inquiry → Prop
  | missing {before after : List String} {key : String} :
      d.requiredKeys = before ++ key :: after → (∀ k ∈ before, inputs.contains k = true) →
      inputs.contains key = false →
      Judged d inputs (.error (.missingRequiredInput key)) []
  | mistyped {before after : List (String × Property)} {key : String} {p : Property}
      {value : Value} :
      d.Complete inputs → d.inputs.entries = before ++ (key, p) :: after →
      (∀ e ∈ before, Typed inputs e) → inputs.get? key = some value →
      value.hasType p.type = false →
      Judged d inputs (.error (.typeMismatch key p.type value.typeName)) []
  | rejected {before after : List Inquiry} {q : Inquiry} :
      d.Complete inputs → (∀ e ∈ d.inputs.entries, Typed inputs e) →
      d.inquiries inputs = before ++ q :: after →
      (∀ b ∈ before, b.verdict inputs = .accepted) → q.verdict inputs ≠ .accepted →
      Judged d inputs
        (.error (.verificationFailed q.property q.verifier.name (q.verdict inputs).reason?))
        (before ++ [q])
  | accepted : d.Complete inputs → (∀ e ∈ d.inputs.entries, Typed inputs e) →
      (∀ q ∈ d.inquiries inputs, q.verdict inputs = .accepted) →
      Judged d inputs (.ok ()) (d.inquiries inputs)

theorem missingInput?_eq_none_iff : d.missingInput? inputs = none ↔ d.Complete inputs := by
  simp [missingInput?, Complete]

theorem typeViolation?_eq_none_iff {e : String × Property} :
    typeViolation? inputs e.1 e.2 = none ↔ Typed inputs e := by
  unfold typeViolation? Typed
  cases inputs.get? e.1 with
  | none => simp
  | some value => simp

theorem typeViolation?_of_get? {key : String} {p : Property} {value : Value}
    (h : inputs.get? key = some value) (ht : value.hasType p.type = false) :
    typeViolation? inputs key p = some (.typeMismatch key p.type value.typeName) := by
  simp only [typeViolation?, h, ht, Bool.false_eq_true, if_false]

theorem findSome?_typeViolation?_eq_none_iff :
    (d.inputs.entries.findSome? fun e => typeViolation? inputs e.1 e.2) = none ↔
      ∀ e ∈ d.inputs.entries, Typed inputs e := by
  simp only [List.findSome?_eq_none_iff, typeViolation?_eq_none_iff]

theorem upToRefusal_of_accepted {xs : List Inquiry}
    (h : ∀ q ∈ xs, q.verdict inputs = .accepted) : upToRefusal inputs xs = xs := by
  induction xs with
  | nil => rfl
  | cons q rest ih =>
      obtain ⟨hq, hrest⟩ := List.forall_mem_cons.mp h
      rw [upToRefusal, if_pos hq, ih hrest]

theorem upToRefusal_of_refused {before after : List Inquiry} {q : Inquiry}
    (h : ∀ b ∈ before, b.verdict inputs = .accepted) (hq : q.verdict inputs ≠ .accepted) :
    upToRefusal inputs (before ++ q :: after) = before ++ [q] := by
  induction before with
  | nil => exact if_neg hq
  | cons b rest ih =>
      obtain ⟨hb, hrest⟩ := List.forall_mem_cons.mp h
      rw [List.cons_append, upToRefusal, if_pos hb, ih hrest, List.cons_append]

theorem findSome?_of_accepted {xs : List Inquiry}
    (h : ∀ q ∈ xs, q.verdict inputs = .accepted) :
    (xs.findSome? fun q => q.violation? (q.verdict inputs)) = none := by
  refine List.findSome?_eq_none_iff.mpr fun q hq => ?_
  rw [h q hq, Inquiry.violation?_accepted]

theorem Judged.eq {result : Except Violation Unit} {asked : List Inquiry}
    (h : d.Judged inputs result asked) :
    d.validateInputs inputs = result ∧ d.asked inputs = asked := by
  cases h with
  | @missing before after key hkeys hbefore hkey =>
      have hfront : (before.find? fun k => !inputs.contains k) = none :=
        List.find?_eq_none.mpr fun k hk => by simp [hbefore k hk]
      have hm : d.missingInput? inputs = some (.missingRequiredInput key) := by
        rw [missingInput?, hkeys, List.find?_append, hfront, Option.none_or,
          List.find?_cons_of_pos (by simp [hkey])]
        rfl
      refine ⟨?_, asked_of_missing hm⟩
      simp only [validateInputs, violation?, hm, Option.some_or]
  | @mistyped before after key p value hcomplete hentries hbefore hvalue htype =>
      have hm := missingInput?_eq_none_iff.mpr hcomplete
      have hfront : (before.findSome? fun e => typeViolation? inputs e.1 e.2) = none :=
        List.findSome?_eq_none_iff.mpr fun e he => typeViolation?_eq_none_iff.mpr (hbefore e he)
      have ht : (d.inputs.entries.findSome? fun e => typeViolation? inputs e.1 e.2) =
          some (.typeMismatch key p.type value.typeName) := by
        rw [hentries, List.findSome?_append, hfront, Option.none_or, List.findSome?_cons,
          typeViolation?_of_get? hvalue htype]
      refine ⟨?_, asked_of_mistyped hm ht⟩
      simp only [validateInputs, violation?, hm, ht, Option.none_or, Option.some_or]
  | @rejected before after q hcomplete htyped hsplit hbefore hq =>
      have hm := missingInput?_eq_none_iff.mpr hcomplete
      have ht := findSome?_typeViolation?_eq_none_iff.mpr htyped
      have hv : ((d.inquiries inputs).findSome? fun q => q.violation? (q.verdict inputs)) =
          some (.verificationFailed q.property q.verifier.name (q.verdict inputs).reason?) := by
        rw [hsplit, List.findSome?_append, findSome?_of_accepted hbefore, Option.none_or,
          List.findSome?_cons, Inquiry.violation?_of_ne hq]
      constructor
      · simp only [validateInputs, violation?, hm, ht, Option.none_or,
          findSome?_verifierViolation?, hv]
      · rw [asked_of_typed hm ht, hsplit]
        exact upToRefusal_of_refused hbefore hq
  | accepted hcomplete htyped haccepted =>
      have hm := missingInput?_eq_none_iff.mpr hcomplete
      have ht := findSome?_typeViolation?_eq_none_iff.mpr htyped
      constructor
      · simp only [validateInputs, violation?, hm, ht, Option.none_or,
          findSome?_verifierViolation?, findSome?_of_accepted haccepted]
      · rw [asked_of_typed hm ht]
        exact upToRefusal_of_accepted haccepted

theorem exists_judged (d : Descriptor) (inputs : Inputs) :
    ∃ result asked, d.Judged inputs result asked := by
  cases hm : d.requiredKeys.find? fun key => !inputs.contains key with
  | some key =>
      obtain ⟨hkey, before, after, hkeys, hbefore⟩ := List.find?_eq_some_iff_append.mp hm
      refine ⟨_, _, .missing hkeys (fun k hk => ?_) ?_⟩
      · simpa using hbefore k hk
      · simpa using hkey
  | none =>
      have hcomplete : d.Complete inputs := by
        intro key hkey
        simpa using List.find?_eq_none.mp hm key hkey
      cases ht : d.inputs.entries.findSome? fun e => typeViolation? inputs e.1 e.2 with
      | some v =>
          obtain ⟨before, ⟨key, p⟩, after, hentries, hv, hbefore⟩ :=
            List.findSome?_eq_some_iff.mp ht
          have hnot : ¬ Typed inputs (key, p) := by
            intro htyped
            rw [typeViolation?_eq_none_iff.mpr htyped] at hv
            cases hv
          simp only [Typed, not_forall, Bool.not_eq_true] at hnot
          obtain ⟨value, hvalue, htype⟩ := hnot
          exact ⟨_, _, .mistyped hcomplete hentries
            (fun e he => typeViolation?_eq_none_iff.mp (hbefore e he)) hvalue htype⟩
      | none =>
          have htyped := findSome?_typeViolation?_eq_none_iff.mp ht
          cases hq : (d.inquiries inputs).find? fun q => q.verdict inputs != .accepted with
          | some q =>
              obtain ⟨hne, before, after, hsplit, hbefore⟩ := List.find?_eq_some_iff_append.mp hq
              refine ⟨_, _, .rejected hcomplete htyped hsplit (fun b hb => ?_) ?_⟩
              · simpa using hbefore b hb
              · simpa using hne
          | none =>
              refine ⟨_, _, .accepted hcomplete htyped fun q hmem => ?_⟩
              simpa using List.find?_eq_none.mp hq q hmem

theorem judged_iff {result : Except Violation Unit} {asked : List Inquiry} :
    d.Judged inputs result asked ↔
      d.validateInputs inputs = result ∧ d.asked inputs = asked := by
  constructor
  · exact Judged.eq
  · rintro ⟨rfl, rfl⟩
    obtain ⟨result, asked, h⟩ := exists_judged d inputs
    obtain ⟨rfl, rfl⟩ := h.eq
    exact h

/-! ## Inputs that are not declared -/

variable {inputs' : Inputs}

theorem Complete.congr (hdeclared : ∀ key ∈ d.inputs.keys, inputs'.get? key = inputs.get? key)
    (h : d.Complete inputs) : d.Complete inputs' := by
  intro key hkey
  have hsame := hdeclared key (mem_keys_of_mem_requiredKeys hkey)
  rw [Table.contains, hsame]
  exact h key hkey

theorem Typed.congr {e : String × Property} (hsame : inputs'.get? e.1 = inputs.get? e.1)
    (h : Typed inputs e) : Typed inputs' e := by
  intro value hvalue
  exact h value (hsame ▸ hvalue)

theorem inquiries_congr (hdeclared : ∀ key ∈ d.inputs.keys, inputs'.get? key = inputs.get? key) :
    d.inquiries inputs' = d.inquiries inputs := by
  refine List.flatMap_congr fun e he => ?_
  have hsame := hdeclared e.1 (List.mem_map_of_mem he)
  simp only [inquiriesOf, hsame]

/-- Inputs that agree on what is declared are judged alike, unless a verifier that was asked sees a
difference. -/
theorem Judged.congr {result : Except Violation Unit} {asked : List Inquiry}
    (hdeclared : ∀ key ∈ d.inputs.keys, inputs'.get? key = inputs.get? key)
    (hverdicts : ∀ q ∈ asked, q.verdict inputs' = q.verdict inputs)
    (h : d.Judged inputs result asked) : d.Judged inputs' result asked := by
  have hentry : ∀ e ∈ d.inputs.entries, inputs'.get? e.1 = inputs.get? e.1 :=
    fun e he => hdeclared e.1 (List.mem_map_of_mem he)
  have hqs := inquiries_congr hdeclared
  cases h with
  | missing hkeys hbefore hkey =>
      have hsame : ∀ k ∈ d.requiredKeys, inputs'.contains k = inputs.contains k := fun k hk =>
        congrArg Option.isSome (hdeclared k (mem_keys_of_mem_requiredKeys hk))
      refine .missing hkeys (fun k hk => ?_) ?_
      · rw [hsame k (hkeys ▸ List.mem_append_left _ hk)]
        exact hbefore k hk
      · rw [hsame _ (by simp [hkeys])]
        exact hkey
  | @mistyped before after key p value hcomplete hentries hbefore hvalue htype =>
      refine .mistyped (hcomplete.congr hdeclared) hentries (fun e he => ?_) ?_ htype
      · exact (hbefore e he).congr (hentry e (hentries ▸ List.mem_append_left _ he))
      · rw [hentry (key, p) (by simp [hentries])]
        exact hvalue
  | rejected hcomplete htyped hsplit hbefore hq =>
      have hlast := hverdicts _ (List.mem_append_right _ (List.mem_singleton_self _))
      rw [← hlast]
      refine .rejected (hcomplete.congr hdeclared) (fun e he => (htyped e he).congr (hentry e he))
        (hqs.trans hsplit) (fun b hb => ?_) (hlast ▸ hq)
      rw [hverdicts b (List.mem_append_left _ hb)]
      exact hbefore b hb
  | accepted hcomplete htyped haccepted =>
      rw [← hqs]
      refine .accepted (hcomplete.congr hdeclared) (fun e he => (htyped e he).congr (hentry e he))
        fun q hmem => ?_
      rw [hqs] at hmem
      rw [hverdicts q hmem]
      exact haccepted q hmem

end Judged

/-- Validation that writes down whom it asks reports what validation reports.  Inputs satisfy a
contract if each declared input is there as far as it is required and, where it is there, has its
type and is accepted by all of its verifiers.  Otherwise the first absent input is reported, failing
that the first mistyped one, and only then are verifiers asked, up to the first that does not
accept.  Inputs that are not declared make a difference only through the verdicts of those that are
asked. -/
theorem validation_reports_first_violation (d : Descriptor) (inputs : Inputs) :
    (validateWith (recorded (fun log q => log ++ [q]) inputs) d inputs).run [] =
      (d.violation? inputs, d.asked inputs) ∧
    (d.validateInputs inputs = .ok () ↔
      ∀ key p, d.inputs.get? key = some p →
        (p.required = true → inputs.contains key = true) ∧
        ∀ value, inputs.get? key = some value → value.hasType p.type = true ∧
          ∀ v ∈ p.verifiers, v.judge key value inputs = .accepted) ∧
    (∀ result asked, d.Judged inputs result asked ↔
      d.validateInputs inputs = result ∧ d.asked inputs = asked) ∧
    ∀ inputs' : Inputs, (∀ key ∈ d.inputs.keys, inputs'.get? key = inputs.get? key) →
      (∀ q ∈ d.asked inputs, q.verdict inputs' = q.verdict inputs) →
      d.validateInputs inputs' = d.validateInputs inputs ∧ d.asked inputs' = d.asked inputs := by
  refine ⟨?_, ?_, fun _ _ => judged_iff, fun inputs' hdeclared hverdicts => ?_⟩
  · rw [run_validateWith, foldl_append_singleton, List.nil_append]
  · constructor
    · intro hok key p hp
      have h := judged_iff.mpr ⟨hok, rfl⟩
      generalize d.asked inputs = asked at h
      cases h with
      | accepted hcomplete htyped haccepted =>
          refine ⟨fun hreq => hcomplete key (mem_requiredKeys.mpr ⟨p, hp, hreq⟩),
            fun value hvalue => ⟨?_, fun v hv => ?_⟩⟩
          · exact htyped (key, p) (Table.get?_eq_some_iff.mp hp) value hvalue
          · exact haccepted ⟨key, v, value⟩ (mem_inquiries.mpr ⟨p, hp, hvalue, hv⟩)
    · intro h
      refine (judged_iff.mp (.accepted (fun key hkey => ?_) (fun e he value hvalue => ?_)
        fun q hq => ?_)).1
      · obtain ⟨p, hp, hreq⟩ := mem_requiredKeys.mp hkey
        exact (h key p hp).1 hreq
      · exact ((h e.1 e.2 (Table.get?_eq_some_iff.mpr he)).2 value hvalue).1
      · obtain ⟨p, hp, hvalue, hv⟩ := mem_inquiries.mp hq
        exact ((h q.property p hp).2 q.value hvalue).2 q.verifier hv
  · exact judged_iff.mp ((judged_iff.mpr ⟨rfl, rfl⟩).congr hdeclared hverdicts)

/-- Accepts everything. -/
def always : Verifier := ⟨"always", fun _ _ _ => .accepted⟩

/-- Looks at an input that need not be declared. -/
def seesFlag : Verifier :=
  ⟨"sees_flag", fun _ _ inputs => if inputs.contains "flag" then .accepted else .refused⟩

/-- Crashes. -/
def crashes : Verifier := ⟨"crashes", fun _ _ _ => .crashed ⟨some "boom"⟩⟩

/-- A text with two verifiers, and an optional truth value whose first verifier crashes. -/
def guarded : Descriptor :=
  (ofId "guarded" "1").withInput "path"
      { type := .string, required := true, verifiers := [always, seesFlag] }
    |>.withInput "sure" { type := .boolean, verifiers := [crashes, always] }

/-- Both inputs, and the flag. -/
def guardedInputs : Inputs :=
  Table.ofList [("path", .ofString "p"), ("sure", .data (.bool true)), ("flag", .ofString "")]

theorem asked_guarded : guarded.asked guardedInputs =
    [⟨"path", always, .ofString "p"⟩, ⟨"path", seesFlag, .ofString "p"⟩,
      ⟨"sure", crashes, .data (.bool true)⟩] := rfl

/-- The verifier that crashes is the third one asked, and the first that does not accept.  One more
input that is not declared makes no difference to any of the three. -/
theorem validation_reports_first_violation_guarded :
    guarded.Judged guardedInputs
      (.error (.verificationFailed "sure" "crashes" (some "panicked: boom")))
      [⟨"path", always, .ofString "p"⟩, ⟨"path", seesFlag, .ofString "p"⟩,
        ⟨"sure", crashes, .data (.bool true)⟩] ∧
    guarded.validateInputs (guardedInputs.insert "note" (.ofString "n")) =
      guarded.validateInputs guardedInputs := by
  obtain ⟨-, -, hjudged, hundeclared⟩ := validation_reports_first_violation guarded guardedInputs
  refine ⟨(hjudged _ _).mpr ⟨rfl, asked_guarded⟩, (hundeclared _ ?_ ?_).1⟩
  · intro key hkey
    have hkeys : guarded.inputs.keys = ["path", "sure"] := rfl
    rw [hkeys, List.mem_cons, List.mem_singleton] at hkey
    rcases hkey with rfl | rfl
    · rfl
    · rfl
  · intro q hq
    rw [asked_guarded, List.mem_cons, List.mem_cons, List.mem_singleton] at hq
    rcases hq with rfl | rfl | rfl
    · rfl
    · rfl
    · rfl

end Descriptor

end Workplan
