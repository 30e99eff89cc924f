/-
# `Workplan.Proofs.Json.Number` — number literals read back

A number that stands in a document is followed by something, and the reader must stop there.  What
may follow is `EndsLiteral`; then a literal that is read to its end alone is read just so in front
of it (`read_append`).

Every integer is read back from its digits (`readsBack_int`).  Of a fractional number this is a
property, `ReadsBack`: the power of ten of a long literal is applied to a rounded significand, so
not every number is met again.
-/
import Mathlib.Data.List.TakeWhile
import Workplan.Json.Number

namespace Workplan

/-- The text of a number is read as that number, to its end. -/
def Number.ReadsBack (n : Number) : Prop := read n.chars = some (n, [])

/-- The text of a fractional number is read as that number. -/
def Binary64.ReadsBack (x : Binary64) : Prop := (Number.real x).ReadsBack

namespace Number

/-! ## What follows a literal -/

/-- What may stand after a literal: nothing that would go on with it. -/
def EndsLiteral (rest : List Char) : Prop :=
  ∀ c ∈ rest.head?, c.isDigit = false ∧ c ≠ '.' ∧ c ≠ 'e' ∧ c ≠ 'E'

theorem endsLiteral_nil : EndsLiteral [] := by
  intro c hc
  cases hc

theorem endsLiteral_cons {c : Char} {rest : List Char} :
    EndsLiteral (c :: rest) ↔ c.isDigit = false ∧ c ≠ '.' ∧ c ≠ 'e' ∧ c ≠ 'E' := by
  simp [EndsLiteral]

variable {rest : List Char}

theorem takeDigits_append (hrest : EndsLiteral rest) (cs : List Char) :
    takeDigits (cs ++ rest) = ((takeDigits cs).1, (takeDigits cs).2 ++ rest) := by
  induction cs with
  | nil =>
      cases rest with
      | nil => rfl
      | cons c rest =>
          have hc := (endsLiteral_cons.mp hrest).1
          simp [takeDigits, hc]
  | cons c cs ih =>
      cases hc : c.isDigit with
      | true => simpa [takeDigits, hc] using ih
      | false => simp [takeDigits, hc]

theorem isDigit_of_takeDigits {cs more : List Char} {d : Nat} {ds : List Nat}
    (h : takeDigits cs = (d :: ds, more)) : ∃ c cs', cs = c :: cs' ∧ c.isDigit = true := by
  cases cs with
  | nil => cases h
  | cons c cs =>
      cases hc : c.isDigit with
      | true => exact ⟨c, cs, rfl, hc⟩
      | false => simp [takeDigits, hc] at h

theorem readFraction_append (hrest : EndsLiteral rest) {cs more : List Char} {ds : List Nat}
    (h : readFraction cs = some (ds, more)) :
    readFraction (cs ++ rest) = some (ds, more ++ rest) := by
  unfold readFraction at h
  split at h
  · -- a point
    rename_i r
    simp only [readFraction, List.cons_append, takeDigits_append hrest]
    split at h
    · cases h
    · cases h
      rename_i hnil htaken
      simp only [htaken]
  · rename_i hpoint
    cases h
    cases cs with
    | nil =>
        cases rest with
        | nil => rfl
        | cons c rest =>
            obtain ⟨-, hc, -⟩ := endsLiteral_cons.mp hrest
            simp [readFraction, hc]
    | cons c cs =>
        have hc : c ≠ '.' := by
          rintro rfl
          exact hpoint cs rfl
        simp [readFraction, hc]

theorem readPower_append (hrest : EndsLiteral rest) {cs more : List Char} {e : Option Int}
    {negative : Bool} (h : readPower negative cs = some (e, more)) :
    readPower negative (cs ++ rest) = some (e, more ++ rest) := by
  unfold readPower at h ⊢
  rw [takeDigits_append hrest]
  split at h
  · cases h
  · cases h
    rename_i hnil htaken
    simp only [htaken]

theorem isDigit_of_readPower {cs more : List Char} {e : Option Int} {negative : Bool}
    (h : readPower negative cs = some (e, more)) : ∃ c cs', cs = c :: cs' ∧ c.isDigit = true := by
  unfold readPower at h
  split at h
  · cases h
  · rename_i ds left hnil htaken
    cases ds with
    | nil => exact absurd rfl hnil
    | cons d ds => exact isDigit_of_takeDigits htaken

theorem readExponent_unsigned {mark c : Char} (hmark : mark = 'e' ∨ mark = 'E')
    (hc : c.isDigit = true) (cs : List Char) :
    readExponent (mark :: c :: cs) = readPower false (c :: cs) := by
  have hminus : c ≠ '-' := by
    rintro rfl
    cases hc
  have hplus : c ≠ '+' := by
    rintro rfl
    cases hc
  rcases hmark with rfl | rfl <;> simp [readExponent, hminus, hplus]

theorem readExponent_none {cs : List Char} (h : ∀ c ∈ cs.head?, c ≠ 'e' ∧ c ≠ 'E') :
    readExponent cs = some (none, cs) := by
  cases cs with
  | nil => rfl
  | cons c cs =>
      obtain ⟨he, hE⟩ := h c rfl
      simp [readExponent, he, hE]

theorem readExponent_append (hrest : EndsLiteral rest) {cs more : List Char} {e : Option Int}
    (h : readExponent cs = some (e, more)) :
    readExponent (cs ++ rest) = some (e, more ++ rest) := by
  unfold readExponent at h
  split at h
  · exact readPower_append hrest h
  · exact readPower_append hrest h
  · exact readPower_append hrest h
  · exact readPower_append hrest h
  · obtain ⟨c, cs', rfl, hc⟩ := isDigit_of_readPower h
    exact (readExponent_unsigned (Or.inl rfl) hc _).trans (readPower_append hrest h)
  · obtain ⟨c, cs', rfl, hc⟩ := isDigit_of_readPower h
    exact (readExponent_unsigned (Or.inr rfl) hc _).trans (readPower_append hrest h)
  · rename_i he hE
    cases h
    refine readExponent_none fun c hc => ?_
    cases cs with
    | nil =>
        obtain ⟨-, -, he', hE'⟩ := hrest c hc
        exact ⟨he', hE'⟩
    | cons c' cs =>
        cases hc
        refine ⟨?_, ?_⟩
        · rintro rfl
          exact he cs rfl
        · rintro rfl
          exact hE cs rfl

theorem readUnsigned_eq_some_iff {negative : Bool} {cs more : List Char} {l : Literal} :
    readUnsigned negative cs = some (l, more) ↔
      ∃ whole fraction exponent afterWhole afterFraction,
        takeDigits cs = (whole, afterWhole) ∧
        (whole.isEmpty || (whole.head? == some 0 && 1 < whole.length)) = false ∧
        readFraction afterWhole = some (fraction, afterFraction) ∧
        readExponent afterFraction = some (exponent, more) ∧
        l = ⟨negative, whole, fraction, exponent⟩ := by
  unfold readUnsigned
  generalize takeDigits cs = taken
  obtain ⟨whole, afterWhole⟩ := taken
  simp only [Prod.mk.injEq]
  constructor
  · intro h
    split at h
    · cases h
    · rename_i hwhole
      obtain ⟨⟨fraction, afterFraction⟩, hfraction, h⟩ := Option.bind_eq_some_iff.mp h
      obtain ⟨⟨exponent, left⟩, hexponent, h⟩ := Option.bind_eq_some_iff.mp h
      cases h
      exact ⟨whole, fraction, exponent, afterWhole, afterFraction, ⟨rfl, rfl⟩,
        Bool.eq_false_iff.mpr hwhole, hfraction, hexponent, rfl⟩
  · rintro ⟨_, fraction, exponent, _, afterFraction, ⟨rfl, rfl⟩, hwhole, hfraction, hexponent, rfl⟩
    simp only [hwhole, hfraction, hexponent, Bool.false_eq_true, if_false, bind, Option.bind]

theorem readUnsigned_append (hrest : EndsLiteral rest) {negative : Bool} {cs more : List Char}
    {l : Literal} (h : readUnsigned negative cs = some (l, more)) :
    readUnsigned negative (cs ++ rest) = some (l, more ++ rest) := by
  obtain ⟨whole, fraction, exponent, afterWhole, afterFraction, htaken, hwhole, hfraction,
    hexponent, rfl⟩ := readUnsigned_eq_some_iff.mp h
  refine readUnsigned_eq_some_iff.mpr ⟨whole, fraction, exponent, afterWhole ++ rest,
    afterFraction ++ rest, ?_, hwhole, readFraction_append hrest hfraction,
    readExponent_append hrest hexponent, rfl⟩
  rw [takeDigits_append hrest, htaken]

theorem isDigit_of_readUnsigned {negative : Bool} {cs more : List Char} {l : Literal}
    (h : readUnsigned negative cs = some (l, more)) :
    ∃ c cs', cs = c :: cs' ∧ c.isDigit = true := by
  obtain ⟨whole, _, _, afterWhole, _, htaken, hwhole, -⟩ := readUnsigned_eq_some_iff.mp h
  cases whole with
  | nil => cases hwhole
  | cons d ds => exact isDigit_of_takeDigits htaken

theorem readLiteral_unsigned {c : Char} (hc : c ≠ '-') (cs : List Char) :
    readLiteral (c :: cs) = readUnsigned false (c :: cs) := by
  simp [readLiteral, hc]

theorem readLiteral_cases {cs more : List Char} {l : Literal}
    (h : readLiteral cs = some (l, more)) :
    (∃ cs', cs = '-' :: cs' ∧ readUnsigned true cs' = some (l, more)) ∨
    ∃ c cs', cs = c :: cs' ∧ c.isDigit = true ∧ readUnsigned false cs = some (l, more) := by
  unfold readLiteral at h
  split at h
  · exact Or.inl ⟨_, rfl, h⟩
  · obtain ⟨c, cs', hcs, hc⟩ := isDigit_of_readUnsigned h
    exact Or.inr ⟨c, cs', hcs, hc, h⟩

theorem readLiteral_append (hrest : EndsLiteral rest) {cs more : List Char} {l : Literal}
    (h : readLiteral cs = some (l, more)) :
    readLiteral (cs ++ rest) = some (l, more ++ rest) := by
  rcases readLiteral_cases h with ⟨cs', rfl, h⟩ | ⟨c, cs', rfl, hc, h⟩
  · exact readUnsigned_append hrest h
  · have hminus : c ≠ '-' := by
      rintro rfl
      cases hc
    exact (readLiteral_unsigned hminus _).trans (readUnsigned_append hrest h)

/-- A number that is read to the end of its text is read in front of anything that does not go on
with it. -/
theorem read_append (hrest : EndsLiteral rest) {cs more : List Char} {n : Number}
    (h : read cs = some (n, more)) : read (cs ++ rest) = some (n, more ++ rest) := by
  obtain ⟨⟨l, left⟩, hliteral, h⟩ := Option.bind_eq_some_iff.mp h
  obtain ⟨number, hnumber, h⟩ := Option.bind_eq_some_iff.mp h
  cases h
  simp only [read, readLiteral_append hrest hliteral, hnumber, bind, Option.bind]

theorem head_of_read {cs more : List Char} {n : Number} (h : read cs = some (n, more)) :
    ∃ c cs', cs = c :: cs' ∧ (c = '-' ∨ c.isDigit = true) := by
  obtain ⟨⟨l, left⟩, hliteral, -⟩ := Option.bind_eq_some_iff.mp h
  rcases readLiteral_cases hliteral with ⟨cs', rfl, -⟩ | ⟨c, cs', rfl, hc, -⟩
  · exact ⟨'-', cs', rfl, Or.inl rfl⟩
  · exact ⟨c, cs', rfl, Or.inr hc⟩

/-! ## Integers -/

theorem takeDigits_of_isDigit {cs : List Char} (h : ∀ c ∈ cs, c.isDigit = true) :
    takeDigits cs = (cs.map fun c => c.toNat - '0'.toNat, []) := by
  rw [takeDigits, List.takeWhile_eq_self_iff.mpr h, List.dropWhile_eq_nil_iff.mpr h]

theorem le_foldl_digits (ds : List Nat) (n : Nat) : n ≤ ds.foldl (fun n d => 10 * n + d) n := by
  induction ds generalizing n with
  | nil => exact Nat.le_refl n
  | cons d ds ih => exact Nat.le_trans (by omega) (ih (10 * n + d))

theorem takeFitting_of_lt {ds : List Nat} {significand : Nat}
    (h : ds.foldl (fun n d => 10 * n + d) significand < 0x10000000000000000) :
    takeFitting significand ds = (ds.foldl (fun n d => 10 * n + d) significand, 0) := by
  induction ds generalizing significand with
  | nil => rfl
  | cons d ds ih =>
      rw [List.foldl_cons] at h ⊢
      have hfits : significand * 10 + d < 0x10000000000000000 := by
        have hle := le_foldl_digits ds (10 * significand + d)
        omega
      rw [takeFitting, if_pos hfits, Nat.mul_comm significand 10]
      exact ih h

open Binary64 (digitsOf)

theorem foldl_digitsOf (n : Nat) :
    (digitsOf n).foldl (fun n d => 10 * n + d) 0 = n := by
  rw [digitsOf, List.foldl_map]
  exact Nat.ofDigitChars_ten_toDigits

theorem digitsOf_ne_nil (n : Nat) : digitsOf n ≠ [] := by
  intro h
  exact Nat.toDigits_ne_nil (List.map_eq_nil_iff.mp h)

theorem digitsOf_of_lt {n : Nat} (h : n < 10) : digitsOf n = [n] := by
  rw [digitsOf, Nat.toDigits_of_lt_base h, List.map_singleton]
  exact congrArg (fun d => [d]) (Nat.toNat_digitChar_sub_48_of_lt_ten h)

theorem head?_digitsOf_ne (n : Nat) (hn : n ≠ 0) : (digitsOf n).head? ≠ some 0 := by
  induction n using Nat.strongRecOn with
  | ind n ih =>
      by_cases hlt : n < 10
      · rw [digitsOf_of_lt hlt]
        simpa using hn
      · have hsplit : digitsOf n = digitsOf (n / 10) ++
            [(Nat.digitChar (n % 10)).toNat - '0'.toNat] := by
          rw [digitsOf, Nat.toDigits_of_base_le (by decide) (by omega), List.map_append]
          rfl
        have hhead := ih (n / 10) (by omega) (by omega)
        have hne := digitsOf_ne_nil (n / 10)
        rw [hsplit]
        cases hdigits : digitsOf (n / 10) with
        | nil => exact absurd hdigits hne
        | cons d ds =>
            rw [hdigits] at hhead
            exact hhead

theorem readUnsigned_toDigits (negative : Bool) (n : Nat) :
    readUnsigned negative (Nat.toDigits 10 n) = some (⟨negative, digitsOf n, [], none⟩, []) := by
  refine readUnsigned_eq_some_iff.mpr ⟨digitsOf n, [], none, [], [], ?_, ?_, rfl, rfl, rfl⟩
  · exact takeDigits_of_isDigit fun c hc => Nat.isDigit_of_mem_toDigits (by decide) (by decide) hc
  · by_cases hn : n = 0
    · subst hn
      rfl
    · simp [digitsOf_ne_nil n, head?_digitsOf_ne n hn]

theorem read_of_literal {cs : List Char} {l : Literal} {n : Number}
    (hliteral : readLiteral cs = some (l, rest)) (hnumber : ofLiteral l = some n) :
    read cs = some (n, rest) := by
  simp only [read, hliteral, hnumber, bind, Option.bind]

section Magnitude

variable {n : Nat} (h : n < 0x10000000000000000)

include h

theorem takeFitting_digitsOf : takeFitting 0 (digitsOf n) = (n, 0) := by
  rw [takeFitting_of_lt (by rwa [foldl_digitsOf]), foldl_digitsOf]

theorem ofLiteral_nonneg : ofLiteral ⟨false, digitsOf n, [], none⟩ = ofInt? n := by
  simp only [ofLiteral, takeFitting_digitsOf h, List.isEmpty_nil, Option.isNone_none,
    Bool.and_self, beq_self_eq_true, if_true, Bool.false_eq_true, if_false]

theorem ofLiteral_neg (hpos : 0 < n) (hle : n ≤ 0x8000000000000000) :
    ofLiteral ⟨true, digitsOf n, [], none⟩ = ofInt? (-(n : Int)) := by
  have hrange : (decide (0 < n) && decide (n ≤ 0x8000000000000000)) = true := by
    simp [hpos, hle]
  simp only [ofLiteral, takeFitting_digitsOf h, List.isEmpty_nil, Option.isNone_none,
    Bool.and_self, beq_self_eq_true, if_true, hrange]

end Magnitude

theorem ofInt?_of_fits {i : Int} (fits : Fits i) : ofInt? i = some (.int i fits) := dif_pos fits

theorem readsBack_int (i : Int) (fits : Fits i) : (Number.int i fits).ReadsBack := by
  have hbound := fits
  unfold Fits at hbound
  have hmagnitude : i.natAbs < 0x10000000000000000 := by omega
  show read (intChars i) = some (.int i fits, [])
  by_cases hneg : i < 0
  · have hvalue : -(i.natAbs : Int) = i := by omega
    have hnumber := ofLiteral_neg hmagnitude (by omega) (by omega)
    rw [hvalue, ofInt?_of_fits fits] at hnumber
    rw [intChars, if_pos hneg]
    exact read_of_literal (readUnsigned_toDigits true i.natAbs) hnumber
  · have hvalue : (i.natAbs : Int) = i := by omega
    have hnumber := ofLiteral_nonneg hmagnitude
    rw [hvalue, ofInt?_of_fits fits] at hnumber
    rw [intChars, if_neg hneg]
    -- the digits begin with no minus
    have hliteral : readLiteral (Nat.toDigits 10 i.natAbs) =
        some (⟨false, digitsOf i.natAbs, [], none⟩, []) := by
      have hunsigned := readUnsigned_toDigits false i.natAbs
      obtain ⟨c, cs, hcs, hc⟩ := isDigit_of_readUnsigned hunsigned
      rw [hcs] at hunsigned ⊢
      rw [readLiteral_unsigned _ cs, hunsigned]
      rintro rfl
      cases hc
    exact read_of_literal hliteral hnumber

theorem readsBack_ofUInt64 (n : UInt64) : (ofUInt64 n).ReadsBack := readsBack_int _ _

theorem readsBack_ofUInt32 (n : UInt32) : (ofUInt32 n).ReadsBack := readsBack_int _ _

end Number

end Workplan
