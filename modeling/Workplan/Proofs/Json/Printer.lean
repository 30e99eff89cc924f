/-
# `Workplan.Proofs.Json.Printer` — what compact text consists of

A number is written with digits, signs, a point and a mark for the exponent (`literalChar_chars`);
everything else is written with fixed marks and escaped strings.  So no control character stands in
compact text, whatever the strings of the document hold (`visible_chars`): it is one line.
-/
import Workplan.Json.Printer

namespace Workplan

/-! ## Numbers -/

/-- The characters that number literals are written with. -/
def Number.literalChar (c : Char) : Bool :=
  c.isDigit || c == '-' || c == '+' || c == '.' || c == 'e' || c == 'E'

namespace Binary64

theorem lt_ten_of_mem_digitsOf {n d : Nat} (h : d ∈ digitsOf n) : d < 10 := by
  obtain ⟨c, hc, rfl⟩ := List.mem_map.mp h
  have hdigit := Nat.isDigit_of_mem_toDigits (by decide) (by decide) hc
  have hle : c.toNat ≤ 57 := (Char.isDigit_iff_toNat.mp hdigit).2
  have hzero : '0'.toNat = 48 := rfl
  omega

theorem mem_of_mem_dropTrailingZeros {ds : List Nat} {d : Nat} (h : d ∈ dropTrailingZeros ds) :
    d ∈ ds :=
  List.mem_reverse.mp ((List.dropWhile_suffix _).subset (List.mem_reverse.mp h))

theorem lt_ten_of_mem_searchGrids {mantissa scale : Nat} {lead : Int} {tries count d : Nat}
    (h : d ∈ (searchGrids mantissa scale lead tries count).digits) : d < 10 := by
  induction tries generalizing count with
  | zero =>
      rw [List.mem_singleton.mp h]
      decide
  | succ tries ih =>
      rw [searchGrids] at h
      split at h
      · split at h
        · exact ih h
        · exact lt_ten_of_mem_digitsOf (mem_of_mem_dropTrailingZeros h)
      · exact ih h

theorem lt_ten_of_mem_shortest {x : Binary64} {d : Nat} (h : d ∈ x.shortest.digits) : d < 10 := by
  unfold shortest at h
  split at h
  · rw [List.mem_singleton.mp h]
    decide
  · exact lt_ten_of_mem_searchGrids h

end Binary64

namespace Number

variable {c : Char}

theorem literalChar_digitChars {ds : List Nat} (hds : ∀ d ∈ ds, d < 10) (hc : c ∈ digitChars ds) :
    literalChar c = true := by
  obtain ⟨d, hd, rfl⟩ := List.mem_map.mp hc
  have hall : ∀ d < 10, literalChar (Char.ofNat ('0'.toNat + d)) = true := by decide
  exact hall d (hds d hd)

theorem literalChar_toDigits {n : Nat} (hc : c ∈ Nat.toDigits 10 n) : literalChar c = true := by
  simp [literalChar, Nat.isDigit_of_mem_toDigits (by decide) (by decide) hc]

theorem literalChar_intChars {i : Int} (hc : c ∈ intChars i) : literalChar c = true := by
  unfold intChars at hc
  split at hc
  · rcases List.mem_cons.mp hc with rfl | hc
    · rfl
    · exact literalChar_toDigits hc
  · exact literalChar_toDigits hc

theorem literalChar_zeros {k : Nat} (hc : c ∈ List.replicate k '0') : literalChar c = true := by
  rw [List.eq_of_mem_replicate hc]
  rfl

theorem literalChar_decimalChars {d : Binary64.Decimal} (hd : ∀ n ∈ d.digits, n < 10) :
    ∀ c ∈ decimalChars d, literalChar c = true := by
  have hdigits : ∀ c ∈ digitChars d.digits, literalChar c = true :=
    fun c hc => literalChar_digitChars hd hc
  have htake (k : Nat) : ∀ c ∈ (digitChars d.digits).take k, literalChar c = true :=
    fun c hc => hdigits c (List.mem_of_mem_take hc)
  have hdrop (k : Nat) : ∀ c ∈ (digitChars d.digits).drop k, literalChar c = true :=
    fun c hc => hdigits c (List.mem_of_mem_drop hc)
  have hzeros (k : Nat) : ∀ c ∈ List.replicate k '0', literalChar c = true :=
    fun c hc => literalChar_zeros hc
  unfold decimalChars
  split
  · -- with an exponent
    simp only [List.forall_mem_append, List.forall_mem_cons, ← List.drop_one]
    refine ⟨⟨⟨htake 1, ?_⟩, rfl, ?_⟩, fun c hc => literalChar_intChars hc⟩
    · split
      · exact List.forall_mem_nil _
      · exact List.forall_mem_cons.mpr ⟨rfl, hdrop 1⟩
    · split
      · exact List.forall_mem_nil _
      · exact List.forall_mem_singleton.mpr rfl
  · split
    · simp only [List.forall_mem_append, List.forall_mem_cons]
      exact ⟨⟨rfl, rfl, hzeros _⟩, hdigits⟩
    · simp only [List.forall_mem_append, List.forall_mem_cons]
      refine ⟨⟨htake _, hzeros _⟩, rfl, ?_⟩
      split
      · exact List.forall_mem_singleton.mpr rfl
      · exact hdrop _

theorem literalChar_chars {n : Number} (hc : c ∈ n.chars) : literalChar c = true := by
  cases n with
  | int i fits => exact literalChar_intChars hc
  | real x =>
      have hmagnitude : ∀ c ∈ decimalChars x.shortest, literalChar c = true :=
        literalChar_decimalChars fun _ h => Binary64.lt_ten_of_mem_shortest h
      rw [chars, realChars] at hc
      split at hc
      · rcases List.mem_cons.mp hc with rfl | hc
        · rfl
        · exact hmagnitude c hc
      · exact hmagnitude c hc

end Number

namespace Json

/-! ## Documents -/

/-- A character that is no control character. -/
def Visible (c : Char) : Prop := 0x20 ≤ c.toNat

instance (c : Char) : Decidable (Visible c) := by
  unfold Visible
  infer_instance

theorem visible_of_all {cs : List Char} (h : (cs.all fun c => decide (Visible c)) = true) :
    ∀ c ∈ cs, Visible c :=
  fun c hc => of_decide_eq_true (List.all_eq_true.mp h c hc)

theorem visible_of_literalChar {c : Char} (h : Number.literalChar c = true) : Visible c := by
  simp only [Number.literalChar, Bool.or_eq_true, beq_iff_eq] at h
  rcases h with ((((h | rfl) | rfl) | rfl) | rfl) | rfl
  · exact Nat.le_trans (by decide) (Char.isDigit_iff_toNat.mp h).1
  all_goals decide

theorem visible_hexDigit : ∀ n < 16, Visible (hexDigit n) := by decide

theorem visible_escapeChar (c : Char) : ∀ d ∈ escapeChar c, Visible d := by
  unfold escapeChar
  iterate 7
    split
    · exact visible_of_all rfl
  split
  · rename_i hcontrol
    simp only [List.forall_mem_cons]
    exact ⟨by decide, by decide, by decide, by decide, visible_hexDigit _ (by omega),
      visible_hexDigit _ (by omega), List.forall_mem_nil _⟩
  · rename_i hcontrol
    exact List.forall_mem_singleton.mpr (Nat.le_of_not_lt hcontrol)

theorem visible_quoteChars (s : String) : ∀ c ∈ quoteChars s, Visible c := by
  simp only [quoteChars, List.forall_mem_append, List.forall_mem_cons, List.forall_mem_flatMap]
  exact ⟨⟨by decide, fun c _ => visible_escapeChar c⟩, by decide, List.forall_mem_nil _⟩

mutual

theorem visible_chars : ∀ (j : Json), ∀ c ∈ j.chars, Visible c
  | .null | .bool true | .bool false => visible_of_all rfl
  | .num n => fun _ hc => visible_of_literalChar (Number.literalChar_chars hc)
  | .str s => visible_quoteChars s
  | .arr [] => visible_of_all rfl
  | .arr (j :: rest) => by
      simp only [chars, List.forall_mem_append, List.forall_mem_cons]
      exact ⟨⟨by decide, visible_chars j⟩, visible_itemChars rest⟩
  | .obj [] => visible_of_all rfl
  | .obj ((n, j) :: rest) => by
      simp only [chars, List.forall_mem_append, List.forall_mem_cons]
      exact ⟨⟨⟨by decide, visible_quoteChars n⟩, by decide, visible_chars j⟩,
        visible_fieldChars rest⟩

theorem visible_itemChars : ∀ (items : List Json), ∀ c ∈ itemChars items, Visible c
  | [] => visible_of_all rfl
  | j :: rest => by
      simp only [itemChars, List.forall_mem_append, List.forall_mem_cons]
      exact ⟨⟨by decide, visible_chars j⟩, visible_itemChars rest⟩

theorem visible_fieldChars : ∀ (fields : List (String × Json)), ∀ c ∈ fieldChars fields, Visible c
  | [] => visible_of_all rfl
  | (n, j) :: rest => by
      simp only [fieldChars, List.forall_mem_append, List.forall_mem_cons]
      exact ⟨⟨⟨by decide, visible_quoteChars n⟩, by decide, visible_chars j⟩,
        visible_fieldChars rest⟩

end

theorem notMem_compact (j : Json) {c : Char} (hc : ¬Visible c) : c ∉ j.compact.toList := by
  rw [compact, String.toList_ofList]
  exact fun hmem => hc (visible_chars j c hmem)

end Json

end Workplan
