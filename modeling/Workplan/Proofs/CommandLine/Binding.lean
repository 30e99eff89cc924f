/-
# `Workplan.Proofs.CommandLine.Binding` — typed values as arguments

The value of an argument has the type that its text suggests: first come the spellings of the
booleans, then integers, then what opens like an array or an object.  The compact text of such a
value suggests its own type, so the argument binds that value — but for one kind of value.  An
integer that fits 64 bits only without a sign is an integer everywhere else, inside an array
also; as an argument of its own it stays a text (`binding_of_compact`).
-/
import Workplan.CommandLine.Binding
import Workplan.Proofs.Json.Values

namespace Workplan.CommandLine

open Number (intChars)

/-! ## Keys -/

theorem splitAtSign_append {key : List Char} (hsign : '=' ∉ key) (raw : List Char) :
    splitAtSign (key ++ '=' :: raw) = some (key, raw) := by
  have hkey : ∀ c ∈ key, (c != '=') = true := by
    intro c hc
    simpa using ne_of_mem_of_not_mem hc hsign
  simp only [splitAtSign, List.dropWhile_append_of_pos hkey, List.takeWhile_append_of_pos hkey]
  simp

theorem parseBinding_append {key : String} (hne : key ≠ "") (hsign : '=' ∉ key.toList)
    (htrim : Text.trim key = key) (raw : String) :
    parseBinding (key ++ "=" ++ raw) = .ok (key, valueOfText raw) := by
  have hchars : (key ++ "=" ++ raw).toList = key.toList ++ '=' :: raw.toList := by simp
  have hkey : Text.trimChars key.toList = key.toList := by
    have h := congrArg String.toList htrim
    rwa [Text.trim, String.toList_ofList] at h
  unfold parseBinding
  rw [hchars, splitAtSign_append hsign]
  simp only [hkey, String.ofList_toList]
  split
  · rename_i hnil
    exact absurd (String.toList_eq_nil_iff.mp hnil) hne
  · rw [String.ofList_toList]

/-! ## Integers -/

theorem decimal_toDigits (n : Nat) : decimal (Nat.toDigits 10 n) = n := by
  have h := Nat.ofDigitChars_ten_toDigits (n := n)
  unfold Nat.ofDigitChars at h
  unfold decimal
  simpa only [Nat.mul_comm] using h

theorem signedDigits?_of_isDigit {ds : List Char} (hne : ds ≠ [])
    (hdigit : ∀ c ∈ ds, c.isDigit = true) :
    signedDigits? ds = some (false, ds) ∧ signedDigits? ('-' :: ds) = some (true, ds) := by
  have hall : (!ds.isEmpty && ds.all Char.isDigit) = true := by
    simp [hne, List.all_eq_true.mpr hdigit]
  constructor
  · unfold signedDigits?
    split
    · exact absurd (hdigit '+' List.mem_cons_self) (by decide)
    · exact absurd (hdigit '-' List.mem_cons_self) (by decide)
    · rw [if_pos hall]
  · simp only [signedDigits?, if_pos hall]

theorem integer?_of_signedDigits {cs ds : List Char} {negative : Bool} {i : Int}
    (h : signedDigits? cs = some (negative, ds))
    (hvalue : (if negative then -(decimal ds : Int) else decimal ds) = i) :
    integer? (String.ofList cs) =
      if -0x8000000000000000 ≤ i ∧ i < 0x8000000000000000 then some i else none := by
  subst hvalue
  rw [integer?, String.toList_ofList, h]
  rfl

theorem integer?_intChars (i : Int) :
    integer? (String.ofList (intChars i)) =
      if -0x8000000000000000 ≤ i ∧ i < 0x8000000000000000 then some i else none := by
  have hdigit : ∀ c ∈ Nat.toDigits 10 i.natAbs, c.isDigit = true := by
    intro c hc
    exact Nat.isDigit_of_mem_toDigits (by decide) (by decide) hc
  obtain ⟨hplain, hminus⟩ := signedDigits?_of_isDigit Nat.toDigits_ne_nil hdigit
  unfold intChars
  split
  · rename_i hneg
    refine integer?_of_signedDigits hminus ?_
    rw [if_pos rfl, decimal_toDigits]
    omega
  · rename_i hneg
    refine integer?_of_signedDigits hplain ?_
    rw [if_neg Bool.false_ne_true, decimal_toDigits]
    omega

/-! ## Values -/

theorem startsWith_ofList (c d : Char) (cs : List Char) :
    (String.ofList (c :: cs)).startsWith (String.ofList [d]) = (d == c) := by
  rw [Bool.eq_iff_iff, String.startsWith_string_iff, String.toList_ofList, String.toList_ofList,
    List.cons_prefix_cons, beq_iff_eq]
  simp

theorem ofList_ne_of_head {c d : Char} (h : c ≠ d) (cs ds : List Char) :
    String.ofList (c :: cs) ≠ String.ofList (d :: ds) := by
  intro heq
  exact h (List.cons.inj (String.ofList_injective heq)).1

/-- What is spelled like no boolean is an integer, or is read where it opens like an array or an
object, or else stands for itself. -/
theorem valueOfText_cons {c : Char} (ht : c ≠ 't') (hf : c ≠ 'f') (cs : List Char) :
    valueOfText (String.ofList (c :: cs)) =
      match (integer? (String.ofList (c :: cs))).bind Number.ofInt? with
      | some n => .data (.num n)
      | none =>
        if '[' == c || '\x7b' == c then
          match Json.parse (String.ofList (c :: cs)) with
          | some j => .data j
          | none => .ofString (String.ofList (c :: cs))
        else .ofString (String.ofList (c :: cs)) := by
  have htrue : String.ofList (c :: cs) ≠ "true" := ofList_ne_of_head ht cs ['r', 'u', 'e']
  have hfalse : String.ofList (c :: cs) ≠ "false" := ofList_ne_of_head hf cs ['a', 'l', 's', 'e']
  have harr : (String.ofList (c :: cs)).startsWith "[" = ('[' == c) := startsWith_ofList c '[' cs
  have hobj : (String.ofList (c :: cs)).startsWith "\x7b" = ('\x7b' == c) :=
    startsWith_ofList c '\x7b' cs
  rewrite [valueOfText, if_neg htrue, if_neg hfalse, harr, hobj]
  rfl

theorem valueOfText_of_digit {c : Char} (hc : c = '-' ∨ c.isDigit = true) (cs : List Char) :
    valueOfText (String.ofList (c :: cs)) =
      match (integer? (String.ofList (c :: cs))).bind Number.ofInt? with
      | some n => .data (.num n)
      | none => .ofString (String.ofList (c :: cs)) := by
  have hne : c ≠ 't' ∧ c ≠ 'f' ∧ ('[' == c || '\x7b' == c) = false := by
    rcases hc with rfl | hc
    · decide
    · refine ⟨?_, ?_, ?_⟩
      · rintro rfl
        cases hc
      · rintro rfl
        cases hc
      · rw [Bool.or_eq_false_iff, beq_eq_false_iff_ne, beq_eq_false_iff_ne]
        constructor <;> (rintro rfl; cases hc)
  obtain ⟨ht, hf, hopen⟩ := hne
  rw [valueOfText_cons ht hf, hopen]
  rfl

theorem valueOfText_of_open {c : Char} (hc : c = '[' ∨ c = '\x7b') {cs : List Char} {j : Json}
    (hread : Json.parse (String.ofList (c :: cs)) = some j) :
    valueOfText (String.ofList (c :: cs)) = .data j := by
  have hinteger : integer? (String.ofList (c :: cs)) = none := by
    rw [integer?, String.toList_ofList]
    rcases hc with rfl | rfl <;> rfl
  have hne : c ≠ 't' ∧ c ≠ 'f' ∧ ('[' == c || '\x7b' == c) = true := by
    rcases hc with rfl | rfl <;> decide
  obtain ⟨ht, hf, hopen⟩ := hne
  rw [valueOfText_cons ht hf, hinteger, Option.bind_none]
  simp only [hopen, if_true, hread]

/-! ## What compact texts suggest -/

/-- An integer that fits 64 bits only without a sign. -/
def OnlyUnsigned (j : Json) : Prop :=
  ∃ i fits, j = .num (.int i fits) ∧ 0x8000000000000000 ≤ i

theorem valueOfText_int (i : Int) (fits : Number.Fits i) :
    valueOfText (Json.num (.int i fits)).compact =
      if i < 0x8000000000000000 then .data (.num (.int i fits))
      else .ofString (Json.num (.int i fits)).compact := by
  obtain ⟨c, cs, hchars, hc⟩ := Number.head_of_read (Number.readsBack_int i fits)
  have htext : (Json.num (.int i fits)).compact = String.ofList (c :: cs) :=
    congrArg String.ofList hchars
  have hinteger : integer? (String.ofList (c :: cs)) =
      if -0x8000000000000000 ≤ i ∧ i < 0x8000000000000000 then some i else none := by
    rw [← integer?_intChars, ← htext]
    rfl
  rw [htext, valueOfText_of_digit hc, hinteger]
  by_cases hsigned : i < 0x8000000000000000
  · rw [if_pos ⟨fits.1, hsigned⟩, if_pos hsigned, Option.bind_some, Number.ofInt?_of_fits fits]
  · rw [if_neg fun h => hsigned h.2, if_neg hsigned]
    rfl

theorem valueOfText_bool (b : Bool) : valueOfText (Json.bool b).compact = .data (.bool b) := by
  cases b with
  | true => exact if_pos rfl
  | false => exact (if_neg (by decide)).trans (if_pos rfl)

theorem valueOfText_compact {j : Json} {tag : TypeTag}
    (htype : (Value.data j).hasType tag = true) (htag : tag ≠ .string) (hcanonical : j.Canonical)
    (hintegral : j.Integral) (hnesting : j.nesting ≤ Json.maxDepth) (hsigned : ¬OnlyUnsigned j) :
    valueOfText j.compact = .data j := by
  have hread := Json.parse_compact hcanonical (Json.readable_of_integral j hintegral hnesting)
  cases j with
  | null => cases tag <;> cases htype
  | bool b => exact valueOfText_bool b
  | num n =>
      cases n with
      | int i fits =>
          have hlt : i < 0x8000000000000000 := by
            by_contra hle
            exact hsigned ⟨i, fits, rfl, not_lt.mp hle⟩
          rw [valueOfText_int, if_pos hlt]
      | real x => exact absurd hintegral id
  | str s =>
      cases tag with
      | string => exact absurd rfl htag
      | _ => cases htype
  | arr items =>
      cases items with
      | nil => exact valueOfText_of_open (Or.inl rfl) hread
      | cons item rest => exact valueOfText_of_open (Or.inl rfl) hread
  | obj fields =>
      cases fields with
      | nil => exact valueOfText_of_open (Or.inr rfl) hread
      | cons field rest => exact valueOfText_of_open (Or.inr rfl) hread

/-- An argument that is put together from a key and the compact text of a boolean, an integer, an
array or an object binds the key to that value, unless it is an integer that fits 64 bits only
without a sign: then it binds the key to the text. -/
theorem binding_of_compact {key : String} (hne : key ≠ "") (hsign : '=' ∉ key.toList)
    (htrim : Text.trim key = key) {j : Json} {tag : TypeTag}
    (htype : (Value.data j).hasType tag = true) (htag : tag ≠ .string) (hcanonical : j.Canonical)
    (hintegral : j.Integral) (hnesting : j.nesting ≤ Json.maxDepth) :
    (parseBinding (key ++ "=" ++ j.compact) = .ok (key, .data j) ↔ ¬OnlyUnsigned j) ∧
    (OnlyUnsigned j →
      parseBinding (key ++ "=" ++ j.compact) = .ok (key, .ofString j.compact)) := by
  rw [parseBinding_append hne hsign htrim]
  have hlarge : OnlyUnsigned j → valueOfText j.compact = .ofString j.compact := by
    rintro ⟨i, fits, rfl, hle⟩
    rw [valueOfText_int, if_neg (not_lt.mpr hle)]
  refine ⟨⟨?_, ?_⟩, ?_⟩
  · rintro hbound ⟨i, fits, rfl, hle⟩
    rw [hlarge ⟨i, fits, rfl, hle⟩] at hbound
    cases hbound
  · intro hsigned
    rw [valueOfText_compact htype htag hcanonical hintegral hnesting hsigned]
  · intro hunsigned
    rw [hlarge hunsigned]

/-- An object whose text holds everything that divides an argument or a document. -/
def crowded : Json :=
  .obj [("", .arr [.null, .num (.int 18446744073709551615 (by decide)), .str "=\"]\x7b"]),
    ("a=b", .obj [("x", .bool true)])]

theorem binding_of_compact_crowded :
    "k v" ≠ "" ∧ '=' ∉ "k v".toList ∧ Text.trim "k v" = "k v" ∧
    (Value.data crowded).hasType .object = true ∧ TypeTag.object ≠ .string ∧ crowded.Canonical ∧
    crowded.Integral ∧ crowded.nesting ≤ Json.maxDepth ∧
    parseBinding ("k v" ++ "=" ++ crowded.compact) = .ok ("k v", .data crowded) := by
  have hne : "k v" ≠ "" := by decide
  have hsign : '=' ∉ "k v".toList := by decide
  have htrim : Text.trim "k v" = "k v" := by decide
  have htype : (Value.data crowded).hasType .object = true := rfl
  have htag : TypeTag.object ≠ .string := by decide
  have hcanonical : crowded.Canonical := by
    simp only [crowded, Json.Canonical, Json.CanonicalItems, Json.CanonicalFields, List.map_cons,
      List.map_nil, and_true]
    decide
  have hintegral : crowded.Integral := by
    simp only [crowded, Json.Integral, Json.IntegralItems, Json.IntegralFields, and_true]
  have hnesting : crowded.nesting ≤ Json.maxDepth := by decide
  have hsigned : ¬OnlyUnsigned crowded := by
    rintro ⟨i, fits, heq, -⟩
    cases heq
  obtain ⟨hbinds, -⟩ :=
    binding_of_compact hne hsign htrim htype htag hcanonical hintegral hnesting
  exact ⟨hne, hsign, htrim, htype, htag, hcanonical, hintegral, hnesting, hbinds.mpr hsigned⟩

/-- The greatest integer of 64 bits. -/
def greatest : Json := .num (.int 18446744073709551615 (by decide))

/-- It is an integer, and it is bound as a text. -/
theorem greatest_integer_bound_as_text :
    (Value.data greatest).hasType .integer = true ∧
    "n" ++ "=" ++ greatest.compact = "n=18446744073709551615" ∧
    parseBinding "n=18446744073709551615" = .ok ("n", .ofString "18446744073709551615") ∧
    parseBinding "n=18446744073709551615" ≠ .ok ("n", .data greatest) := by
  have htext : greatest.compact = "18446744073709551615" := by cbv
  have harg : "n" ++ "=" ++ "18446744073709551615" = "n=18446744073709551615" := by decide
  have hbinding : parseBinding "n=18446744073709551615" =
      .ok ("n", .ofString "18446744073709551615") := by
    rw [← harg, parseBinding_append (by decide) (by decide) (by decide), ← htext, greatest,
      valueOfText_int, if_neg (by decide)]
  refine ⟨rfl, by rw [htext, harg], hbinding, ?_⟩
  rw [hbinding]
  intro heq
  cases heq

end Workplan.CommandLine
