/-
# `Workplan.Proofs.Json.RoundTrip` — printed documents read back

Reading undoes the compact layout, whatever the strings in a document hold: a character between
quotes is read back from its escape, and an array or object from its items or fields, which the
reader collects one by one (`readValue_chars`).  Of the document this asks two things, and
`Readable` says both: that its numbers read back, and that it nests no deeper than the reader goes.

The reader is fuelled.  Every step but one takes a character, and that one, from a list of items to
its first item, is followed by a step that does; so fuel of twice the length is enough.
-/
import Workplan.Json.Printer
import Workplan.Json.Reader
import Workplan.Proofs.Json.Number

namespace Workplan.Json

/-! ## Strings -/

theorem hexValue_hexDigit : ∀ n < 16, hexValue (hexDigit n) = some n := by
  decide

theorem readUnits_control {c : Char} (hc : c.toNat < 0x20) (cs : List Char) :
    readUnits ('0' :: '0' :: hexDigit (c.toNat / 16) :: hexDigit (c.toNat % 16) :: cs) =
      some (c, cs) := by
  have hhigh := hexValue_hexDigit (c.toNat / 16) (by omega)
  have hlow := hexValue_hexDigit (c.toNat % 16) (by omega)
  have hzero : hexValue '0' = some 0 := rfl
  have hvalue : ((0 * 16 + 0) * 16 + c.toNat / 16) * 16 + c.toNat % 16 = c.toNat := by omega
  have hunits : readHex4 ('0' :: '0' :: hexDigit (c.toNat / 16) :: hexDigit (c.toNat % 16) :: cs) =
      some (c.toNat, cs) := by
    simp only [readHex4, hzero, hhigh, hlow, hvalue, bind, Option.bind]
  have hplain : (0xD800 ≤ c.toNat && c.toNat < 0xDC00) = false := by
    simp only [Bool.and_eq_false_iff, decide_eq_false_iff_not]
    omega
  have hplain' : (0xDC00 ≤ c.toNat && c.toNat < 0xE000) = false := by
    simp only [Bool.and_eq_false_iff, decide_eq_false_iff_not]
    omega
  simp only [readUnits, hunits, bind, Option.bind, hplain, hplain', Bool.false_eq_true, if_false,
    Char.ofNat_toNat]

theorem readStringFrom_escapeChar (fuel : Nat) (read : List Char) (c : Char) (cs : List Char) :
    readStringFrom (fuel + 1) read (escapeChar c ++ cs) = readStringFrom fuel (c :: read) cs := by
  unfold escapeChar
  iterate 7
    split
    · subst_vars
      rfl
  split
  · rename_i hcontrol
    simp only [List.cons_append, List.nil_append, readStringFrom, readUnits_control hcontrol]
  · rename_i _ hbackslash _ _ _ _ _ hcontrol
    simp only [List.cons_append, List.nil_append]
    rw [readStringFrom.eq_def]
    simp [hbackslash, hcontrol]

theorem readStringFrom_chars {s : List Char} {fuel : Nat} (read rest : List Char)
    (hfuel : s.length < fuel) :
    readStringFrom fuel read (s.flatMap escapeChar ++ '"' :: rest) =
      some (String.ofList (read.reverse ++ s), rest) := by
  induction s generalizing fuel read with
  | nil =>
      obtain ⟨fuel, rfl⟩ := Nat.exists_eq_succ_of_ne_zero (Nat.ne_of_gt hfuel)
      simp [readStringFrom]
  | cons c s ih =>
      obtain ⟨fuel, rfl⟩ := Nat.exists_eq_succ_of_ne_zero (Nat.ne_zero_of_lt hfuel)
      rw [List.flatMap_cons, List.append_assoc, readStringFrom_escapeChar,
        ih _ (Nat.lt_of_succ_lt_succ hfuel), List.reverse_cons, List.append_assoc,
        List.singleton_append]

theorem escapeChar_ne_nil (c : Char) : escapeChar c ≠ [] := by
  unfold escapeChar
  repeat' split
  all_goals simp

theorem length_le_flatMap_escapeChar (s : List Char) :
    s.length ≤ (s.flatMap escapeChar).length := by
  induction s with
  | nil => exact Nat.le_refl _
  | cons c s ih =>
      have hc := List.length_pos_iff.mpr (escapeChar_ne_nil c)
      rw [List.flatMap_cons, List.length_append, List.length_cons]
      omega

theorem readString_chars (s : String) (rest : List Char) :
    readString (s.toList.flatMap escapeChar ++ '"' :: rest) = some (s, rest) := by
  have hlength := length_le_flatMap_escapeChar s.toList
  rw [readString, readStringFrom_chars [] rest, List.reverse_nil, List.nil_append,
    String.ofList_toList]
  rw [List.length_append]
  omega

/-! ## Documents that the reader takes -/

mutual

/-- A document whose numbers read back and whose arrays and objects nest at most so deep. -/
def Readable : Nat → Json → Prop
  | _, .num n => n.ReadsBack
  | depth, .arr items => ∃ inner, depth = inner + 1 ∧ ReadableItems inner items
  | depth, .obj fields => ∃ inner, depth = inner + 1 ∧ ReadableFields inner fields
  | _, _ => True

def ReadableItems : Nat → List Json → Prop
  | _, [] => True
  | depth, j :: rest => j.Readable depth ∧ ReadableItems depth rest

def ReadableFields : Nat → List (String × Json) → Prop
  | _, [] => True
  | depth, (_, j) :: rest => j.Readable depth ∧ ReadableFields depth rest

end

theorem skipSpace_cons {c : Char} (hc : isSpace c = false) (cs : List Char) :
    skipSpace (c :: cs) = c :: cs := by
  simp [skipSpace, hc]

section Number

variable {c : Char} (hc : c = '-' ∨ c.isDigit = true)

include hc

theorem ne_of_number {d : Char} (hminus : d ≠ '-') (hdigit : d.isDigit = false) : c ≠ d := by
  rintro rfl
  rcases hc with rfl | hc
  · exact hminus rfl
  · rw [hdigit] at hc
    cases hc

theorem isSpace_of_number : isSpace c = false := by
  have hne {d : Char} := ne_of_number hc (d := d)
  simp [isSpace, hne (d := ' ') (by decide) (by decide), hne (d := '\n') (by decide) (by decide),
    hne (d := '\t') (by decide) (by decide), hne (d := '\r') (by decide) (by decide)]

theorem readValue_number (fuel depth : Nat) (cs : List Char) :
    readValue (fuel + 1) depth (c :: cs) =
      (Number.read (c :: cs)).map fun (n, more) => (.num n, more) := by
  have hne {d : Char} := ne_of_number hc (d := d)
  rw [readValue, skipSpace_cons (isSpace_of_number hc)]
  simp [hne (d := 'n') (by decide) (by decide), hne (d := 't') (by decide) (by decide),
    hne (d := 'f') (by decide) (by decide), hne (d := '"') (by decide) (by decide),
    hne (d := '[') (by decide) (by decide), hne (d := '\x7b') (by decide) (by decide)]

end Number

theorem quoteChars_append (s : String) (rest : List Char) :
    quoteChars s ++ rest = '"' :: (s.toList.flatMap escapeChar ++ '"' :: rest) := by
  simp [quoteChars]

/-- A document begins with a character that is no blank and closes nothing. -/
theorem head_chars {j : Json} {depth : Nat} (h : j.Readable depth) :
    ∃ c cs, j.chars = c :: cs ∧ isSpace c = false ∧ c ≠ ']' := by
  cases j with
  | null => exact ⟨_, _, rfl, rfl, by decide⟩
  | bool b => cases b <;> exact ⟨_, _, rfl, rfl, by decide⟩
  | num n =>
      obtain ⟨c, cs, hcs, hc⟩ := Number.head_of_read h
      refine ⟨c, cs, hcs, ?_, ?_⟩
      · exact isSpace_of_number hc
      · rintro rfl
        rcases hc with hc | hc <;> cases hc
  | str s => exact ⟨'"', _, rfl, rfl, by decide⟩
  | arr items => cases items <;> exact ⟨'[', _, rfl, rfl, by decide⟩
  | obj fields => cases fields <;> exact ⟨'\x7b', _, rfl, rfl, by decide⟩

theorem endsLiteral_itemChars (items : List Json) (rest : List Char) :
    Number.EndsLiteral (itemChars items ++ rest) := by
  cases items <;> exact Number.endsLiteral_cons.mpr (by decide)

theorem endsLiteral_fieldChars (fields : List (String × Json)) (rest : List Char) :
    Number.EndsLiteral (fieldChars fields ++ rest) := by
  cases fields <;> exact Number.endsLiteral_cons.mpr (by decide)

/-! ## Reading -/

mutual

/-- A document that the reader takes is read back from its text, up to what follows. -/
theorem readValue_chars : ∀ (j : Json) {fuel depth : Nat} {rest : List Char},
    j.Readable depth → Number.EndsLiteral rest → 2 * (j.chars ++ rest).length + 1 ≤ fuel →
      readValue fuel depth (j.chars ++ rest) = some (j, rest)
  | .null, fuel + 1, depth, rest, _, _, _ => by
      simp [chars, readValue, skipSpace, isSpace, readWord]
  | .bool true, fuel + 1, depth, rest, _, _, _ => by
      simp [chars, readValue, skipSpace, isSpace, readWord]
  | .bool false, fuel + 1, depth, rest, _, _, _ => by
      simp [chars, readValue, skipSpace, isSpace, readWord]
  | .num n, fuel + 1, depth, rest, hreadable, hrest, _ => by
      have hread := Number.read_append hrest hreadable
      obtain ⟨c, cs, hcs, hc⟩ := Number.head_of_read hread
      rw [chars]
      rw [hcs] at hread ⊢
      rw [readValue_number hc, hread]
      rfl
  | .str s, fuel + 1, depth, rest, _, _, _ => by
      rw [chars, quoteChars_append, readValue, skipSpace_cons rfl]
      simp only [readString_chars]
      rfl
  | .arr [], fuel + 1, depth, rest, hreadable, _, _ => by
      obtain ⟨inner, rfl, -⟩ := hreadable
      simp [chars, readValue, skipSpace, isSpace]
  | .arr (j :: items), fuel + 2, depth, rest, hreadable, _, hfuel => by
      obtain ⟨inner, rfl, hj, hitems⟩ := hreadable
      rw [chars, List.append_assoc, List.cons_append] at hfuel ⊢
      simp only [List.length_cons, List.length_append] at hfuel
      have hfirst : readValue fuel inner (j.chars ++ (itemChars items ++ rest)) =
          some (j, itemChars items ++ rest) :=
        readValue_chars j hj (endsLiteral_itemChars items rest)
          (by simp only [List.length_append]; omega)
      have hitems := readItems_chars items [] hitems hfirst
        (by simp only [List.length_append]; omega)
      obtain ⟨c, cs, hcs, hspace, hclose⟩ := head_chars hj
      rw [readValue, skipSpace_cons rfl]
      rw [hcs, List.cons_append] at hitems ⊢
      simp [skipSpace_cons hspace, hclose, hitems]
  | .obj [], fuel + 1, depth, rest, hreadable, _, _ => by
      obtain ⟨inner, rfl, -⟩ := hreadable
      simp [chars, readValue, skipSpace, isSpace]
  | .obj ((n, j) :: fields), fuel + 2, depth, rest, hreadable, _, hfuel => by
      obtain ⟨inner, rfl, hj, hfields⟩ := hreadable
      have htext : (Json.obj ((n, j) :: fields)).chars ++ rest =
          '\x7b' :: (quoteChars n ++ ':' :: (j.chars ++ (fieldChars fields ++ rest))) := by
        simp [chars]
      rw [htext] at hfuel ⊢
      simp only [List.length_cons, List.length_append] at hfuel
      have hfirst : readValue fuel inner (j.chars ++ (fieldChars fields ++ rest)) =
          some (j, fieldChars fields ++ rest) :=
        readValue_chars j hj (endsLiteral_fieldChars fields rest)
          (by simp only [List.length_append]; omega)
      have hfields := readFields_chars fields [] (n := n) hfields hfirst
        (by simp only [List.length_append]; omega)
      rw [readValue, skipSpace_cons rfl]
      rw [quoteChars_append] at hfields ⊢
      simp [skipSpace_cons (c := '"') rfl, hfields]

theorem readItems_chars : ∀ (items read : List Json) {fuel depth : Nat} {j : Json}
    {cs rest : List Char}, ReadableItems depth items →
      readValue fuel depth cs = some (j, itemChars items ++ rest) →
      2 * (itemChars items ++ rest).length ≤ fuel →
      readItems (fuel + 1) depth read cs = some (read.reverse ++ j :: items, rest)
  | [], read, fuel, depth, j, cs, rest, _, hj, _ => by
      simp [readItems, hj, itemChars, skipSpace, isSpace]
  | next :: items, read, fuel, depth, j, cs, rest, hreadable, hj, hfuel => by
      obtain ⟨hnext, hitems⟩ := hreadable
      have htext : itemChars (next :: items) ++ rest =
          ',' :: (next.chars ++ (itemChars items ++ rest)) := by
        simp [itemChars]
      rw [htext] at hj hfuel
      simp only [List.length_cons, List.length_append] at hfuel
      obtain ⟨fuel, rfl⟩ : ∃ k, fuel = k + 1 := ⟨fuel - 1, by omega⟩
      have hfirst : readValue fuel depth (next.chars ++ (itemChars items ++ rest)) =
          some (next, itemChars items ++ rest) :=
        readValue_chars next hnext (endsLiteral_itemChars items rest)
          (by simp only [List.length_append]; omega)
      have hothers := readItems_chars items (j :: read) hitems hfirst
        (by simp only [List.length_append]; omega)
      rw [readItems, hj]
      simp only [skipSpace_cons (c := ',') rfl, hothers]
      simp

theorem readFields_chars : ∀ (fields read : List (String × Json)) {fuel depth : Nat} {n : String}
    {j : Json} {cs rest : List Char},
      ReadableFields depth fields →
      readValue fuel depth cs = some (j, fieldChars fields ++ rest) →
      2 * (fieldChars fields ++ rest).length ≤ fuel →
      readFields (fuel + 1) depth read (quoteChars n ++ ':' :: cs) =
        some (read.reverse ++ (n, j) :: fields, rest)
  | [], read, fuel, depth, n, j, cs, rest, _, hj, _ => by
      simp [readFields, quoteChars_append, readString_chars, hj, fieldChars, skipSpace, isSpace]
  | (m, next) :: fields, read, fuel, depth, n, j, cs, rest, hreadable, hj, hfuel => by
      obtain ⟨hnext, hfields⟩ := hreadable
      have htext : fieldChars ((m, next) :: fields) ++ rest =
          ',' :: (quoteChars m ++ ':' :: (next.chars ++ (fieldChars fields ++ rest))) := by
        simp [fieldChars]
      rw [htext] at hj hfuel
      simp only [List.length_cons, List.length_append] at hfuel
      obtain ⟨fuel, rfl⟩ : ∃ k, fuel = k + 1 := ⟨fuel - 1, by omega⟩
      have hfirst : readValue fuel depth (next.chars ++ (fieldChars fields ++ rest)) =
          some (next, fieldChars fields ++ rest) :=
        readValue_chars next hnext (endsLiteral_fieldChars fields rest)
          (by simp only [List.length_append]; omega)
      have hothers := readFields_chars fields ((n, j) :: read) (n := m) hfields hfirst
        (by simp only [List.length_append]; omega)
      rw [quoteChars_append, readFields, skipSpace_cons rfl]
      simp only [readString_chars, skipSpace_cons (c := ':') rfl, hj, skipSpace_cons (c := ',') rfl,
        hothers]
      simp

end

theorem parseDocument_compact {j : Json} (h : j.Readable maxDepth) :
    parseDocument j.compact = some j := by
  have hread : readValue (2 * j.chars.length + 2) maxDepth (j.chars ++ []) = some (j, []) :=
    readValue_chars j h Number.endsLiteral_nil (by simp)
  rw [List.append_nil] at hread
  simp only [parseDocument, compact, String.toList_ofList, hread]
  rfl

end Workplan.Json
