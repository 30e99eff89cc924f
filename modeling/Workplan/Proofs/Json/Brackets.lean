/-
# `Workplan.Proofs.Json.Brackets` — brackets of JSON text

A scan of a text counts the brackets that are open, minds strings, and insists on what may stand
behind one.  It knows much less than the reader, and says the same about two kinds of text.  Where
the reader takes a document the scan is back at the depth where it began (`run_readValue`), so it
ends an accepted text at depth zero (`closed_of_parseDocument`).  In printed text the scan does
not come back before the end: what is cut off inside an object leaves a bracket open
(`open_of_cut`).
-/
import Workplan.Json.Reader
import Workplan.Proofs.Json.Number
import Workplan.Proofs.Json.Printer

namespace Workplan.Json

/-- Where a scan stands: outside strings, in a string, behind a backslash in a string, or behind
the end of a string, each with the number of open brackets. -/
inductive Scan where
  | plain (depth : Nat)
  | quoted (depth : Nat)
  | escaped (depth : Nat)
  | ended (depth : Nat)
  | failed
deriving DecidableEq

namespace Scan

/-- The number of open brackets. -/
def depth : Scan → Nat
  | plain d | quoted d | escaped d | ended d => d
  | failed => 0

/-- After a closing bracket. -/
def close : Nat → Scan
  | 0 => failed
  | d + 1 => plain d

def step : Scan → Char → Scan
  | plain d, c =>
    if c = '"' then quoted d
    else if c = '[' ∨ c = '\x7b' then plain (d + 1)
    else if c = ']' ∨ c = '\x7d' then close d
    else plain d
  | quoted d, c => if c = '"' then ended d else if c = '\\' then escaped d else quoted d
  | escaped d, _ => quoted d
  | ended d, c =>
    if c = ']' ∨ c = '\x7d' then close d
    else if isSpace c ∨ c = ',' ∨ c = ':' then plain d
    else failed
  | failed, _ => failed

def run (s : Scan) (cs : List Char) : Scan := cs.foldl step s

variable {s : Scan} {d : Nat} {c : Char} {cs : List Char}

@[simp] theorem run_nil : s.run [] = s := rfl

@[simp] theorem run_cons : s.run (c :: cs) = (s.step c).run cs := rfl

theorem run_append (s : Scan) (cs ds : List Char) : s.run (cs ++ ds) = (s.run cs).run ds :=
  List.foldl_append

theorem run_of_forall (h : ∀ c ∈ cs, s.step c = s) : s.run cs = s := by
  induction cs with
  | nil => rfl
  | cons c cs ih =>
      obtain ⟨hc, hcs⟩ := List.forall_mem_cons.mp h
      rw [run_cons, hc, ih hcs]

theorem run_failed (cs : List Char) : failed.run cs = failed := run_of_forall fun _ _ => rfl

/-- Outside strings, with as many brackets open as given. -/
def Closed (d : Nat) (s : Scan) : Prop := s = plain d ∨ s = ended d

theorem Closed.depth_eq (h : Closed d s) : s.depth = d := by
  rcases h with rfl | rfl <;> rfl

theorem Closed.step_comma (h : Closed d s) : s.step ',' = plain d := by
  rcases h with rfl | rfl <;> rfl

theorem Closed.step_colon (h : Closed d s) : s.step ':' = plain d := by
  rcases h with rfl | rfl <;> rfl

theorem Closed.step_bracket (h : Closed (d + 1) s) : s.step ']' = plain d := by
  rcases h with rfl | rfl <;> rfl

theorem Closed.step_brace (h : Closed (d + 1) s) : s.step '\x7d' = plain d := by
  rcases h with rfl | rfl <;> rfl

theorem step_plain_of_literalChar (hc : Number.literalChar c = true) :
    (plain d).step c = plain d := by
  have hne {x : Char} (hx : Number.literalChar x = false) : c ≠ x := by
    rintro rfl
    rw [hx] at hc
    cases hc
  simp [step, hne (x := '"') (by decide), hne (x := '[') (by decide), hne (x := ']') (by decide),
    hne (x := '\x7b') (by decide), hne (x := '\x7d') (by decide)]

theorem step_quoted (hquote : c ≠ '"') (hbackslash : c ≠ '\\') :
    (quoted d).step c = quoted d := by
  rw [step, if_neg hquote, if_neg hbackslash]

theorem Closed.step_space (h : Closed d s) (hc : isSpace c = true) : s.step c = plain d := by
  simp only [isSpace, Bool.or_eq_true, beq_iff_eq] at hc
  rcases h with rfl | rfl
  all_goals rcases hc with ((rfl | rfl) | rfl) | rfl <;> rfl

end Scan

open Scan

/-! ## The reader -/

theorem run_skipSpace (d : Nat) (cs : List Char) :
    (plain d).run (skipSpace cs) = (plain d).run cs := by
  induction cs with
  | nil => rfl
  | cons c cs ih =>
      rw [skipSpace, List.dropWhile_cons]
      split
      · rename_i hc
        rw [run_cons, Closed.step_space (Or.inl rfl) hc]
        exact ih
      · rfl

theorem Scan.Closed.skipSpace {s : Scan} {d : Nat} (h : Closed d s) (cs : List Char) :
    ∃ s', Closed d s' ∧ s.run cs = s'.run (skipSpace cs) := by
  cases cs with
  | nil => exact ⟨s, h, rfl⟩
  | cons c cs =>
      rw [Json.skipSpace, List.dropWhile_cons]
      split
      · rename_i hc
        refine ⟨plain d, Or.inl rfl, ?_⟩
        rw [run_cons, h.step_space hc]
        exact (run_skipSpace d cs).symm
      · exact ⟨s, h, rfl⟩

section Number

variable {d : Nat} {cs rest : List Char}

theorem run_takeDigits (d : Nat) (cs : List Char) :
    (plain d).run (Number.takeDigits cs).2 = (plain d).run cs := by
  induction cs with
  | nil => rfl
  | cons c cs ih =>
      rw [Number.takeDigits, List.dropWhile_cons]
      split
      · rename_i hc
        rw [run_cons, step_plain_of_literalChar (by simp [Number.literalChar, hc])]
        exact ih
      · rfl

theorem run_of_takeDigits {ds : List Nat} (h : Number.takeDigits cs = (ds, rest)) :
    (plain d).run cs = (plain d).run rest := by
  rw [← run_takeDigits, h]

theorem run_readFraction {ds : List Nat} (h : Number.readFraction cs = some (ds, rest)) :
    (plain d).run cs = (plain d).run rest := by
  unfold Number.readFraction at h
  split at h
  · split at h
    · cases h
    · cases h
      rename_i hdigits
      rw [run_cons, step_plain_of_literalChar rfl, run_of_takeDigits hdigits]
  · cases h
    rfl

theorem run_readPower {negative : Bool} {e : Option Int}
    (h : Number.readPower negative cs = some (e, rest)) :
    (plain d).run cs = (plain d).run rest := by
  unfold Number.readPower at h
  split at h
  · cases h
  · cases h
    rename_i hdigits
    exact run_of_takeDigits hdigits

theorem run_readExponent {e : Option Int} (h : Number.readExponent cs = some (e, rest)) :
    (plain d).run cs = (plain d).run rest := by
  unfold Number.readExponent at h
  split at h
  -- a mark and a sign, and then a mark alone
  iterate 4
    · rw [run_cons, step_plain_of_literalChar rfl, run_cons, step_plain_of_literalChar rfl,
        run_readPower h]
  iterate 2
    · rw [run_cons, step_plain_of_literalChar rfl, run_readPower h]
  · cases h
    rfl

theorem run_readUnsigned {negative : Bool} {l : Number.Literal}
    (h : Number.readUnsigned negative cs = some (l, rest)) :
    (plain d).run cs = (plain d).run rest := by
  obtain ⟨_, _, _, _, _, hwhole, -, hfraction, hexponent, -⟩ :=
    Number.readUnsigned_eq_some_iff.mp h
  rw [run_of_takeDigits hwhole, run_readFraction hfraction, run_readExponent hexponent]

theorem run_readNumber {n : Number} (h : Number.read cs = some (n, rest)) :
    (plain d).run cs = (plain d).run rest := by
  obtain ⟨⟨l, left⟩, hliteral, h⟩ := Option.bind_eq_some_iff.mp h
  obtain ⟨number, -, h⟩ := Option.bind_eq_some_iff.mp h
  cases h
  rcases Number.readLiteral_cases hliteral with ⟨cs', rfl, hunsigned⟩ | ⟨_, _, -, -, hunsigned⟩
  · rw [run_cons, step_plain_of_literalChar rfl, run_readUnsigned hunsigned]
  · exact run_readUnsigned hunsigned

end Number

/-! ### Strings -/

section Strings

variable {d : Nat} {cs rest : List Char}

theorem step_quoted_of_hexValue {c : Char} {n : Nat} (h : hexValue c = some n) :
    (quoted d).step c = quoted d := by
  have hne {x : Char} (hx : hexValue x = none) : c ≠ x := by
    rintro rfl
    rw [hx] at h
    cases h
  exact step_quoted (hne (by decide)) (hne (by decide))

theorem run_readHex4 {n : Nat} (h : readHex4 cs = some (n, rest)) :
    (quoted d).run cs = (quoted d).run rest := by
  unfold readHex4 at h
  split at h
  · obtain ⟨_, ha, h⟩ := Option.bind_eq_some_iff.mp h
    obtain ⟨_, hb, h⟩ := Option.bind_eq_some_iff.mp h
    obtain ⟨_, hc, h⟩ := Option.bind_eq_some_iff.mp h
    obtain ⟨_, hd, h⟩ := Option.bind_eq_some_iff.mp h
    cases h
    simp only [run_cons, step_quoted_of_hexValue ha, step_quoted_of_hexValue hb,
      step_quoted_of_hexValue hc, step_quoted_of_hexValue hd]
  · cases h

/-- A numbered escape is one unit, or two of them with a second mark between them. -/
theorem readUnits_cases {c : Char} (h : readUnits cs = some (c, rest)) :
    (∃ n, readHex4 cs = some (n, rest)) ∨
    ∃ high low more, readHex4 cs = some (high, '\\' :: 'u' :: more) ∧
      readHex4 more = some (low, rest) := by
  obtain ⟨⟨high, left⟩, hhigh, h⟩ := Option.bind_eq_some_iff.mp h
  simp only at h
  by_cases hpair : (0xD800 ≤ high && high < 0xDC00) = true
  · rw [if_pos hpair] at h
    split at h
    · obtain ⟨⟨low, more⟩, hlow, h⟩ := Option.bind_eq_some_iff.mp h
      simp only at h
      obtain ⟨-, h⟩ := Option.ite_none_right_eq_some.mp h
      obtain ⟨-, rfl⟩ := Prod.mk.inj (Option.some.inj h)
      exact Or.inr ⟨high, low, _, hhigh, hlow⟩
    · cases h
  · rw [if_neg hpair] at h
    obtain ⟨-, h⟩ := Option.ite_none_left_eq_some.mp h
    obtain ⟨-, rfl⟩ := Prod.mk.inj (Option.some.inj h)
    exact Or.inl ⟨high, hhigh⟩

theorem run_readUnits {c : Char} (h : readUnits cs = some (c, rest)) :
    (quoted d).run cs = (quoted d).run rest := by
  rcases readUnits_cases h with ⟨n, hunit⟩ | ⟨high, low, more, hhigh, hlow⟩
  · exact run_readHex4 hunit
  · rw [run_readHex4 hhigh]
    exact (run_readHex4 hlow : (quoted d).run more = _)

theorem readStringFrom_nil (fuel : Nat) (read : List Char) :
    readStringFrom fuel read [] = none := by
  cases fuel <;> rfl

theorem run_readStringFrom {fuel : Nat} {read : List Char} {s : String}
    (h : readStringFrom fuel read cs = some (s, rest)) :
    (quoted d).run cs = (ended d).run rest := by
  induction fuel generalizing read cs with
  | zero => cases h
  | succ fuel ih =>
      rw [readStringFrom.eq_def] at h
      dsimp only at h
      split at h
      · cases h
      · cases h
        rfl
      · split at h
        · rename_i hunits
          exact (run_readUnits hunits).trans (ih h)
        · cases h
      · split at h
        · exact (ih h : (quoted d).run _ = _)
        · cases h
      · rename_i c more hquote _ hescape
        split at h
        · cases h
        · have hbackslash : c ≠ '\\' := by
            rintro rfl
            cases more with
            | nil =>
                rw [readStringFrom_nil] at h
                cases h
            | cons next more => exact hescape next more rfl rfl
          rw [run_cons, step_quoted hquote hbackslash]
          exact ih h

theorem run_readString {s : String} (h : readString cs = some (s, rest)) :
    (quoted d).run cs = (ended d).run rest := run_readStringFrom h

end Strings

/-! ### Documents -/

theorem run_readWord {word cs rest : List Char} {value j : Json} {d : Nat}
    (hword : ∀ c ∈ word, (plain d).step c = plain d)
    (h : readWord word value cs = some (j, rest)) : (plain d).run cs = (plain d).run rest := by
  unfold readWord at h
  split at h
  · rename_i hfront
    obtain ⟨more, rfl⟩ := List.isPrefixOf_iff_prefix.mp hfront
    obtain ⟨-, rfl⟩ := Prod.mk.inj (Option.some.inj h)
    rw [List.drop_left, run_append, run_of_forall hword]
  · cases h

mutual

theorem run_readValue : ∀ {fuel depth d : Nat} {cs rest : List Char} {j : Json},
    readValue fuel depth cs = some (j, rest) → ∃ s, Closed d s ∧ (plain d).run cs = s.run rest
  | 0, _, _, _, _, _, h => nomatch h
  | fuel + 1, depth, d, cs, rest, j, h => by
      rw [readValue] at h
      rw [← run_skipSpace]
      split at h
      iterate 3
        · -- a word: its first letter, and then the others
          rename_i hfront
          rw [hfront, run_cons]
          exact ⟨plain d, Or.inl rfl, run_readWord (d := d) (by simp [step]) h⟩
      · rename_i hfront
        obtain ⟨⟨s, more⟩, hstring, h⟩ := Option.map_eq_some_iff.mp h
        cases h
        rw [hfront, run_cons]
        exact ⟨ended d, Or.inr rfl, run_readString hstring⟩
      · rename_i more hfront
        rw [hfront, run_cons]
        refine ⟨plain d, Or.inl rfl, ?_⟩
        split at h
        · cases h
        · split at h
          · rename_i hclose
            cases h
            show (plain (d + 1)).run more = _
            rw [← run_skipSpace, hclose]
            rfl
          · obtain ⟨⟨js, left⟩, hitems, h⟩ := Option.map_eq_some_iff.mp h
            cases h
            exact run_readItems hitems
      · rename_i more hfront
        rw [hfront, run_cons]
        refine ⟨plain d, Or.inl rfl, ?_⟩
        split at h
        · cases h
        · split at h
          · rename_i hclose
            cases h
            show (plain (d + 1)).run more = _
            rw [← run_skipSpace, hclose]
            rfl
          · obtain ⟨⟨fs, left⟩, hfields, h⟩ := Option.map_eq_some_iff.mp h
            cases h
            exact run_readFields hfields
      · obtain ⟨⟨n, left⟩, hnumber, h⟩ := Option.map_eq_some_iff.mp h
        cases h
        exact ⟨plain d, Or.inl rfl, run_readNumber hnumber⟩

theorem run_readItems : ∀ {fuel depth d : Nat} {read js : List Json} {cs rest : List Char},
    readItems fuel depth read cs = some (js, rest) → (plain (d + 1)).run cs = (plain d).run rest
  | 0, _, _, _, _, _, _, h => nomatch h
  | fuel + 1, depth, d, read, js, cs, rest, h => by
      rw [readItems] at h
      split at h
      · cases h
      · rename_i j left hvalue
        obtain ⟨s, hs, hrun⟩ := run_readValue (d := d + 1) hvalue
        obtain ⟨s', hs', hskip⟩ := hs.skipSpace left
        rw [hrun, hskip]
        split at h
        · rename_i hcomma
          rw [hcomma, run_cons, hs'.step_comma]
          exact run_readItems h
        · rename_i hclose
          cases h
          rw [hclose, run_cons, hs'.step_bracket]
        · cases h

theorem run_readFields : ∀ {fuel depth d : Nat} {read fs : List (String × Json)}
    {cs rest : List Char}, readFields fuel depth read cs = some (fs, rest) →
      (plain (d + 1)).run cs = (plain d).run rest
  | 0, _, _, _, _, _, _, h => nomatch h
  | fuel + 1, depth, d, read, fs, cs, rest, h => by
      rw [readFields] at h
      rw [← run_skipSpace]
      split at h
      · rename_i hquote
        split at h
        · cases h
        · -- behind the name stand a colon and the value
          rename_i n left hname
          obtain ⟨s, hs, hskip⟩ := Closed.skipSpace (d := d + 1) (Or.inr rfl) left
          have hvalue : (plain (d + 1)).run (skipSpace cs) = s.run (skipSpace left) := by
            rw [hquote, ← hskip]
            exact run_readString hname
          rw [hvalue]
          split at h
          · rename_i value hcolon
            rw [hcolon, run_cons, hs.step_colon]
            split at h
            · cases h
            · rename_i j left hvalue
              obtain ⟨s, hs, hrun⟩ := run_readValue (d := d + 1) hvalue
              obtain ⟨s', hs', hskip⟩ := hs.skipSpace left
              rw [hrun, hskip]
              split at h
              · rename_i hcomma
                rw [hcomma, run_cons, hs'.step_comma]
                exact run_readFields h
              · rename_i hclose
                cases h
                rw [hclose, run_cons, hs'.step_brace]
              · cases h
          · cases h
      · cases h

end

theorem closed_of_parseDocument {text : String} {j : Json} (h : parseDocument text = some j) :
    Closed 0 ((plain 0).run text.toList) := by
  unfold parseDocument at h
  dsimp only at h
  split at h
  · rename_i read rest hvalue
    obtain ⟨hempty, -⟩ := Option.ite_none_right_eq_some.mp h
    obtain ⟨s, hs, hrun⟩ := run_readValue (d := 0) hvalue
    obtain ⟨s', hs', hskip⟩ := hs.skipSpace rest
    rw [hrun, hskip, List.isEmpty_iff.mp hempty]
    exact hs'
  · cases h

/-! ## Printed text -/

/-- Before every character of a text at least so many brackets are open. -/
def Scan.Keeps (d : Nat) : Scan → List Char → Prop
  | _, [] => True
  | s, c :: cs => d ≤ s.depth ∧ Keeps d (s.step c) cs

namespace Scan

variable {s : Scan} {d : Nat} {c : Char} {cs : List Char}

theorem keeps_append {ds : List Char} :
    Keeps d s (cs ++ ds) ↔ Keeps d s cs ∧ Keeps d (s.run cs) ds := by
  induction cs generalizing s with
  | nil => simp [Keeps]
  | cons c cs ih => simp [Keeps, ih, and_assoc]

theorem Keeps.mono {k : Nat} (h : Keeps d s cs) (hk : k ≤ d) : Keeps k s cs := by
  induction cs generalizing s with
  | nil => trivial
  | cons c cs ih => exact ⟨Nat.le_trans hk h.1, ih h.2⟩

theorem Keeps.le_depth {ds : List Char} (h : Keeps d s (cs ++ ds)) (hne : ds ≠ []) :
    d ≤ (s.run cs).depth := by
  obtain ⟨c, rest, rfl⟩ := List.exists_cons_of_ne_nil hne
  exact (keeps_append.mp h).2.1

/-- A text that leads a scan from one place to another, with so many brackets open throughout. -/
structure Passes (d : Nat) (s : Scan) (cs : List Char) (s' : Scan) : Prop where
  keeps : Keeps d s cs
  run_eq : s.run cs = s'

variable {s' t : Scan} {ds : List Char} {k : Nat}

theorem Passes.nil : Passes d s [] s := ⟨trivial, rfl⟩

theorem Passes.cons (hs : d ≤ s.depth) (h : Passes d (s.step c) cs s') : Passes d s (c :: cs) s' :=
  ⟨⟨hs, h.keeps⟩, h.run_eq⟩

theorem Passes.append (h : Passes d s cs s') (h' : Passes d s' ds t) : Passes d s (cs ++ ds) t :=
  ⟨keeps_append.mpr ⟨h.keeps, h.run_eq ▸ h'.keeps⟩, by rw [run_append, h.run_eq, h'.run_eq]⟩

theorem Passes.mono (h : Passes d s cs s') (hk : k ≤ d) : Passes k s cs s' :=
  ⟨h.keeps.mono hk, h.run_eq⟩

theorem passes_of_forall (hs : d ≤ s.depth) (h : ∀ c ∈ cs, s.step c = s) : Passes d s cs s := by
  induction cs with
  | nil => exact .nil
  | cons c cs ih =>
      obtain ⟨hc, hcs⟩ := List.forall_mem_cons.mp h
      refine .cons hs ?_
      rw [hc]
      exact ih hcs

end Scan

theorem hexDigit_ne : ∀ n < 16, hexDigit n ≠ '"' ∧ hexDigit n ≠ '\\' := by decide

theorem passes_escapeChar (d : Nat) (c : Char) :
    Passes d (quoted d) (escapeChar c) (quoted d) := by
  have hhex {n : Nat} (hn : n < 16) : (quoted d).step (hexDigit n) = quoted d :=
    step_quoted (hexDigit_ne n hn).1 (hexDigit_ne n hn).2
  have hle : d ≤ d := Nat.le_refl d
  unfold escapeChar
  split
  · exact .cons hle (.cons hle .nil)
  rename_i hquote
  split
  · exact .cons hle (.cons hle .nil)
  rename_i hbackslash
  iterate 5
    split
    · exact .cons hle (.cons hle .nil)
  split
  · refine .cons hle (.cons hle (passes_of_forall hle ?_))
    simp only [List.forall_mem_cons]
    exact ⟨rfl, rfl, hhex (by omega), hhex (by omega), List.forall_mem_nil _⟩
  · exact passes_of_forall hle (List.forall_mem_singleton.mpr (step_quoted hquote hbackslash))

theorem passes_flatMap_escapeChar (d : Nat) (s : List Char) :
    Passes d (quoted d) (s.flatMap escapeChar) (quoted d) := by
  induction s with
  | nil => exact .nil
  | cons c s ih =>
      rw [List.flatMap_cons]
      exact (passes_escapeChar d c).append ih

theorem passes_quoteChars (d : Nat) (s : String) :
    Passes d (plain d) (quoteChars s) (ended d) := by
  have hend : Passes d (quoted d) ['"'] (ended d) := .cons (Nat.le_refl d) .nil
  exact Passes.append (.cons (Nat.le_refl d) (passes_flatMap_escapeChar d s.toList)) hend

theorem passes_member {s : Scan} {d : Nat} {cs : List Char} (n : String)
    (h : Passes d (plain d) cs s) : Passes d (plain d) (quoteChars n ++ ':' :: cs) s := by
  have hcolon : Passes d (ended d) (':' :: cs) s := .cons (Nat.le_refl d) h
  exact (passes_quoteChars d n).append hcolon

mutual

/-- The text of a document leaves the scan where it was, and does not come back before its end. -/
theorem passes_chars : ∀ (j : Json) (d : Nat),
    ∃ s, Closed d s ∧ Passes d (plain d) j.chars s
  | .null, d | .bool true, d | .bool false, d =>
      ⟨plain d, Or.inl rfl, passes_of_forall (Nat.le_refl d) (by simp [chars, step])⟩
  | .num n, d =>
      ⟨plain d, Or.inl rfl, passes_of_forall (Nat.le_refl d) fun _ hc =>
        step_plain_of_literalChar (Number.literalChar_chars hc)⟩
  | .str s, d => ⟨ended d, Or.inr rfl, passes_quoteChars d s⟩
  | .arr [], d =>
      ⟨plain d, Or.inl rfl, .cons (Nat.le_refl d) (.cons (Nat.le_succ d) .nil)⟩
  | .arr (j :: rest), d => by
      obtain ⟨s, hs, hj⟩ := passes_chars j (d + 1)
      have hrest := passes_itemChars rest hs
      refine ⟨plain d, Or.inl rfl, ?_⟩
      exact (Passes.cons (Nat.le_refl d) (hj.mono (Nat.le_succ d))).append
        (hrest.mono (Nat.le_succ d))
  | .obj fields, d => by
      obtain ⟨inside, hchars, hinside⟩ := passes_obj fields d
      rw [hchars]
      exact ⟨plain d, Or.inl rfl, .cons (Nat.le_refl d) (hinside.mono (Nat.le_succ d))⟩

/-- Inside an object its brace is open, to the last character. -/
theorem passes_obj : ∀ (fields : List (String × Json)) (d : Nat),
    ∃ inside, (Json.obj fields).chars = '\x7b' :: inside ∧
      Passes (d + 1) (plain (d + 1)) inside (plain d)
  | [], d => ⟨['\x7d'], rfl, .cons (Nat.le_refl (d + 1)) .nil⟩
  | (n, j) :: rest, d => by
      obtain ⟨s, hs, hj⟩ := passes_chars j (d + 1)
      exact ⟨_, rfl, (passes_member n hj).append (passes_fieldChars rest hs)⟩

theorem passes_itemChars : ∀ (items : List Json) {s : Scan} {d : Nat}, Closed (d + 1) s →
    Passes (d + 1) s (itemChars items) (plain d)
  | [], s, d, hs => ⟨⟨Nat.le_of_eq hs.depth_eq.symm, trivial⟩, hs.step_bracket⟩
  | j :: rest, s, d, hs => by
      obtain ⟨s', hs', hj⟩ := passes_chars j (d + 1)
      refine Passes.append (.cons (Nat.le_of_eq hs.depth_eq.symm) ?_) (passes_itemChars rest hs')
      rwa [hs.step_comma]

theorem passes_fieldChars : ∀ (fields : List (String × Json)) {s : Scan} {d : Nat},
    Closed (d + 1) s → Passes (d + 1) s (fieldChars fields) (plain d)
  | [], s, d, hs => ⟨⟨Nat.le_of_eq hs.depth_eq.symm, trivial⟩, hs.step_brace⟩
  | (n, j) :: rest, s, d, hs => by
      obtain ⟨s', hs', hj⟩ := passes_chars j (d + 1)
      have hmember := (passes_member n hj).append (passes_fieldChars rest hs')
      have hcomma : Passes (d + 1) s (',' :: (quoteChars n ++ ':' :: j.chars ++ fieldChars rest))
          (plain d) := by
        refine .cons (Nat.le_of_eq hs.depth_eq.symm) ?_
        rwa [hs.step_comma]
      simpa [fieldChars] using hcomma

end

theorem open_of_cut {fields : List (String × Json)} {torn cut : List Char}
    (htext : torn ++ cut = (Json.obj fields).chars) (htorn : torn ≠ []) (hcut : cut ≠ []) :
    1 ≤ ((plain 0).run torn).depth := by
  obtain ⟨inside, hchars, hinside⟩ := passes_obj fields 0
  obtain ⟨c, front, rfl⟩ := List.exists_cons_of_ne_nil htorn
  rw [hchars, List.cons_append] at htext
  obtain ⟨rfl, rfl⟩ := List.cons.inj htext
  exact hinside.keeps.le_depth hcut

end Workplan.Json
