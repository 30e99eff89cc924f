/-
# `Workplan.Proofs.Text.Bytes` — lines of bytes and lines of text

The byte of a line feed begins and ends a character of its own: no longer character holds it.  So
bytes can be cut into lines before they are read as text, or afterwards (`lineBytes_encode`), and
bytes are text as a whole exactly when every line of them is (`exists_encode_iff`).
-/
import Workplan.Proofs.Text.Lines

namespace Workplan.Text

/-! ## Characters and bytes -/

theorem fromUTF8?_toUTF8 (s : String) : String.fromUTF8? s.toUTF8 = some s := by
  rw [String.toUTF8_eq_toByteArray, String.fromUTF8?, dif_pos s.isValidUTF8]
  rfl

theorem toUTF8_append (s t : String) : (s ++ t).toUTF8 = s.toUTF8 ++ t.toUTF8 := by
  simp only [String.toUTF8_eq_toByteArray, String.toByteArray_append]

/-- The bytes of characters. -/
def encode (cs : List Char) : List UInt8 := cs.flatMap String.utf8EncodeChar

/-- The text that bytes hold, if they hold one. -/
def decode? (bytes : List UInt8) : Option String := String.fromUTF8? bytes.toByteArray

variable {bytes : List UInt8} {cs : List Char} {s : String}

theorem encode_append (cs ds : List Char) : encode (cs ++ ds) = encode cs ++ encode ds :=
  List.flatMap_append

theorem encode_singleton (c : Char) : encode [c] = String.utf8EncodeChar c := List.append_nil _

theorem encode_cons_ne_nil (c : Char) (cs : List Char) : encode (c :: cs) ≠ [] := by
  rw [encode, List.flatMap_cons]
  exact List.append_ne_nil_of_left_ne_nil String.utf8EncodeChar_ne_nil _

theorem toUTF8_eq_encode (s : String) : s.toUTF8 = (encode s.toList).toByteArray := by
  rw [String.toUTF8_eq_toByteArray, ← String.utf8Encode_toList]
  rfl

theorem toList_loop_eq (bytes : ByteArray) (i : Nat) (read : List UInt8) :
    ByteArray.toList.loop bytes i read = read.reverse ++ bytes.data.toList.drop i := by
  fun_induction ByteArray.toList.loop bytes i read with
  | case1 i read h ih =>
      have hi : i < bytes.data.toList.length := by simpa using h
      rw [ih, List.drop_eq_getElem_cons hi]
      simp [ByteArray.get!, h]
  | case2 i read h =>
      rw [List.drop_eq_nil_of_le (by simpa using Nat.le_of_not_lt h), List.append_nil]

theorem toList_toUTF8 (s : String) : s.toUTF8.toList = encode s.toList := by
  rw [ByteArray.toList, toList_loop_eq, toUTF8_eq_encode, List.toList_data_toByteArray]
  rfl

theorem decode?_encode (cs : List Char) : decode? (encode cs) = some (String.ofList cs) := by
  have h := fromUTF8?_toUTF8 (String.ofList cs)
  rwa [toUTF8_eq_encode, String.toList_ofList] at h

theorem encode_injective : Function.Injective encode := by
  intro cs ds h
  have hdecoded := congrArg decode? h
  rw [decode?_encode, decode?_encode] at hdecoded
  exact String.ofList_injective (Option.some.inj hdecoded)

theorem eq_encode_of_decode? (h : decode? bytes = some s) : bytes = encode s.toList := by
  unfold decode? String.fromUTF8? at h
  split at h
  · rename_i hvalid
    have hbytes := toUTF8_eq_encode (String.fromUTF8 bytes.toByteArray hvalid)
    rw [String.toUTF8_eq_toByteArray] at hbytes
    have hlist := congrArg (fun b : ByteArray => b.data.toList) hbytes
    simp only [List.toList_data_toByteArray] at hlist
    cases h
    rw [← hlist]
    exact List.toList_data_toByteArray.symm
  · cases h

theorem eq_of_mem_utf8EncodeChar {c : Char} {b : UInt8} (hb : b.toNat < 128)
    (h : b ∈ String.utf8EncodeChar c) : String.utf8EncodeChar c = [b] ∧ c.toNat = b.toNat := by
  have hvalue : c.toNat = c.val.toNat := rfl
  rw [String.utf8EncodeChar.eq_1] at h ⊢
  split at h
  · rename_i hsmall
    obtain rfl := List.mem_singleton.mp h
    rw [if_pos hsmall, hvalue, UInt8.toNat_ofNat_of_lt' (Nat.lt_of_le_of_lt hsmall (by decide))]
    exact ⟨rfl, rfl⟩
  · -- every byte of a longer character has its highest bit set
    exfalso
    split at h
    · simp only [List.mem_cons, List.not_mem_nil, or_false] at h
      rcases h with rfl | rfl <;> simp at hb <;> omega
    · split at h
      · simp only [List.mem_cons, List.not_mem_nil, or_false] at h
        rcases h with rfl | rfl | rfl <;> simp at hb <;> omega
      · simp only [List.mem_cons, List.not_mem_nil, or_false] at h
        rcases h with rfl | rfl | rfl | rfl <;> simp at hb <;> omega

theorem lineFeed_of_mem_encode (h : 10 ∈ encode cs) : '\n' ∈ cs := by
  obtain ⟨c, hc, hmem⟩ := List.mem_flatMap.mp h
  have hvalue : c.toNat = '\n'.toNat := (eq_of_mem_utf8EncodeChar (by decide) hmem).2
  rwa [Char.toNat_inj.mp hvalue] at hc

/-! ## Lines -/

/-- A line of bytes without the carriage return at its end. -/
def dropReturn (line : List UInt8) : List UInt8 :=
  if line.getLast? = some 13 then line.dropLast else line

/-- The lines of bytes. -/
def lineBytes (bytes : List UInt8) : List (List UInt8) :=
  let pieces := bytes.splitOn 10
  let closed := pieces.dropLast.map dropReturn
  match pieces.getLast? with
  | some (b :: rest) => closed ++ [b :: rest]
  | _ => closed

theorem dropReturn_encode (cs : List Char) :
    dropReturn (encode cs) = encode (dropCarriageReturn cs) := by
  rcases List.eq_nil_or_concat cs with rfl | ⟨front, c, rfl⟩
  · rfl
  · rw [List.concat_eq_append]
    by_cases hc : c = '\r'
    · subst hc
      have hbytes : encode (front ++ ['\r']) = encode front ++ [13] := by
        rw [encode_append]
        rfl
      simp [dropReturn, dropCarriageReturn, hbytes]
    · have hlast : (encode (front ++ [c])).getLast? ≠ some 13 := by
        intro hlast
        rw [encode_append, List.getLast?_append, encode_singleton,
          List.getLast?_eq_some_getLast String.utf8EncodeChar_ne_nil, Option.some_or,
          ← List.getLast?_eq_some_getLast] at hlast
        have hvalue : c.toNat = '\r'.toNat :=
          (eq_of_mem_utf8EncodeChar (by decide) (List.mem_of_getLast? hlast)).2
        exact hc (Char.toNat_inj.mp hvalue)
      rw [dropReturn, if_neg hlast]
      simp [dropCarriageReturn, hc]

theorem encode_intercalate (pieces : List (List Char)) :
    encode (['\n'].intercalate pieces) = [10].intercalate (pieces.map encode) := by
  induction pieces with
  | nil => rfl
  | cons piece pieces ih =>
      cases pieces with
      | nil => simp
      | cons next pieces =>
          rw [List.map_cons] at ih ⊢
          rw [List.map_cons, List.intercalate_cons_cons, List.intercalate_cons_cons, encode_append,
            encode_append, ih]
          rfl

theorem lineFeed_notMem_of_mem_splitLineFeeds {piece : List Char}
    (h : piece ∈ splitLineFeeds cs) : '\n' ∉ piece := by
  induction cs generalizing piece with
  | nil =>
      rw [List.mem_singleton.mp h]
      exact List.not_mem_nil
  | cons c cs ih =>
      by_cases hc : c = '\n'
      · subst hc
        rcases List.mem_cons.mp h with rfl | h
        · exact List.not_mem_nil
        · exact ih h
      · obtain ⟨first, more, hpieces⟩ := List.exists_cons_of_ne_nil (splitLineFeeds_ne_nil cs)
        rw [splitLineFeeds.eq_3 _ _ hc, hpieces] at h
        rw [hpieces] at ih
        rcases List.mem_cons.mp h with rfl | h
        · rw [List.mem_cons, not_or]
          exact ⟨Ne.symm hc, ih List.mem_cons_self⟩
        · exact ih (List.mem_cons_of_mem _ h)

theorem splitOn_encode (cs : List Char) :
    (encode cs).splitOn 10 = (splitLineFeeds cs).map encode := by
  have hcs : ['\n'].intercalate (splitLineFeeds cs) = cs := by
    rw [splitLineFeeds_eq_splitOn, List.intercalate_splitOn]
  have hpieces : ∀ piece ∈ (splitLineFeeds cs).map encode, 10 ∉ piece := by
    simp only [List.forall_mem_map]
    exact fun piece hpiece hmem =>
      lineFeed_notMem_of_mem_splitLineFeeds hpiece (lineFeed_of_mem_encode hmem)
  have hsplit := List.splitOn_intercalate 10 hpieces
    (mt List.map_eq_nil_iff.mp (splitLineFeeds_ne_nil cs))
  rwa [← encode_intercalate, hcs] at hsplit

theorem lineBytes_encode (cs : List Char) : lineBytes (encode cs) = (lineChars cs).map encode := by
  have hdropped : dropReturn ∘ encode = encode ∘ dropCarriageReturn := funext dropReturn_encode
  simp only [lineBytes, lineChars, splitOn_encode, ← List.map_dropLast, List.map_map, hdropped,
    List.getLast?_map]
  cases hlast : (splitLineFeeds cs).getLast? with
  | none => simp
  | some piece =>
      cases piece with
      | nil => simp [encode]
      | cons c piece =>
          obtain ⟨b, rest, hbytes⟩ := List.exists_cons_of_ne_nil (encode_cons_ne_nil c piece)
          simp [hbytes]

/-! ### Bytes that are text line by line -/

theorem exists_encode_of_dropReturn {line : List UInt8} (h : dropReturn line = encode cs) :
    ∃ ds, line = encode ds := by
  unfold dropReturn at h
  split at h
  · rename_i hlast
    obtain ⟨front, rfl⟩ := List.getLast?_eq_some_iff.mp hlast
    rw [List.dropLast_concat] at h
    refine ⟨cs ++ ['\r'], ?_⟩
    rw [encode_append, ← h]
    rfl
  · exact ⟨cs, h⟩

theorem exists_encode_intercalate {pieces : List (List UInt8)}
    (h : ∀ piece ∈ pieces, ∃ cs, piece = encode cs) :
    ∃ cs, [10].intercalate pieces = encode cs := by
  induction pieces with
  | nil => exact ⟨[], rfl⟩
  | cons piece pieces ih =>
      obtain ⟨⟨cs, rfl⟩, hrest⟩ := List.forall_mem_cons.mp h
      cases pieces with
      | nil => exact ⟨cs, List.intercalate_singleton⟩
      | cons next pieces =>
          obtain ⟨ds, hds⟩ := ih hrest
          refine ⟨cs ++ ['\n'] ++ ds, ?_⟩
          rw [List.intercalate_cons_cons, hds, encode_append, encode_append]
          rfl

/-- Bytes all of whose lines are text are text. -/
theorem exists_encode_of_lines (h : ∀ line ∈ lineBytes bytes, ∃ cs, line = encode cs) :
    ∃ cs, bytes = encode cs := by
  have hbytes : [10].intercalate (bytes.splitOn 10) = bytes := List.intercalate_splitOn 10
  rw [← hbytes]
  apply exists_encode_intercalate
  obtain ⟨closed, last, hpieces⟩ : ∃ closed last, bytes.splitOn 10 = closed ++ [last] :=
    ⟨_, _, (List.dropLast_concat_getLast (List.splitOn_ne_nil 10 bytes)).symm⟩
  simp only [lineBytes, hpieces, List.dropLast_concat, List.getLast?_concat] at h
  rw [hpieces]
  intro piece hpiece
  rcases List.mem_append.mp hpiece with hclosed | hlast
  · have hline : dropReturn piece ∈ closed.map dropReturn := List.mem_map_of_mem hclosed
    obtain ⟨cs, hcs⟩ := h (dropReturn piece) (by
      split
      · exact List.mem_append_left _ hline
      · exact hline)
    exact exists_encode_of_dropReturn hcs
  · obtain rfl := List.mem_singleton.mp hlast
    cases piece with
    | nil => exact ⟨[], rfl⟩
    | cons b piece => exact h (b :: piece) (List.mem_append_right _ List.mem_cons_self)

end Workplan.Text
