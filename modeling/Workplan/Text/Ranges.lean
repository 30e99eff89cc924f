/-
# `Workplan.Text.Ranges` — sets of characters as ranges of code points

A set of characters is an array of disjoint ranges in increasing order.  Tables write the ranges
in hexadecimal, a single code point alone and a range with a hyphen between its ends.
-/

namespace Workplan.Text

/-- Disjoint ranges of code points in increasing order, ends included. -/
structure Ranges where
  pairs : Array (Nat × Nat)

namespace Ranges

instance : Inhabited Ranges := ⟨⟨#[]⟩⟩

/-- The value of a hexadecimal digit in upper case. -/
def hexDigit? (c : Char) : Option Nat :=
  if '0' ≤ c && c ≤ '9' then some (c.toNat - '0'.toNat)
  else if 'A' ≤ c && c ≤ 'F' then some (c.toNat - 'A'.toNat + 10)
  else none

/-- The number that a hexadecimal numeral denotes. -/
def hex? (word : String) : Option Nat :=
  word.toList.foldlM (fun n c => (hexDigit? c).map (16 * n + ·)) 0

/-- The range that a word of a table denotes. -/
def ofWord? (word : String) : Option (Nat × Nat) :=
  match word.splitOn "-" with
  | [single] => (hex? single).map fun n => (n, n)
  | [first, last] => do some (← hex? first, ← hex? last)
  | _ => none

/-- The set that a table denotes. -/
def ofText (table : String) : Ranges := ⟨((table.splitOn " ").filterMap ofWord?).toArray⟩

/-- The index of the first range from `low` on, below `high`, that ends at `n` or later. -/
def locate (pairs : Array (Nat × Nat)) (n : Nat) : Nat → Nat → Nat → Nat
  | 0, low, _ => low
  | steps + 1, low, high =>
    if low < high then
      let mid := (low + high) / 2
      match pairs[mid]? with
      | some (_, last) =>
        if last < n then locate pairs n steps (mid + 1) high else locate pairs n steps low mid
      | none => low
    else low

/-- Whether the set holds a character. -/
def contains (r : Ranges) (c : Char) : Bool :=
  let n := c.toNat
  match r.pairs[locate r.pairs n (r.pairs.size.log2 + 2) 0 r.pairs.size]? with
  | some (first, last) => first ≤ n && n ≤ last
  | none => false

end Ranges

end Workplan.Text
