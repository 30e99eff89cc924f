/-
# `Workplan.Pattern.CharClass` — sets of characters in patterns

A class is a set of code points, given by its members, with a count of the ranges that it is
written with; the count is what the size of a pattern is estimated from.  Classes are combined by
the operations of sets, and closed under case before they are complemented, so that a negated
class excludes every case of its members.
-/
import Workplan.Text.Blank
import Workplan.Text.Category
import Workplan.Text.CaseFold

namespace Workplan.Pattern

/-- A set of code points, and how many ranges it takes to write it. -/
structure CharClass where
  contains : Nat → Bool
  pieces : Nat

namespace CharClass

/-- The class without members. -/
def none : CharClass := ⟨fun _ => false, 0⟩

/-- The class of one range of code points, ends included. -/
def range (first last : Nat) : CharClass := ⟨fun n => first ≤ n && n ≤ last, 1⟩

def single (c : Char) : CharClass := range c.toNat c.toNat

/-- The class of the characters with a property, which takes this many ranges. -/
def ofProperty (p : Char → Bool) (pieces : Nat) : CharClass := ⟨fun n => p (Char.ofNat n), pieces⟩

/-- The class of a table. -/
def ofRanges (r : Text.Ranges) : CharClass := ofProperty r.contains r.pairs.size

/-- The members of either class. -/
def union (s t : CharClass) : CharClass :=
  ⟨fun n => s.contains n || t.contains n, s.pieces + t.pieces⟩

def unions (ss : List CharClass) : CharClass := ss.foldl union none

/-- The members of both classes. -/
def inter (s t : CharClass) : CharClass :=
  ⟨fun n => s.contains n && t.contains n, s.pieces + t.pieces⟩

/-- The members of the first class that are not in the second. -/
def diff (s t : CharClass) : CharClass :=
  ⟨fun n => s.contains n && !t.contains n, s.pieces + t.pieces⟩

/-- The members of exactly one of the classes. -/
def symmDiff (s t : CharClass) : CharClass :=
  ⟨fun n => s.contains n != t.contains n, s.pieces + t.pieces⟩

/-- All other code points. -/
def compl (s : CharClass) : CharClass := ⟨fun n => !s.contains n, s.pieces + 1⟩

/-- The letter of the other case, for the letters of ASCII. -/
def otherCase (n : Nat) : Nat :=
  if 0x41 ≤ n && n ≤ 0x5A then n + 0x20
  else if 0x61 ≤ n && n ≤ 0x7A then n - 0x20
  else n

/-- The class with every case of its members. -/
def foldCase (s : CharClass) : CharClass :=
  ⟨fun n => s.contains n || (Text.orbit (Char.ofNat n)).any fun c => s.contains c.toNat,
    3 * s.pieces⟩

/-- The class with both cases of its letters of ASCII. -/
def foldAsciiCase (s : CharClass) : CharClass :=
  ⟨fun n => s.contains n || s.contains (otherCase n), 2 * s.pieces⟩

/-- Whether no byte above the ASCII ones is a member. -/
def isAscii (s : CharClass) : Bool :=
  (List.range 128).all fun i => !s.contains (128 + i)

/-! ## Classes of ASCII -/

def digits : CharClass := range 0x30 0x39

def lower : CharClass := range 0x61 0x7A

def upper : CharClass := range 0x41 0x5A

def alpha : CharClass := lower.union upper

def alnum : CharClass := alpha.union digits

def word : CharClass := alnum.union (single '_')

/-- Tab, the four line ends and the space. -/
def space : CharClass := (range 0x09 0x0D).union (single ' ')

/-- The class of a name between `[:` and `:]`. -/
def ofAsciiName? (name : String) : Option CharClass :=
  match name with
  | "alnum" => some alnum
  | "alpha" => some alpha
  | "ascii" => some (range 0 0x7F)
  | "blank" => some ((single '\t').union (single ' '))
  | "cntrl" => some ((range 0 0x1F).union (range 0x7F 0x7F))
  | "digit" => some digits
  | "graph" => some (range 0x21 0x7E)
  | "lower" => some lower
  | "print" => some (range 0x20 0x7E)
  | "punct" =>
    some (unions [range 0x21 0x2F, range 0x3A 0x40, range 0x5B 0x60, range 0x7B 0x7E])
  | "space" => some space
  | "upper" => some upper
  | "word" => some word
  | "xdigit" => some (unions [digits, range 0x61 0x66, range 0x41 0x46])
  | _ => Option.none

/-! ## Classes of all characters -/

/-- Decimal digits of every script. -/
def anyDigit : CharClass := ofRanges Text.Category.decimalNumber

/-- Characters of words in every script. -/
def anyWord : CharClass := ofProperty Text.Category.isWord 796

/-- Blank characters. -/
def anySpace : CharClass := ofProperty Text.isBlank 10

end CharClass

end Workplan.Pattern
