/-
# `Workplan.Text.Blank` — blank characters and trimming

A character is blank when it has the Unicode property `White_Space`.  Keys, names and script
output are trimmed by this set, never by the ASCII one: a no-break space at the end of a key
is cut, a zero-width space is kept.
-/

namespace Workplan.Text

/-- The characters with the Unicode property `White_Space`. -/
def isBlank (c : Char) : Bool :=
  let n := c.toNat
  (0x9 ≤ n && n ≤ 0xD) || n == 0x20 || n == 0x85 || n == 0xA0 || n == 0x1680 ||
    (0x2000 ≤ n && n ≤ 0x200A) || n == 0x2028 || n == 0x2029 || n == 0x202F ||
    n == 0x205F || n == 0x3000

/-- A list of characters without the blanks at both of its ends. -/
def trimChars (cs : List Char) : List Char :=
  (cs.dropWhile isBlank).reverse.dropWhile isBlank |>.reverse

/-- A text without the blanks at both of its ends. -/
def trim (s : String) : String :=
  String.ofList (trimChars s.toList)

/-- A text that holds nothing but blanks. -/
def allBlank (s : String) : Bool :=
  s.toList.all isBlank

end Workplan.Text
