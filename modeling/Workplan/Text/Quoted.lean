/-
# `Workplan.Text.Quoted` — texts quoted for a reader

A quoted text stands between double quotes.  The quote, the backslash, NUL, tab and the line ends
have short escapes; a character that does not show by itself, or that would join the one before,
is written as `\u` with its code point in braces.
-/
import Workplan.Text.Category

namespace Workplan.Text

/-- The characters that stand for one character of a quoted text. -/
def quoteChar (c : Char) : List Char :=
  if c = '"' then ['\\', '"']
  else if c = '\\' then ['\\', '\\']
  else if c = '\x00' then ['\\', '0']
  else if c = '\t' then ['\\', 't']
  else if c = '\r' then ['\\', 'r']
  else if c = '\n' then ['\\', 'n']
  else if ' ' ≤ c && c ≤ '~' then [c]
  else if Category.isExtending c || !Category.isVisible c then
    '\\' :: 'u' :: '\x7b' :: Nat.toDigits 16 c.toNat ++ ['\x7d']
  else [c]

/-- A text between double quotes. -/
def quoted (s : String) : String :=
  String.ofList ('"' :: s.toList.flatMap quoteChar ++ ['"'])

/-- A list of quoted texts between brackets. -/
def quotedList (ss : List String) : String := "[" ++ ", ".intercalate (ss.map quoted) ++ "]"

end Workplan.Text
