/-
# `Workplan.Json.Printer` — the text of JSON data

Two layouts: compact, without any blank, and indented by two spaces a level.  In both a string
escapes only the quote, the backslash and the characters below U+0020, and an object keeps the
order of its fields.
-/
import Workplan.Json.Basic

namespace Workplan.Json

/-- A hexadecimal digit in lower case. -/
def hexDigit (n : Nat) : Char := (Nat.digitChar n)

/-- The characters of one character of a string. -/
def escapeChar (c : Char) : List Char :=
  if c = '"' then ['\\', '"']
  else if c = '\\' then ['\\', '\\']
  else if c = '\x08' then ['\\', 'b']
  else if c = '\t' then ['\\', 't']
  else if c = '\n' then ['\\', 'n']
  else if c = '\x0c' then ['\\', 'f']
  else if c = '\r' then ['\\', 'r']
  else if c.toNat < 0x20 then
    ['\\', 'u', '0', '0', hexDigit (c.toNat / 16), hexDigit (c.toNat % 16)]
  else [c]

/-- A string between quotes. -/
def quoteChars (s : String) : List Char :=
  '"' :: s.toList.flatMap escapeChar ++ ['"']

mutual

/-- The compact layout. -/
def chars : Json → List Char
  | .null => ['n', 'u', 'l', 'l']
  | .bool true => ['t', 'r', 'u', 'e']
  | .bool false => ['f', 'a', 'l', 's', 'e']
  | .num n => n.chars
  | .str s => quoteChars s
  | .arr [] => ['[', ']']
  | .arr (j :: rest) => '[' :: j.chars ++ itemChars rest
  | .obj [] => ['\x7b', '\x7d']
  | .obj ((n, j) :: rest) => '\x7b' :: quoteChars n ++ ':' :: j.chars ++ fieldChars rest

/-- The items after the first one, to the closing bracket. -/
def itemChars : List Json → List Char
  | [] => [']']
  | j :: rest => ',' :: j.chars ++ itemChars rest

/-- The fields after the first one, to the closing brace. -/
def fieldChars : List (String × Json) → List Char
  | [] => ['\x7d']
  | (n, j) :: rest => ',' :: quoteChars n ++ ':' :: j.chars ++ fieldChars rest

end

/-- The compact text. -/
def compact (j : Json) : String := String.ofList j.chars

/-- A line break and the blanks of a level. -/
def breakLine (level : Nat) : List Char := '\n' :: List.replicate (2 * level) ' '

mutual

/-- The indented layout, inside a given level. -/
def indentedChars (level : Nat) : Json → List Char
  | .arr (j :: rest) =>
    '[' :: breakLine (level + 1) ++ j.indentedChars (level + 1) ++ indentedItems level rest
  | .obj ((n, j) :: rest) =>
    '\x7b' :: breakLine (level + 1) ++ quoteChars n ++ ':' :: ' ' :: j.indentedChars (level + 1) ++
      indentedFields level rest
  | j => j.chars

/-- The items after the first one, each on a line, to the closing bracket. -/
def indentedItems (level : Nat) : List Json → List Char
  | [] => breakLine level ++ [']']
  | j :: rest =>
    ',' :: breakLine (level + 1) ++ j.indentedChars (level + 1) ++ indentedItems level rest

/-- The fields after the first one, each on a line, to the closing brace. -/
def indentedFields (level : Nat) : List (String × Json) → List Char
  | [] => breakLine level ++ ['\x7d']
  | (n, j) :: rest =>
    ',' :: breakLine (level + 1) ++ quoteChars n ++ ':' :: ' ' :: j.indentedChars (level + 1) ++
      indentedFields level rest

end

/-- The indented text. -/
def indented (j : Json) : String := String.ofList (j.indentedChars 0)

end Workplan.Json
