/-
# `Workplan.Yaml.Cursor` — a place in a YAML text

A cursor holds the text that is left and says where it begins.  Lines end with a carriage return,
a line feed, both, or one of three further characters; a break that is read counts as a line feed,
but for the line and paragraph separators, which stay as they are.
-/
import Workplan.Text.Blank

namespace Workplan.Yaml

/-- Characters that a text may hold. -/
def isAllowed (c : Char) : Bool :=
  let n := c.toNat
  n == 0x9 || n == 0xA || n == 0xD || (0x20 ≤ n && n ≤ 0x7E) || n == 0x85 ||
    (0xA0 ≤ n && n ≤ 0xD7FF) || (0xE000 ≤ n && n ≤ 0xFFFD) || 0x10000 ≤ n

def isBreak (c : Char) : Bool :=
  c = '\r' || c = '\n' || c = '\u0085' || c = '\u2028' || c = '\u2029'

def isBlank (c : Char) : Bool := c = ' ' || c = '\t'

/-- Characters of names: letters and digits of ASCII, the hyphen and the underscore. -/
def isNameChar (c : Char) : Bool := c.isAlphanum || c = '-' || c = '_'

/-- The text that is left, and its place. -/
structure Cursor where
  rest : List Char
  index : Nat := 0
  line : Nat := 0
  column : Nat := 0
deriving Inhabited

namespace Cursor

def ofText (text : String) : Cursor := { rest := text.toList }

def peek? (c : Cursor) : Option Char := c.rest.head?

/-- The character some places ahead. -/
def ahead? (c : Cursor) (n : Nat) : Option Char := c.rest[n]?

/-- Whether a character comes next. -/
def at? (c : Cursor) (ch : Char) : Bool := c.peek? = some ch

/-- Whether a blank, a break or the end stands some places ahead. -/
def gapAhead (c : Cursor) (n : Nat) : Bool :=
  match c.ahead? n with
  | none => true
  | some ch => isBlank ch || isBreak ch

/-- Whether a break or the end comes next. -/
def atLineEnd (c : Cursor) : Bool :=
  match c.peek? with
  | none => true
  | some ch => isBreak ch

def atBlank (c : Cursor) : Bool := c.peek?.any isBlank

def atBreak (c : Cursor) : Bool := c.peek?.any isBreak

/-- The cursor after so many characters of the same line. -/
def skip (c : Cursor) (n : Nat) : Cursor :=
  { c with rest := c.rest.drop n, index := c.index + n, column := c.column + n }

/-- The cursor after the characters of a kind, none of which is a break. -/
def skipWhile (c : Cursor) (p : Char → Bool) : Cursor := c.skip (c.rest.takeWhile p).length

/-- Reads a break, if one comes next. -/
def readBreak (c : Cursor) : List Char × Cursor :=
  let next (n : Nat) (rest : List Char) : Cursor := ⟨rest, c.index + n, c.line + 1, 0⟩
  match c.rest with
  | '\r' :: '\n' :: rest => (['\n'], next 2 rest)
  | '\u2028' :: rest => (['\u2028'], next 1 rest)
  | '\u2029' :: rest => (['\u2029'], next 1 rest)
  | ch :: rest => if isBreak ch then (['\n'], next 1 rest) else ([], c)
  | [] => ([], c)

/-- The cursor after a break, if one comes next. -/
def skipBreak (c : Cursor) : Cursor := c.readBreak.2

/-- Whether a line begins here with three marks that stand alone. -/
def atMarks (c : Cursor) (mark : Char) : Bool :=
  c.column = 0 && c.rest.take 3 = [mark, mark, mark] && c.gapAhead 3

/-- Whether a line begins here that starts or ends a document. -/
def atDocumentMarks (c : Cursor) : Bool := c.atMarks '-' || c.atMarks '.'

/-- The cursor after blanks and a comment. -/
def skipComment (c : Cursor) : Cursor :=
  if c.at? '#' then c.skipWhile fun ch => !isBreak ch else c

end Cursor

end Workplan.Yaml
