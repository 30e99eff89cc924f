/-
# `Workplan.Shell.Cursor` — going through the characters of a script

What a reader of scripts needs before it knows about commands: its position, the characters that
end words, the tokens at which faults are reported, and the texts that end at a closing mark.
-/
import Workplan.Shell.Syntax

namespace Workplan.Shell

/-- A document that was announced, and whose lines follow the line that is being read. -/
structure Announced where
  number : Nat
  delimiter : String
  literal : Bool
  stripTabs : Bool

/-- What is left of a script, and what has been read of it. -/
structure Reader where
  rest : List Char
  line : Nat := 1
  announced : List Announced := []
  documents : Array Word := #[]

abbrev Reading := StateT Reader (Except ScriptFault)

/-! ## Characters -/

/-- The characters that end a word. -/
def isMeta (c : Char) : Bool :=
  c == ' ' || c == '\t' || c == '\n' || c == ';' || c == '&' || c == '|' || c == '(' ||
    c == ')' || c == '<' || c == '>'

def isNameStart (c : Char) : Bool := c.isAlpha || c == '_'

def isNameChar (c : Char) : Bool := c.isAlphanum || c == '_'

/-- Whether a text can name a variable. -/
def isName (s : String) : Bool :=
  match s.toList with
  | c :: rest => isNameStart c && rest.all isNameChar
  | [] => false

/-- The parameters that are named by one special character. -/
def isSpecial (c : Char) : Bool :=
  c == '?' || c == '$' || c == '#' || c == '@' || c == '*' || c == '!' || c == '-'

namespace Reader

def look (text : String) : Reading Bool := do
  pure (text.toList.isPrefixOf (← get).rest)

def head? : Reading (Option Char) := do pure (← get).rest.head?

/-- Goes on behind a number of characters. -/
def skip (n : Nat) : Reading Unit :=
  modify fun r =>
    { r with rest := r.rest.drop n, line := r.line + (r.rest.take n).count '\n' }

/-- Reads the longest run of characters of one kind. -/
def span (p : Char → Bool) : Reading (List Char) := do
  let cs := (← get).rest.takeWhile p
  skip cs.length
  pure cs

def failAtEnd {α : Type} : Reading α := do
  let r ← get
  throw (.endOfScript (r.line + 1))

/-- What stands before blanks, continued lines and a comment, with the lines that were passed. -/
def dropBlanks : List Char → Nat → List Char × Nat
  | '\\' :: '\n' :: rest, lines => dropBlanks rest (lines + 1)
  | '#' :: rest, lines => (rest.dropWhile (· != '\n'), lines)
  | c :: rest, lines => if c == ' ' || c == '\t' then dropBlanks rest lines else (c :: rest, lines)
  | [], lines => ([], lines)

def skipBlanks : Reading Unit :=
  modify fun r =>
    let (rest, lines) := dropBlanks r.rest 0
    { r with rest, line := r.line + lines }

/-- The operators, a longer one before those that it begins with. -/
def operators : List String :=
  ["&&", "||", ";;", "<<<", "<<-", "<<", ">>", "<&", ">&", "<>", ">|", "&>>", "&>", "|&", "((",
    "))", ";", "&", "|", "(", ")", "<", ">"]

/-- The token at which a fault is reported. -/
def token (rest : List Char) : String :=
  match rest with
  | '\n' :: _ => "newline"
  | _ =>
    match operators.find? fun o => o.toList.isPrefixOf rest with
    | some o => o
    | none => String.ofList (rest.takeWhile fun c => !isMeta c)

/-- The fault of a token that does not belong here. -/
def unexpected {α : Type} : Reading α := do
  let r ← get
  if r.rest.isEmpty then failAtEnd else throw (.unexpected r.line (token r.rest))

/-- The same where the end of a line does not belong either: the last line ends like all others. -/
def unexpectedHere {α : Type} : Reading α := do
  let r ← get
  if r.rest.isEmpty then throw (.unexpected r.line "newline") else unexpected

/-- The word that follows, if nothing in it is quoted or expanded. -/
def plainWord : Reading String := do
  pure (String.ofList ((← get).rest.takeWhile fun c => !isMeta c))

def expect (text : String) : Reading Unit := do
  skipBlanks
  if ← look text then skip text.length else unexpected

/-- Reads a word that has a meaning of its own. -/
def expectWord (text : String) : Reading Unit := do
  skipBlanks
  if (← plainWord) = text then skip text.length else unexpected

/-! ## Pieces without nesting -/

/-- What stands before the closing quote, where a backslash hides the character after it. -/
def untilQuote : List Char → Option (List Char)
  | [] => none
  | '\'' :: _ => some []
  | '\\' :: c :: rest => (untilQuote rest).map fun cs => '\\' :: c :: cs
  | c :: rest => (untilQuote rest).map (c :: ·)

/-- What stands before the closing backquote, as it is written and as it is meant. -/
def untilBackquote : List Char → Option (Nat × List Char)
  | [] => none
  | '`' :: _ => some (1, [])
  | '\\' :: c :: rest =>
    (untilBackquote rest).map fun (n, cs) =>
      (n + 2, if c == '`' || c == '\\' || c == '$' then c :: cs else '\\' :: c :: cs)
  | c :: rest => (untilBackquote rest).map fun (n, cs) => (n + 1, c :: cs)

/-- What stands before two closing parentheses that close nothing else. -/
def untilParentheses : Nat → List Char → Option (List Char)
  | _, [] => none
  | 0, ')' :: ')' :: _ => some []
  | 0, ')' :: _ => none
  | depth + 1, ')' :: rest => (untilParentheses depth rest).map (')' :: ·)
  | depth, '(' :: rest => (untilParentheses (depth + 1) rest).map ('(' :: ·)
  | depth, c :: rest => (untilParentheses depth rest).map (c :: ·)

def text (cs : List Char) (quoted : Bool) : Piece := .text (bytesOf (String.ofList cs)) quoted

/-- The lines of a document up to its delimiter, and what follows it. -/
def takeDocument (a : Announced) : Nat → List Char → List Char × List Char
  | 0, rest => ([], rest)
  | n + 1, rest =>
    if rest.isEmpty then ([], [])
    else
      let line := rest.takeWhile (· != '\n')
      let more := (rest.drop line.length).drop 1
      let line := if a.stripTabs then line.dropWhile (· == '\t') else line
      if String.ofList line = a.delimiter then ([], more)
      else
        let (lines, after) := takeDocument a n more
        (line ++ '\n' :: lines, after)

end Reader

end Workplan.Shell
