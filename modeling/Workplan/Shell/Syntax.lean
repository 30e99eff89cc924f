/-
# `Workplan.Shell.Syntax` — scripts as trees

A script is a list of commands.  The words of a command are made of pieces: text, and expansions
that are known only when the command runs.  Every piece remembers whether it stands in quotes,
because only what is not quoted is split into fields and matched against file names.
-/

namespace Workplan.Shell

/-- Scripts and the programs that they run work on bytes. -/
abbrev Bytes := List UInt8

/-- The bytes of a text. -/
def bytesOf (s : String) : Bytes := s.toUTF8.toList

/-- The byte of an ASCII character. -/
def byteOf (c : Char) : UInt8 := c.toNat.toUInt8

/-- Which end of a value a pattern is cut from. -/
inductive Side where
  | front
  | back
deriving DecidableEq

/-- Which matches of a pattern are replaced: one anywhere, all, or one that begins or ends the
value. -/
inductive Reach where
  | first
  | every
  | atFront
  | atBack
deriving DecidableEq

mutual

/-- A piece of a word. -/
inductive Piece where
  | text (bytes : Bytes) (quoted : Bool)
  | parameter (name : String) (use : Use) (quoted : Bool)
  | output (script : Command) (quoted : Bool)
  | arithmetic (expression : List Piece) (quoted : Bool)

/-- What is done with the value of a parameter.  `orEmpty` tells whether an empty value counts as
none. -/
inductive Use where
  | plain
  | length
  | orElse (orEmpty : Bool) (word : List Piece)
  | orAssign (orEmpty : Bool) (word : List Piece)
  | orFail (orEmpty : Bool) (word : List Piece)
  | ifSet (orEmpty : Bool) (word : List Piece)
  | cut (side : Side) (longest : Bool) (pattern : List Piece)
  | replace (reach : Reach) (pattern replacement : List Piece)
  | slice (offset : List Piece) (length : Option (List Piece))
  | changeCase (upper all : Bool)

/-- How a command is run. -/
inductive Command where
  | simple (line : Nat) (assignments : List (String × Bool × List Piece))
      (words : List (List Piece)) (redirects : List (Nat × Redirect))
  | pipeline (negated : Bool) (commands : List Command)
  | both (first second : Command)
  | either (first second : Command)
  | sequence (commands : List Command)
  | subshell (body : Command)
  | background (body : Command)
  | redirected (body : Command) (redirects : List (Nat × Redirect))
  | branch (clauses : List (Command × Command)) (otherwise : Option Command)
  | loop (untilTrue : Bool) (condition body : Command)
  | forEach (name : String) (words : Option (List (List Piece))) (body : Command)
  | forCount (start condition step : List Piece) (body : Command)
  | choose (subject : List Piece) (cases : List (List (List Piece) × Command))
  | define (name : String) (body : Command)
  | arithmetic (line : Nat) (expression : List Piece)
  | test (line : Nat) (condition : Condition)

/-- Where a descriptor is connected to. -/
inductive Redirect where
  | input (file : List Piece)
  | output (file : List Piece)
  | append (file : List Piece)
  | copy (descriptor : List Piece)
  | document (number : Nat)
  | text (word : List Piece)

/-- A condition between double brackets. -/
inductive Condition where
  | word (word : List Piece)
  | unary (operator : String) (word : List Piece)
  | binary (operator : String) (left right : List Piece)
  | not (condition : Condition)
  | both (first second : Condition)
  | either (first second : Condition)

end

/-- A word. -/
abbrev Word := List Piece

instance : Inhabited Piece := ⟨.text [] false⟩
instance : Inhabited Command := ⟨.sequence []⟩

/-- Why a text is no script. -/
inductive ScriptFault where
  | unexpected (line : Nat) (token : String)
  | endOfScript (line : Nat)
  | unclosed (line : Nat) (quote : Char)
  | badSubstitution (line : Nat) (text : String)
deriving DecidableEq

/-- A script as far as it can be read: its lines of commands in order, the documents that stand in
it, and the fault that ended the reading. -/
structure Script where
  lines : List Command
  documents : Array Word
  fault : Option ScriptFault

end Workplan.Shell
