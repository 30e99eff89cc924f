/-
# `Workplan.Yaml.Scalar` — the texts of scalars

Five ways to write a text: plain, between single or double quotes, and as a literal or folded
block.  In all but the literal block one line break between lines counts as a space, and of more
breaks the first is dropped.  Each reader takes the cursor at the beginning of the scalar and gives
its text and the cursor after it, or nothing if the scalar is broken.
-/
import Workplan.Yaml.Cursor

namespace Workplan.Yaml

/-- How a scalar is written. -/
inductive Style where
  | plain
  | singleQuoted
  | doubleQuoted
  | literal
  | folded
deriving DecidableEq

/-- The gap between two parts of a scalar: blanks, or breaks with blanks around them. -/
structure Gap where
  broken : Bool := false
  blanks : List Char := []
  firstBreak : List Char := []
  breaks : List Char := []

/-- What a gap contributes to the text. -/
def Gap.fold (g : Gap) : List Char :=
  if !g.broken then g.blanks
  else if g.firstBreak = ['\n'] then (if g.breaks.isEmpty then [' '] else g.breaks)
  else g.firstBreak ++ g.breaks

/-- Reads blanks and breaks.  After a break a tab before the column `least` is refused. -/
def readGap (least : Nat) : Nat → Gap → Cursor → Option (Gap × Cursor)
  | 0, _, _ => none
  | fuel + 1, g, c =>
    match c.peek? with
    | none => some (g, c)
    | some ch =>
      if isBlank ch then
        if g.broken then
          if ch = '\t' && c.column < least then none else readGap least fuel g (c.skip 1)
        else readGap least fuel { g with blanks := g.blanks ++ [ch] } (c.skip 1)
      else if isBreak ch then
        let (br, next) := c.readBreak
        if g.broken then readGap least fuel { g with breaks := g.breaks ++ br } next
        else readGap least fuel { g with broken := true, blanks := [], firstBreak := br } next
      else some (g, c)

/-! ## Plain scalars -/

/-- Whether a plain scalar ends at this character. -/
def endsPlain (flow : Bool) (c : Cursor) : Bool :=
  match c.peek? with
  | none => true
  | some ch =>
    isBlank ch || isBreak ch || (ch = ':' && c.gapAhead 1) ||
      (flow && [',', '[', ']', '\x7b', '\x7d'].contains ch)

/-- A colon before a flow indicator, which a plain scalar inside a flow collection must not
hold. -/
def strayColon (flow : Bool) (c : Cursor) : Bool :=
  flow && c.at? ':' &&
    (c.ahead? 1).any fun ch => [',', '?', '[', ']', '\x7b', '\x7d'].contains ch

/-- The characters of a plain scalar up to the next gap, in reverse. -/
def readPlainRun (flow : Bool) : Nat → List Char → Cursor → Option (List Char × Cursor)
  | 0, _, _ => none
  | fuel + 1, read, c =>
    if c.peek?.any (fun ch => !isBlank ch && !isBreak ch) && strayColon flow c then none
    else if endsPlain flow c then some (read, c)
    else
      match c.peek? with
      | none => some (read, c)
      | some ch => readPlainRun flow fuel (ch :: read) (c.skip 1)

/-- A scalar that was read: its text, the cursor after it, and whether a break was passed since the
last of its characters. -/
structure ReadScalar where
  text : List Char
  cursor : Cursor
  brokenAfter : Bool := false

/-- Reads a plain scalar whose further lines are indented to the column `least`. -/
def readPlain (flow : Bool) (least : Nat) : Nat → List Char → Gap → Cursor → Option ReadScalar
  | 0, _, _, _ => none
  | fuel + 1, text, gap, c =>
    let done : ReadScalar := ⟨text, c, gap.broken⟩
    if c.atDocumentMarks || c.at? '#' then some done
    else
      match readPlainRun flow (c.rest.length + 1) [] c with
      | none => none
      | some (run, next) =>
        let (text, gap) :=
          if run.isEmpty then (text, gap) else (text ++ gap.fold ++ run.reverse, {})
        if next.atBlank || next.atBreak then
          match readGap least (next.rest.length + 1) gap next with
          | none => none
          | some (gap, after) =>
            if !flow && after.column < least then some ⟨text, after, gap.broken⟩
            else readPlain flow least fuel text gap after
        else some ⟨text, next, gap.broken⟩

/-! ## Quoted scalars -/

/-- The value of a hexadecimal digit. -/
def hexDigit? (c : Char) : Option Nat :=
  if c.isDigit then some (c.toNat - '0'.toNat)
  else if 'a' ≤ c.toLower && c.toLower ≤ 'f' then some (c.toLower.toNat - 'a'.toNat + 10)
  else none

/-- The character that so many hexadecimal digits stand for. -/
def readCode (count : Nat) (cs : List Char) : Option Char :=
  let digits := (cs.take count).filterMap hexDigit?
  if digits.length < count then none
  else
    let n := digits.foldl (fun n d => 16 * n + d) 0
    if n < 0xD800 || (0xE000 ≤ n && n ≤ 0x10FFFF) then some (Char.ofNat n) else none

/-- The character of an escape of two characters. -/
def plainEscape? : Char → Option Char
  | '0' => some '\x00'
  | 'a' => some '\x07'
  | 'b' => some '\x08'
  | 't' => some '\t'
  | '\t' => some '\t'
  | 'n' => some '\n'
  | 'v' => some '\x0b'
  | 'f' => some '\x0c'
  | 'r' => some '\r'
  | 'e' => some '\x1b'
  | ' ' => some ' '
  | '"' => some '"'
  | '/' => some '/'
  | '\\' => some '\\'
  | 'N' => some '\u0085'
  | '_' => some '\u00a0'
  | 'L' => some '\u2028'
  | 'P' => some '\u2029'
  | _ => none

/-- The digits of an escape by number. -/
def codeLength? : Char → Option Nat
  | 'x' => some 2
  | 'u' => some 4
  | 'U' => some 8
  | _ => none

/-- The characters of a quoted scalar up to the next gap or quote, in reverse; a line break that is
escaped opens a gap of its own. -/
def readQuotedRun (single : Bool) : Nat → List Char → Cursor → Option (List Char × Gap × Cursor)
  | 0, _, _ => none
  | fuel + 1, read, c =>
    match c.rest with
    | [] => some (read, {}, c)
    | ch :: rest =>
      if isBlank ch || isBreak ch then some (read, {}, c)
      else if single then
        match ch, rest with
        | '\'', '\'' :: _ => readQuotedRun single fuel ('\'' :: read) (c.skip 2)
        | '\'', _ => some (read, {}, c)
        | _, _ => readQuotedRun single fuel (ch :: read) (c.skip 1)
      else if ch = '"' then some (read, {}, c)
      else if ch = '\\' then
        match rest with
        | [] => none
        | e :: more =>
          if isBreak e then some (read, { broken := true }, (c.skip 1).skipBreak)
          else
            match plainEscape? e, codeLength? e with
            | some d, _ => readQuotedRun single fuel (d :: read) (c.skip 2)
            | _, some n =>
              match readCode n more with
              | some d => readQuotedRun single fuel (d :: read) (c.skip (2 + n))
              | none => none
            | none, none => none
      else readQuotedRun single fuel (ch :: read) (c.skip 1)

/-- Reads a quoted scalar after its first quote. -/
def readQuoted (single : Bool) : Nat → List Char → Cursor → Option ReadScalar
  | 0, _, _ => none
  | fuel + 1, text, c =>
    if c.atDocumentMarks || c.rest.isEmpty then none
    else
      match readQuotedRun single (c.rest.length + 1) [] c with
      | none => none
      | some (run, gap, next) =>
        let text := text ++ run.reverse
        if next.at? (if single then '\'' else '"') then some ⟨text, next.skip 1, false⟩
        else
          match readGap 0 (next.rest.length + 1) gap next with
          | none => none
          | some (gap, after) => readQuoted single fuel (text ++ gap.fold) after

/-! ## Block scalars -/

/-- What becomes of the breaks after the last line of a block. -/
inductive Chomping where
  | clip
  | strip
  | keep

/-- The header of a block: its chomping and its indentation, if it is given. -/
def readBlockHeader (c : Cursor) : Option (Chomping × Nat × Cursor) :=
  let chomp? (ch : Option Char) : Option Chomping :=
    match ch with
    | some '+' => some .keep
    | some '-' => some .strip
    | _ => none
  let digit? (ch : Option Char) : Option Nat :=
    match ch with
    | some d => if d.isDigit then some (d.toNat - '0'.toNat) else none
    | none => none
  let check (chomping : Chomping) (increment : Option Nat) (n : Nat) :
      Option (Chomping × Nat × Cursor) :=
    if increment = some 0 then none else some (chomping, increment.getD 0, c.skip n)
  match chomp? c.peek?, digit? c.peek? with
  | some chomping, _ =>
    match digit? (c.ahead? 1) with
    | some d => check chomping (some d) 2
    | none => check chomping none 1
  | none, some d =>
    match chomp? (c.ahead? 1) with
    | some chomping => check chomping (some d) 2
    | none => check .clip (some d) 1
  | none, none => check .clip none 0

/-- Reads indentation and empty lines before a line of a block; an indentation of zero is still to
be found out.  Gives the breaks, the greatest column reached, and the cursor. -/
def readBlockBreaks (indent : Nat) :
    Nat → List Char → Nat → Cursor → Option (List Char × Nat × Cursor)
  | 0, _, _, _ => none
  | fuel + 1, breaks, greatest, c =>
    let inside (column : Nat) : Bool := indent = 0 || column < indent
    let spaces := (c.rest.takeWhile (· = ' ')).length
    let c := c.skip (if indent = 0 then spaces else min spaces (indent - c.column))
    let greatest := max greatest c.column
    if inside c.column && c.at? '\t' then none
    else if c.atBreak then
      let (br, next) := c.readBreak
      readBlockBreaks indent fuel (breaks ++ br) greatest next
    else some (breaks, greatest, c)

/-- The lines of a block so far. -/
structure BlockLines where
  text : List Char := []
  leadingBreak : List Char := []
  breaks : List Char := []
  blankFirst : Bool := false

/-- Reads the lines of a block. -/
def readBlockLines (literal : Bool) (indent : Nat) :
    Nat → BlockLines → Cursor → Option (BlockLines × Cursor)
  | 0, _, _ => none
  | fuel + 1, b, c =>
    if c.column != indent || c.rest.isEmpty then some (b, c)
    else
      let blankHere := c.atBlank
      let joint :=
        if !literal && b.leadingBreak = ['\n'] && !b.blankFirst && !blankHere then
          (if b.breaks.isEmpty then [' '] else [])
        else b.leadingBreak
      let line := c.rest.takeWhile fun ch => !isBreak ch
      let (br, next) := (c.skip line.length).readBreak
      match readBlockBreaks indent (next.rest.length + 1) [] 0 next with
      | none => none
      | some (breaks, _, after) =>
        readBlockLines literal indent fuel
          ⟨b.text ++ joint ++ b.breaks ++ line, br, breaks, blankHere⟩ after

/-- Reads a block after its mark, inside a block of the column `outer`, which is -1 at the top. -/
def readBlock (literal : Bool) (outer : Int) (c : Cursor) : Option ReadScalar := do
  let (chomping, increment, c) ← readBlockHeader c
  let c := (c.skipWhile isBlank).skipComment
  if !c.atLineEnd then none
  else
    let c := c.skipBreak
    let given := if increment = 0 then 0 else (max outer 0).toNat + increment
    let (breaks, greatest, c) ← readBlockBreaks given (c.rest.length + 1) [] 0 c
    let indent := if given = 0 then max greatest (max (outer + 1).toNat 1) else given
    let (b, c) ← readBlockLines literal indent (c.rest.length + 1) { breaks } c
    let tail := match chomping with
      | .strip => []
      | .clip => b.leadingBreak
      | .keep => b.leadingBreak ++ b.breaks
    some ⟨b.text ++ tail, c, false⟩

end Workplan.Yaml
