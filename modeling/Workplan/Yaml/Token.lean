/-
# `Workplan.Yaml.Token` — the tokens of a YAML text

Indentation is turned into tokens that open and close blocks.  What may turn out to be a key is
kept in mind with its place among the tokens; when the colon after it is found, the token for a key
is put in front of it, together with the opening of a block mapping where one begins.  Such a key
must end on the line it begins on and within 1024 characters.

A text that cannot be scanned to its end still gives the tokens before the fault, up to the
earliest one that might have been a key.
-/
import Workplan.Yaml.Scalar

namespace Workplan.Yaml

/-- A token. -/
inductive Token where
  | versionDirective (major minor : Nat)
  | tagDirective (handle lead : String)
  | documentStart
  | documentEnd
  | streamEnd
  | blockSequenceStart
  | blockMappingStart
  | blockEnd
  | flowSequenceStart
  | flowSequenceEnd
  | flowMappingStart
  | flowMappingEnd
  | blockEntry
  | flowEntry
  | key
  | value
  | alias (name : String)
  | anchor (name : String)
  | tag (handle suffix : String)
  | scalar (style : Style) (text : String)
deriving DecidableEq

/-- What may turn out to be a key: the number of its token and its place. -/
structure KeyCandidate where
  required : Bool
  number : Nat
  place : Cursor

/-- The state of a scan.  There is one possible key for each flow collection around the place, and
one outside them all. -/
structure Scan where
  cursor : Cursor
  indent : Int := -1
  outerIndents : List Int := []
  keyAllowed : Bool := true
  candidate : Option KeyCandidate := none
  outerCandidates : List (Option KeyCandidate) := []
  tokens : List Token := []
  count : Nat := 0
  finished : Bool := false

namespace Scan

def inFlow (s : Scan) : Bool := !s.outerCandidates.isEmpty

/-- Adds a token at the end; the tokens are kept last one first. -/
def push (s : Scan) (t : Token) : Scan :=
  { s with tokens := t :: s.tokens, count := s.count + 1 }

/-- Puts tokens in front of the token with a number. -/
def insertAt (s : Scan) (number : Nat) (ts : List Token) : Scan :=
  let (after, before) := s.tokens.splitAt (s.count - number)
  { s with tokens := after ++ ts.reverse ++ before, count := s.count + ts.length }

/-- Whether a candidate lies too far back to be a key. -/
def stale (s : Scan) (k : KeyCandidate) : Bool :=
  k.place.line < s.cursor.line || k.place.index + 1024 < s.cursor.index

/-- Gives up a candidate that lies too far back, unless a key is required there. -/
def dropStale? (s : Scan) : Option KeyCandidate → Option (Option KeyCandidate)
  | none => some none
  | some k => if s.stale k then (if k.required then none else some none) else some (some k)

def dropAllStale (s : Scan) : Option Scan := do
  let candidate ← s.dropStale? s.candidate
  let outerCandidates ← s.outerCandidates.mapM s.dropStale?
  some { s with candidate, outerCandidates }

/-- Gives up the innermost candidate, unless a key is required there. -/
def dropCandidate (s : Scan) : Option Scan :=
  if s.candidate.any KeyCandidate.required then none else some { s with candidate := none }

/-- Takes the place for that of a possible key. -/
def markCandidate (s : Scan) : Option Scan :=
  if s.keyAllowed then do
    let required := !s.inFlow && s.indent == (s.cursor.column : Int)
    let s ← s.dropCandidate
    some { s with candidate := some ⟨required, s.count, s.cursor⟩ }
  else some s

/-- Opens a block at a column, if it lies further in; the token goes in front of the token with the
given number. -/
def openBlock (s : Scan) (column number : Nat) (t : Token) : Scan :=
  if !s.inFlow && s.indent < (column : Int) then
    { s.insertAt number [t] with indent := column, outerIndents := s.indent :: s.outerIndents }
  else s

/-- Closes the blocks further in than a column. -/
def closeBlocks (s : Scan) (column : Int) : Scan :=
  if s.inFlow then s else go s.outerIndents.length s
where
  go : Nat → Scan → Scan
    | 0, s => s
    | fuel + 1, s =>
      if column < s.indent then
        match s.outerIndents with
        | outer :: rest => go fuel { s.push .blockEnd with indent := outer, outerIndents := rest }
        | [] => s
      else s

/-- Goes on to the next token, over blanks, comments and breaks. -/
def skipGap : Nat → Scan → Scan
  | 0, s => s
  | fuel + 1, s =>
    let c := if s.cursor.index = 0 && s.cursor.at? '\ufeff' then s.cursor.skip 1 else s.cursor
    let tabs := s.inFlow || !s.keyAllowed
    let c := (c.skipWhile fun ch => ch = ' ' || (tabs && ch = '\t')).skipComment
    if c.atBreak then
      skipGap fuel { s with cursor := c.skipBreak, keyAllowed := s.keyAllowed || !s.inFlow }
    else { s with cursor := c }

/-! ## Single tokens -/

/-- A token of some characters that are passed over. -/
def indicator (s : Scan) (t : Token) (width : Nat) : Scan :=
  { s.push t with cursor := s.cursor.skip width }

/-- Opens a flow collection, which may itself be a key. -/
def openFlow (s : Scan) (t : Token) : Option Scan := do
  let s ← s.markCandidate
  some { s.indicator t 1 with
    keyAllowed := true, candidate := none, outerCandidates := s.candidate :: s.outerCandidates }

/-- Closes a flow collection. -/
def closeFlow (s : Scan) (t : Token) : Option Scan := do
  let s ← s.dropCandidate
  let (candidate, outerCandidates) := match s.outerCandidates with
    | outer :: rest => (outer, rest)
    | [] => (s.candidate, [])
  some { s.indicator t 1 with keyAllowed := false, candidate, outerCandidates }

def flowEntry (s : Scan) : Option Scan := do
  let s ← s.dropCandidate
  some { s.indicator .flowEntry 1 with keyAllowed := true }

def blockEntry (s : Scan) : Option Scan := do
  if !s.inFlow && !s.keyAllowed then none
  let s := s.openBlock s.cursor.column s.count .blockSequenceStart
  let s ← s.dropCandidate
  some { s.indicator .blockEntry 1 with keyAllowed := true }

def explicitKey (s : Scan) : Option Scan := do
  if !s.inFlow && !s.keyAllowed then none
  let s := s.openBlock s.cursor.column s.count .blockMappingStart
  let s ← s.dropCandidate
  some { s.indicator .key 1 with keyAllowed := !s.inFlow }

/-- A colon: it makes a key of the candidate, if there is one. -/
def valueMark (s : Scan) : Option Scan :=
  match s.candidate with
  | some k =>
    let s := s.insertAt k.number [.key]
    let s := s.openBlock k.place.column k.number .blockMappingStart
    some { s.indicator .value 1 with candidate := none, keyAllowed := false }
  | none => do
    if !s.inFlow && !s.keyAllowed then none
    let s := s.openBlock s.cursor.column s.count .blockMappingStart
    some { s.indicator .value 1 with keyAllowed := !s.inFlow }

/-- A line that starts or ends a document. -/
def documentMarks (s : Scan) (t : Token) : Option Scan := do
  let s ← (s.closeBlocks (-1)).dropCandidate
  some { s.indicator t 3 with keyAllowed := false }

def streamEnd (s : Scan) : Option Scan := do
  let s ← (s.closeBlocks (-1)).dropCandidate
  some { s.push .streamEnd with keyAllowed := false, finished := true }

/-- The name of an anchor or alias after its mark. -/
def anchor (s : Scan) (t : String → Token) : Option Scan := do
  let s ← s.markCandidate
  let c := s.cursor.skip 1
  let name := c.rest.takeWhile isNameChar
  let after := c.skip name.length
  let closed := after.gapAhead 0 ||
    after.peek?.any fun ch => ['?', ':', ',', ']', '\x7d', '%', '@', '\x60'].contains ch
  if name.isEmpty || !closed then none
  else some { s.push (t (String.ofList name)) with cursor := after, keyAllowed := false }

/-! ## Tags and directives -/

/-- The bytes of escapes with a percent sign, as long as they go on. -/
def escapedBytes : List Char → List UInt8 × List Char
  | '%' :: a :: b :: rest =>
    match hexDigit? a, hexDigit? b with
    | some x, some y =>
      let (bytes, after) := escapedBytes rest
      ((16 * x + y).toUInt8 :: bytes, after)
    | _, _ => ([], '%' :: a :: b :: rest)
  | cs => ([], cs)

/-- Characters of a tag; inside angle brackets there are three more. -/
def isTagChar (verbatim : Bool) (c : Char) : Bool :=
  isNameChar c || ";/?:@&=+$.%!~*'()".toList.contains c || (verbatim && ",[]".toList.contains c)

/-- The characters of a tag. -/
def readTagChars (verbatim : Bool) : Nat → Cursor → Option (List Char × Cursor)
  | 0, _ => none
  | fuel + 1, c =>
    match c.peek? with
    | some '%' =>
      let (bytes, rest) := escapedBytes c.rest
      match String.fromUTF8? ⟨bytes.toArray⟩ with
      | some text =>
        if bytes.isEmpty then none
        else do
          let (more, after) ← readTagChars verbatim fuel (c.skip (c.rest.length - rest.length))
          some (text.toList ++ more, after)
      | none => none
    | some ch =>
      if isTagChar verbatim ch then do
        let (more, after) ← readTagChars verbatim fuel (c.skip 1)
        some (ch :: more, after)
      else some ([], c)
    | none => some ([], c)

/-- A handle: an exclamation mark, a name, and perhaps another mark. -/
def readHandle (c : Cursor) : Option (List Char × Cursor) :=
  if c.at? '!' then
    let name := (c.skip 1).rest.takeWhile isNameChar
    let after := c.skip (1 + name.length)
    if after.at? '!' then some ('!' :: name ++ ['!'], after.skip 1) else some ('!' :: name, after)
  else none

/-- A tag: its handle, its suffix, and the cursor after it. -/
def readTag (c : Cursor) : Option (String × String × Cursor) :=
  let fuel := c.rest.length + 1
  if c.ahead? 1 = some '<' then do
    let (suffix, after) ← readTagChars true fuel (c.skip 2)
    if suffix.isEmpty || !after.at? '>' then none
    else some ("", String.ofList suffix, after.skip 1)
  else do
    let (handle, after) ← readHandle c
    let (suffix, last) ← readTagChars false fuel after
    if 1 < handle.length && handle.getLast? = some '!' then
      if suffix.isEmpty then none else some (String.ofList handle, String.ofList suffix, last)
    else
      match handle.drop 1 ++ suffix with
      | [] => some ("", "!", last)
      | whole => some ("!", String.ofList whole, last)

def tag (s : Scan) : Option Scan := do
  let s ← s.markCandidate
  let (handle, suffix, after) ← readTag s.cursor
  if !(s.inFlow && after.at? ',') && !after.gapAhead 0 then none
  else some { s.push (.tag handle suffix) with cursor := after, keyAllowed := false }

/-- A number of at most nine digits. -/
def readNumber (c : Cursor) : Option (Nat × Cursor) :=
  let digits := c.rest.takeWhile Char.isDigit
  if digits.isEmpty || 9 < digits.length then none
  else
    some (digits.foldl (fun n d => 10 * n + (d.toNat - '0'.toNat)) 0, c.skip digits.length)

/-- A directive and the cursor after it. -/
def readDirective (c : Cursor) : Option (Token × Cursor) := do
  let name := (c.skip 1).rest.takeWhile isNameChar
  let c := c.skip (1 + name.length)
  if name.isEmpty || !c.gapAhead 0 then none
  let c := c.skipWhile isBlank
  let (t, c) ← match String.ofList name with
    | "YAML" => do
      let (major, c) ← readNumber c
      if !c.at? '.' then none
      let (minor, c) ← readNumber (c.skip 1)
      some (Token.versionDirective major minor, c)
    | "TAG" => do
      let (handle, c) ← readHandle c
      if handle != ['!'] && handle.getLast? != some '!' then none
      if !c.atBlank then none
      let c := c.skipWhile isBlank
      let (lead, c) ← readTagChars true (c.rest.length + 1) c
      if lead.isEmpty || !c.gapAhead 0 then none
      some (Token.tagDirective (String.ofList handle) (String.ofList lead), c)
    | _ => none
  let c := (c.skipWhile isBlank).skipComment
  if c.atLineEnd then some (t, c.skipBreak) else none

def directive (s : Scan) : Option Scan := do
  let s ← (s.closeBlocks (-1)).dropCandidate
  let (t, after) ← readDirective s.cursor
  some { s.push t with cursor := after, keyAllowed := false }

/-! ## Scalars -/

def blockScalar (s : Scan) (literal : Bool) : Option Scan := do
  let s ← s.dropCandidate
  let r ← readBlock literal s.indent (s.cursor.skip 1)
  let style := if literal then Style.literal else Style.folded
  some { s.push (.scalar style (String.ofList r.text)) with cursor := r.cursor, keyAllowed := true }

def quotedScalar (s : Scan) (single : Bool) : Option Scan := do
  let s ← s.markCandidate
  let r ← readQuoted single (s.cursor.rest.length + 1) [] (s.cursor.skip 1)
  let style := if single then Style.singleQuoted else Style.doubleQuoted
  some { s.push (.scalar style (String.ofList r.text)) with
    cursor := r.cursor, keyAllowed := false }

def plainScalar (s : Scan) : Option Scan := do
  let s ← s.markCandidate
  let r ← readPlain s.inFlow (s.indent + 1).toNat (s.cursor.rest.length + 1) [] {} s.cursor
  some { s.push (.scalar .plain (String.ofList r.text)) with
    cursor := r.cursor, keyAllowed := r.brokenAfter }

/-- Whether a plain scalar may begin with this character. -/
def beginsPlain (s : Scan) (ch : Char) : Bool :=
  let next := s.cursor.ahead? 1
  let blankNext := next.any isBlank
  !"-?:,[]\x7b\x7d#&*!|>'\"%@\x60".toList.contains ch || (ch = '-' && !blankNext) ||
    (!s.inFlow && (ch = '?' || ch = ':') && !s.cursor.gapAhead 1)

/-! ## The whole text -/

/-- Scans the next token. -/
def next (s : Scan) : Option Scan := do
  let s := skipGap (s.cursor.rest.length + 1) s
  let s ← s.dropAllStale
  let s := s.closeBlocks s.cursor.column
  let c := s.cursor
  let indicatorHere := s.inFlow || c.gapAhead 1
  match c.peek? with
  | none => s.streamEnd
  | some ch =>
    if c.column = 0 && ch = '%' then s.directive
    else if c.atMarks '-' then s.documentMarks .documentStart
    else if c.atMarks '.' then s.documentMarks .documentEnd
    else
      match ch with
      | '[' => s.openFlow .flowSequenceStart
      | '\x7b' => s.openFlow .flowMappingStart
      | ']' => s.closeFlow .flowSequenceEnd
      | '\x7d' => s.closeFlow .flowMappingEnd
      | ',' => s.flowEntry
      | '*' => s.anchor .alias
      | '&' => s.anchor .anchor
      | '!' => s.tag
      | '\'' => s.quotedScalar true
      | '"' => s.quotedScalar false
      | _ =>
        if ch = '-' && c.gapAhead 1 then s.blockEntry
        else if ch = '?' && indicatorHere then s.explicitKey
        else if ch = ':' && indicatorHere then s.valueMark
        else if ch = '|' && !s.inFlow then s.blockScalar true
        else if ch = '>' && !s.inFlow then s.blockScalar false
        else if s.beginsPlain ch then s.plainScalar
        else none

/-- The tokens that are settled: those before the earliest candidate. -/
def settled (s : Scan) : List Token :=
  let open? : Option KeyCandidate → Option Nat := fun k =>
    k.bind fun k => if s.stale k then none else some k.number
  let least := ((s.candidate :: s.outerCandidates).filterMap open?).foldl min s.count
  s.tokens.reverse.take least

/-- Scans tokens to the end of the text or to a fault. -/
def run : Nat → Scan → List Token
  | 0, s => s.settled
  | fuel + 1, s =>
    if s.finished then s.tokens.reverse
    else
      match s.next with
      | some after => run fuel after
      | none => s.settled

end Scan

/-- The tokens of a text.  The last one is the end of the stream unless the text has a fault. -/
def tokens (text : String) : List Token :=
  let c := Cursor.ofText text
  if c.rest.all isAllowed then Scan.run (c.rest.length + 2) { cursor := c } else []

end Workplan.Yaml
