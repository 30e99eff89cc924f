/-
# `Workplan.Pattern.Reader` — reading patterns

A pattern is read once from left to right.  Flags hold from where they are set to the end of the
group that they stand in; in verbose mode blanks and comments between the parts of a pattern do
not count.  Reading gives the expression and the height of its syntax tree, which is limited.  A
reader that finds no pattern gives nothing: every fault of the text is reported alike.
-/
import Workplan.Pattern.Expr
import Workplan.Pattern.Named

namespace Workplan.Pattern

/-- Modes of reading. -/
structure Flags where
  ignoreCase : Bool := false
  multiLine : Bool := false
  dotAll : Bool := false
  swapGreed : Bool := false
  unicode : Bool := true
  anyLineEnd : Bool := false
  verbose : Bool := false

/-- What is left of the text, the modes, and the names of the groups so far. -/
structure Reading where
  rest : List Char
  flags : Flags := {}
  names : List String := []

/-- A step of reading: none where the text is no pattern. -/
abbrev Reader := StateT Reading Option

namespace Reader

def fail {α : Type} : Reader α := fun _ => none

def require (b : Bool) : Reader Unit := if b then pure () else fail

def ofOption {α : Type} : Option α → Reader α
  | some a => pure a
  | none => fail

def flags : Reader Flags := return (← get).flags

/-- The next character, which stays. -/
def peek? : Reader (Option Char) := return (← get).rest.head?

/-- The next character, which must be there and stays. -/
def peek : Reader Char := do ofOption (← peek?)

def drop (n : Nat) : Reader Unit := modify fun s => { s with rest := s.rest.drop n }

/-- The text after the blanks and comments in front of it. -/
def skipVerbose (inComment : Bool) : List Char → List Char
  | [] => []
  | c :: rest =>
    if inComment then skipVerbose (c != '\n') rest
    else if c = '#' then skipVerbose true rest
    else if Text.isBlank c then skipVerbose false rest
    else c :: rest

/-- Skips blanks and comments in verbose mode. -/
def skip : Reader Unit :=
  modify fun s => if s.flags.verbose then { s with rest := skipVerbose false s.rest } else s

/-- Drops a character and what may be skipped after it. -/
def advance : Reader Unit := do
  drop 1
  skip

/-- Takes a mark if it comes next. -/
def accept (mark : String) : Reader Bool := do
  if mark.toList.isPrefixOf (← get).rest then
    drop mark.length
    pure true
  else pure false

/-- The character after the next one, past blanks in verbose mode.  A number sign there hides no
more than itself. -/
def second? : Reader (Option Char) := do
  let s ← get
  let after := s.rest.drop 1
  if s.flags.verbose then
    let shown := match after.dropWhile Text.isBlank with
      | '#' :: more => more.dropWhile Text.isBlank
      | more => more
    pure (if shown.isEmpty then after.head? else shown.head?)
  else pure after.head?

end Reader

open Reader

/-! ## Numbers -/

def isHex (c : Char) : Bool :=
  c.isDigit || ('a' ≤ c && c ≤ 'f') || ('A' ≤ c && c ≤ 'F')

def hexDigitValue (c : Char) : Nat :=
  if c.isDigit then c.toNat - '0'.toNat else c.toLower.toNat - 'a'.toNat + 10

/-- The character with a number that some hexadecimal digits write. -/
def charOfHex? (digits : List Char) : Option Char :=
  let n := digits.foldl (fun n c => 16 * n + hexDigitValue c) 0
  if n < 0xD800 || (0xE000 ≤ n && n ≤ 0x10FFFF) then some (Char.ofNat n) else none

/-- Takes characters of a kind, skipping after each of them. -/
def takeMany (p : Char → Bool) : Nat → Reader (List Char)
  | 0 => pure []
  | fuel + 1 => do
    match ← peek? with
    | some c =>
      if p c then
        advance
        pure (c :: (← takeMany p fuel))
      else pure []
    | none => pure []

/-- Takes characters up to a closing brace, skipping after each of them. -/
def takeBraced : Reader (List Char) := do
  advance
  let cs ← takeMany (· != '\x7d') (← get).rest.length
  require (← peek?).isSome
  pure cs

/-- Exactly so many hexadecimal digits. -/
def takeHex : Nat → Reader (List Char)
  | 0 => pure []
  | count + 1 => do
    let c ← peek
    require (isHex c)
    advance
    pure (c :: (← takeHex count))

/-- A count; blanks around it do not matter. -/
def readCount : Reader (Option Nat) := do
  modify fun s => { s with rest := s.rest.dropWhile Text.isBlank }
  let digits ← takeMany Char.isDigit (← get).rest.length
  modify fun s => { s with rest := s.rest.dropWhile Text.isBlank }
  skip
  if digits.isEmpty then pure none
  else
    let n := digits.foldl (fun n c => 10 * n + (c.toNat - '0'.toNat)) 0
    require (n < 0x100000000)
    pure (some n)

/-! ## Single characters and classes -/

/-- What an escape, or a character, stands for. -/
inductive Primitive where
  | literal (c : Char) (byte : Bool)
  | place (p : Place)
  | set (s : CharClass)

/-- The class in the current case mode. -/
def foldIn (flags : Flags) (s : CharClass) : CharClass :=
  if flags.ignoreCase then (if flags.unicode then s.foldCase else s.foldAsciiCase) else s

/-- The class in the current case mode, or all others.  Without Unicode it must stay in ASCII. -/
def closeClass (negated : Bool) (s : CharClass) : Reader CharClass := do
  let flags ← flags
  let folded := foldIn flags s
  let result := if negated then folded.compl else folded
  require (flags.unicode || result.isAscii)
  pure result

/-- A class with a one-letter name. -/
def perlClass (letter : Char) : Reader CharClass := do
  let unicode := (← flags).unicode
  let positive := match letter.toLower with
    | 'd' => if unicode then CharClass.anyDigit else CharClass.digits
    | 's' => if unicode then CharClass.anySpace else CharClass.space
    | _ => if unicode then CharClass.anyWord else CharClass.word
  let result := if letter.isUpper then positive.compl else positive
  require (unicode || result.isAscii)
  pure result

/-- Splits a name at the first mark. -/
def splitAtMark (mark : List Char) : List Char → Option (List Char × List Char)
  | [] => none
  | c :: rest =>
    if mark.isPrefixOf (c :: rest) then some ([], (c :: rest).drop mark.length)
    else (splitAtMark mark rest).map fun (before, after) => (c :: before, after)

/-- The class that the text after the mark of a property names. -/
def classOfName? (name : List Char) : Option CharClass :=
  let split := ((splitAtMark ['!', '='] name).or (splitAtMark [':'] name)).or
    (splitAtMark ['='] name)
  match split with
  | some (property, value) => CharClass.valued? (String.ofList property) (String.ofList value)
  | none => CharClass.named? (String.ofList name)

/-- A class named by a property, after its mark. -/
def propertyClass (negated : Bool) : Reader CharClass := do
  advance
  let c ← peek
  let name ← if c = '\x7b' then do
      let name ← takeBraced
      drop 1
      pure name
    else do
      require (c != '\\')
      advance
      pure [c]
  require (← flags).unicode
  closeClass negated (← ofOption (classOfName? name))

/-- Characters that mean something in a pattern. -/
def isMeta (c : Char) : Bool := "\\.+*?()|[]\x7b\x7d^$#&-~".toList.contains c

/-- Characters that may stand after a backslash for themselves. -/
def isEscapable (c : Char) : Bool :=
  isMeta c || (c.toNat < 0x80 && !c.isAlphanum && c != '<' && c != '>')

/-- A place of words, named in braces after its mark; without such a name it is a boundary. -/
def wordPlace : Reader Place := do
  let unicode := (← flags).unicode
  let isNameChar (c : Char) : Bool := c.isAlpha || c = '-'
  let start ← get
  if start.rest.head? = some '\x7b' then
    advance
    if isNameChar (← peek) then
      let name ← takeMany isNameChar (← get).rest.length
      require ((← peek?) = some '\x7d')
      drop 1
      match String.ofList name with
      | "start" => pure (.wordStart unicode)
      | "end" => pure (.wordEnd unicode)
      | "start-half" => pure (.wordStartHalf unicode)
      | "end-half" => pure (.wordEndHalf unicode)
      | _ => fail
    else
      set start
      pure (.boundary unicode)
  else pure (.boundary unicode)

/-- What follows a backslash. -/
def readEscape : Reader Primitive := do
  drop 1
  let c ← peek
  let hex (count : Nat) : Reader Primitive := do
    advance
    if (← peek) = '\x7b' then
      let digits ← takeBraced
      require (!digits.isEmpty && digits.all isHex)
      advance
      pure (.literal (← ofOption (charOfHex? digits)) false)
    else
      let d ← ofOption (charOfHex? (← takeHex count))
      pure (.literal d (count == 2))
  match c with
  | 'x' => hex 2
  | 'u' => hex 4
  | 'U' => hex 8
  | 'p' => .set <$> propertyClass false
  | 'P' => .set <$> propertyClass true
  | _ =>
    drop 1
    let unicode := (← flags).unicode
    if "dswDSW".toList.contains c then .set <$> perlClass c
    else if isEscapable c then pure (.literal c false)
    else
      match c with
      | 'a' => pure (.literal '\x07' false)
      | 'f' => pure (.literal '\x0c' false)
      | 't' => pure (.literal '\t' false)
      | 'n' => pure (.literal '\n' false)
      | 'r' => pure (.literal '\r' false)
      | 'v' => pure (.literal '\x0b' false)
      | 'A' => pure (.place .textStart)
      | 'z' => pure (.place .textEnd)
      | 'b' => .place <$> wordPlace
      | 'B' => pure (.place (.notBoundary unicode))
      | '<' => pure (.place (.wordStart unicode))
      | '>' => pure (.place (.wordEnd unicode))
      | _ => fail

/-- A literal character, which without Unicode must not be a byte above the ASCII ones. -/
def literalChar (c : Char) (byte : Bool) : Reader Char := do
  require ((← flags).unicode || !byte || c.toNat < 0x80)
  pure c

/-- The expression of a literal character in the current case mode. -/
def literalExpr (c : Char) (byte : Bool) : Reader Expr := do
  let flags ← flags
  let c ← literalChar c byte
  if flags.unicode || c.toNat < 0x80 then pure (.one (foldIn flags (CharClass.single c)))
  else pure (.one (CharClass.single c))

/-! ## Bracketed classes -/

/-- A class under construction, with the height of its syntax tree. -/
structure ClassTree where
  set : CharClass
  height : Nat

/-- The operations between classes. -/
inductive ClassOp where
  | inter
  | diff
  | symmDiff

/-- A literal member of a class.  Without Unicode it must be in ASCII. -/
def memberChar (c : Char) (byte : Bool) : Reader Nat := do
  let c ← literalChar c byte
  require ((← flags).unicode || c.toNat < 0x80)
  pure c.toNat

/-- One item of a class: an escape or a character. -/
def readItem : Reader Primitive := do
  let c ← peek
  if c = '\\' then readEscape
  else do
    drop 1
    pure (.literal c false)

/-- A single member of a class, or a range of members. -/
def readMember : Reader ClassTree := do
  let first ← readItem
  skip
  let c ← peek
  let next ← second?
  if c != '-' || next = some ']' || next = some '-' then
    match first with
    | .literal c byte =>
      let n ← memberChar c byte
      pure ⟨CharClass.range n n, 0⟩
    | .set s => pure ⟨s, 0⟩
    | .place _ => fail
  else
    advance
    require (← peek?).isSome
    match first, ← readItem with
    | .literal a aByte, .literal b bByte =>
      let low ← memberChar a aByte
      let high ← memberChar b bByte
      require (low ≤ high)
      pure ⟨CharClass.range low high, 0⟩
    | _, _ => fail

/-- A named class of ASCII between `[:` and `:]`, if one comes next. -/
def asciiClass? : Reader (Option CharClass) := do
  let start ← get
  let afterMark ← accept "[:"
  let negated ← if afterMark then accept "^" else pure false
  let rest := (← get).rest
  let name := rest.takeWhile (· != ':')
  match afterMark, rest.drop name.length, CharClass.ofAsciiName? (String.ofList name) with
  | true, ':' :: ']' :: more, some s =>
    modify fun r => { r with rest := more }
    some <$> closeClass negated s
  | _, _, _ =>
    set start
    pure none

/-- The union of items, as one item. -/
def uniteItems (items : List ClassTree) : ClassTree :=
  match items with
  | [] => ⟨CharClass.none, 0⟩
  | [item] => item
  | _ => ⟨CharClass.unions (items.map ClassTree.set), 1 + (items.map ClassTree.height).foldl max 0⟩

/-- Joins the part before an operation with the part after it. -/
def joinParts (flags : Flags) (before : Option (ClassTree × ClassOp)) (items : List ClassTree) :
    ClassTree :=
  let right := uniteItems items
  match before with
  | none => right
  | some (left, op) =>
    let l := foldIn flags left.set
    let r := foldIn flags right.set
    let set := match op with
      | .inter => l.inter r
      | .diff => l.diff r
      | .symmDiff => l.symmDiff r
    ⟨set, 1 + max left.height right.height⟩

/-- The operation that comes next. -/
def readOp? : Reader (Option ClassOp) := do
  if ← accept "&&" then pure (some .inter)
  else if ← accept "--" then pure (some .diff)
  else if ← accept "~~" then pure (some .symmDiff)
  else pure none

/-- Hyphens, or else a closing bracket, right after the opening one stand for themselves. -/
def readFirstItems : Nat → List ClassTree → Reader (List ClassTree)
  | 0, items => pure items
  | fuel + 1, items => do
    match ← peek with
    | '-' =>
      advance
      readFirstItems fuel (items ++ [⟨CharClass.single '-', 0⟩])
    | ']' =>
      if items.isEmpty then
        advance
        require (← peek?).isSome
        pure [⟨CharClass.single ']', 0⟩]
      else pure items
    | _ => pure items

mutual

/-- A bracketed class, from its opening bracket on. -/
def readClass : Nat → Reader ClassTree
  | 0 => fail
  | fuel + 1 => do
    advance
    let negated := (← peek) = '^'
    if negated then advance
    let items ← readFirstItems (← get).rest.length []
    readClassItems fuel negated none items

/-- The items of a class up to its closing bracket. -/
def readClassItems : Nat → Bool → Option (ClassTree × ClassOp) → List ClassTree →
    Reader ClassTree
  | 0, _, _, _ => fail
  | fuel + 1, negated, before, items => do
    skip
    let flags ← flags
    match ← peek with
    | '[' =>
      match ← asciiClass? with
      | some s => readClassItems fuel negated before (items ++ [⟨s, 0⟩])
      | none =>
        let nested ← readClass fuel
        readClassItems fuel negated before (items ++ [nested])
    | ']' =>
      drop 1
      let whole := joinParts flags before items
      pure ⟨← closeClass negated whole.set, whole.height + 1⟩
    | _ =>
      match ← readOp? with
      | some op => readClassItems fuel negated (some (joinParts flags before items, op)) []
      | none =>
        let member ← readMember
        readClassItems fuel negated before (items ++ [member])

end

/-! ## Groups and repetitions -/

/-- An expression with the height of its syntax tree; modes that are set are no operand. -/
structure Piece where
  expr : Expr
  height : Nat := 0
  operand : Bool := true

/-- Changes one mode; the letter must name one. -/
def setFlag (value : Bool) (f : Flags) : Char → Option Flags
  | 'i' => some { f with ignoreCase := value }
  | 'm' => some { f with multiLine := value }
  | 's' => some { f with dotAll := value }
  | 'U' => some { f with swapGreed := value }
  | 'u' => some { f with unicode := value }
  | 'R' => some { f with anyLineEnd := value }
  | 'x' => some { f with verbose := value }
  | _ => none

/-- Reads modes up to the character that closes them; no letter, and no minus, stands twice. -/
def readFlags (seen : List Char) (value : Bool) (f : Flags) :
    List Char → Option (Flags × List Char × List Char)
  | [] => none
  | c :: rest =>
    if c = ':' || c = ')' then
      if seen.head? = some '-' then none else some (f, seen, c :: rest)
    else if seen.contains c then none
    else if c = '-' then readFlags (c :: seen) false f rest
    else (setFlag value f c).bind fun f => readFlags (c :: seen) value f rest

/-- Characters of the name of a group. -/
def isNameChar (first : Bool) (c : Char) : Bool :=
  c = '_' || Text.Category.isAlphabetic c ||
    (!first && (c = '.' || c = '[' || c = ']' || Text.Category.isNumber c))

/-- The name of a group up to its closing mark; no two groups share one. -/
def readGroupName : Reader Unit := do
  let s ← get
  let name := s.rest.takeWhile (· != '>')
  require (name.length < s.rest.length)
  match name with
  | [] => fail
  | c :: more => require (isNameChar true c && more.all (isNameChar false))
  let text := String.ofList name
  require (!s.names.contains text)
  set { s with rest := s.rest.drop (name.length + 1), names := text :: s.names }

/-- What an opening parenthesis begins: a group, with the modes inside it, or modes alone. -/
inductive Opening where
  | group
  | modes

/-- Reads the front of a group; the modes that it sets are in force afterwards. -/
def readOpening : Reader Opening := do
  drop 1
  skip
  let rest := (← get).rest
  require (["?=", "?!", "?<=", "?<!"].all fun mark => !mark.toList.isPrefixOf rest)
  let named ← if ← accept "?P<" then pure true else accept "?<"
  if named then
    readGroupName
    pure .group
  else if ← accept "?" then
    let s ← get
    let (flags, seen, rest) ← ofOption (readFlags [] true s.flags s.rest)
    set { s with flags, rest := rest.drop 1 }
    if rest.head? = some ')' then
      require (!seen.isEmpty)
      pure .modes
    else pure .group
  else pure .group

/-- Skips the mark of a lazy repetition. -/
def skipLazy : Reader Unit := do
  if (← peek?) = some '?' then drop 1

/-- The counts of a repetition in braces. -/
def readBraces : Reader (Nat × Option Nat) := do
  advance
  require (← peek?).isSome
  let least ← readCount
  let counts ← if (← peek) = ',' then do
      advance
      if (← peek) = '\x7d' then pure (← ofOption least, none)
      else do
        let least ← ofOption least
        pure (least, some (← ofOption (← readCount)))
    else do
      let least ← ofOption least
      pure (least, some least)
  require ((← peek?) = some '\x7d')
  require (counts.2.all (counts.1 ≤ ·))
  advance
  pure counts

/-- The pieces with the last one repeated. -/
def repeatLast (pieces : List Piece) (least : Nat) (most : Option Nat) : Reader (List Piece) :=
  match pieces with
  | last :: before => do
    require last.operand
    pure ({ expr := .times last.expr least most, height := last.height + 1 } :: before)
  | [] => fail

/-- Pieces in a row, given from the last one to the first. -/
def concatenate (pieces : List Piece) : Piece :=
  match pieces with
  | [] => { expr := .empty }
  | [piece] => piece
  | _ =>
    { expr := .seqs (pieces.reverse.map Piece.expr)
      height := 1 + (pieces.map Piece.height).foldl max 0 }

/-- Alternatives, given from the last one to the first. -/
def alternate (pieces : List Piece) : Piece :=
  match pieces with
  | [piece] => piece
  | _ =>
    { expr := .eithers (pieces.reverse.map Piece.expr)
      height := 1 + (pieces.map Piece.height).foldl max 0 }

/-- What a point stands for. -/
def anyChar : Reader Expr := do
  let flags ← flags
  require flags.unicode
  let excluded := if flags.dotAll then CharClass.none
    else if flags.anyLineEnd then (CharClass.single '\n').union (CharClass.single '\r')
    else CharClass.single '\n'
  pure (.one ⟨excluded.compl.contains, 8⟩)

/-- The start of a line or of the text. -/
def startPlace (f : Flags) : Place :=
  if f.multiLine then (if f.anyLineEnd then .anyLineStart else .lineStart) else .textStart

/-- The end of a line or of the text. -/
def endPlace (f : Flags) : Place :=
  if f.multiLine then (if f.anyLineEnd then .anyLineEnd else .lineEnd) else .textEnd

/-- A piece that is neither a group nor a class in brackets. -/
def readPrimitive : Reader Piece := do
  let flags ← flags
  let c ← peek
  match c with
  | '\\' =>
    match ← readEscape with
    | .literal d byte => pure { expr := ← literalExpr d byte }
    | .place p => pure { expr := .place p }
    | .set s => pure { expr := .one s }
  | '.' =>
    drop 1
    pure { expr := ← anyChar }
  | '^' =>
    drop 1
    pure { expr := .place (startPlace flags) }
  | '$' =>
    drop 1
    pure { expr := .place (endPlace flags) }
  | _ =>
    drop 1
    pure { expr := ← literalExpr c false }

/-- Reads alternatives up to the end of the text or to a parenthesis that closes them, which
stays.  The alternatives and pieces so far are given from the last one to the first. -/
def readPieces : Nat → List Piece → List Piece → Reader Piece
  | 0, _, _ => fail
  | fuel + 1, alternatives, pieces => do
    skip
    let finish := alternate (concatenate pieces :: alternatives)
    match ← peek? with
    | none => pure finish
    | some ')' => pure finish
    | some '|' =>
      drop 1
      readPieces fuel (concatenate pieces :: alternatives) []
    | some '(' =>
      let outer ← flags
      match ← readOpening with
      | .modes => readPieces fuel alternatives ({ expr := .empty, operand := false } :: pieces)
      | .group =>
        let inner ← readPieces fuel [] []
        require ((← peek?) = some ')')
        drop 1
        modify fun s => { s with flags := outer }
        readPieces fuel alternatives
          ({ expr := inner.expr, height := inner.height + 1 } :: pieces)
    | some '[' =>
      let tree ← readClass (2 * (← get).rest.length)
      readPieces fuel alternatives ({ expr := .one tree.set, height := tree.height } :: pieces)
    | some '?' =>
      drop 1
      skipLazy
      readPieces fuel alternatives (← repeatLast pieces 0 (some 1))
    | some '*' =>
      drop 1
      skipLazy
      readPieces fuel alternatives (← repeatLast pieces 0 none)
    | some '+' =>
      drop 1
      skipLazy
      readPieces fuel alternatives (← repeatLast pieces 1 none)
    | some '\x7b' =>
      let (least, most) ← readBraces
      skipLazy
      readPieces fuel alternatives (← repeatLast pieces least most)
    | some _ =>
      let piece ← readPrimitive
      readPieces fuel alternatives (piece :: pieces)

/-- The greatest height of a syntax tree. -/
def heightLimit : Nat := 250

/-- The pattern that a text writes. -/
def read? (text : String) : Option Expr := do
  let (piece, s) ← (readPieces (2 * text.length + 2) [] []).run { rest := text.toList }
  if s.rest.isEmpty && piece.height ≤ heightLimit then some piece.expr else none

end Workplan.Pattern
