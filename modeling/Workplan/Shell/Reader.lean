/-
# `Workplan.Shell.Reader` — reading scripts

A script is read from left to right, one line of commands after the other, so that a fault in one
line does not keep the lines before it from being run.  Nesting is bounded by a counter that
starts above the length of the script; every step down takes one from it.
-/
import Workplan.Shell.Cursor
import Workplan.Shell.Escape

namespace Workplan.Shell

namespace Reader

/-- What stands behind a command. -/
inductive Separator where
  | none
  | plain
  | background
deriving DecidableEq

/-- The command that a separator makes of the one before it. -/
def Separator.mark (s : Separator) (c : Command) : Command :=
  if s = .background then .background c else c

/-! ## Words, commands and conditions -/

mutual

/-- Reads what a dollar sign introduces. -/
def readDollar (quoted : Bool) : Nat → Reading Piece
  | 0 => failAtEnd
  | n + 1 => do
    skip 1
    match (← get).rest with
    | '(' :: '(' :: rest =>
      match untilParentheses 0 rest with
      | some cs => do
        skip (cs.length + 4)
        pure (.arithmetic (← readWithin cs n) quoted)
      | none => readOutput quoted n
    | '(' :: _ => readOutput quoted n
    | '{' :: _ => do
      skip 1
      readBraces quoted n
    | '\'' :: rest =>
      if quoted then pure (text ['$'] quoted)
      else
        match untilQuote rest with
        | some cs => do
          skip (cs.length + 2)
          pure (.text (Escape.expand .quote (bytesOf (String.ofList cs))).1 true)
        | none => do throw (.unclosed (← get).line '\'')
    | c :: _ =>
      if isNameStart c then do
        let name ← span isNameChar
        pure (.parameter (String.ofList name) .plain quoted)
      else if c.isDigit || isSpecial c then do
        skip 1
        pure (.parameter (String.singleton c) .plain quoted)
      else if c == '"' && !quoted then pure (text [] false)
      else pure (text ['$'] quoted)
    | [] => pure (text ['$'] quoted)

/-- Reads the commands whose output is inserted. -/
def readOutput (quoted : Bool) : Nat → Reading Piece
  | 0 => failAtEnd
  | n + 1 => do
    skip 1
    let body : Reading Command := do
      let script ← readItems [] true n
      expect ")"
      pure script
    let script ← tryCatch body fun fault =>
      match fault with
      | .endOfScript line => throw (.unclosed line ')')
      | fault => throw fault
    pure (.output script quoted)

/-- Reads a parameter in braces. -/
def readBraces (quoted : Bool) : Nat → Reading Piece
  | 0 => failAtEnd
  | n + 1 => do
    let first := (← get).rest
    let lengthOf := match first with
      | '#' :: c :: _ => c != '}' && (isNameChar c || isSpecial c)
      | _ => false
    if lengthOf then skip 1
    let rest := (← get).rest
    let name ← match rest with
      | c :: _ =>
        if isNameStart c then span isNameChar
        else if c.isDigit then span Char.isDigit
        else if isSpecial c then do
          skip 1
          pure [c]
        else pure []
      | [] => pure []
    let name := String.ofList name
    let bad {α : Type} : Reading α := do
      throw (.badSubstitution (← get).line
        ("$\x7b" ++ String.ofList (first.takeWhile (· != '}')) ++ "\x7d"))
    if name.isEmpty then bad
    else if lengthOf then
      if ← look "\x7d" then do
        skip 1
        pure (.parameter name .length quoted)
      else bad
    else do
      let use ← readUse quoted n
      if ← look "\x7d" then do
        skip 1
        pure (.parameter name use quoted)
      else if (← get).rest.isEmpty then do throw (.unclosed (← get).line '}')
      else bad

/-- Reads what is done with the value of a parameter in braces.  A pattern is read as if it did not
stand in quotes. -/
def readUse (quoted : Bool) : Nat → Reading Use
  | 0 => failAtEnd
  | n + 1 => do
    let word (skipped : Nat) : Reading Word := do
      skip skipped
      readBraceWord ['}'] quoted n
    let pattern (skipped : Nat) : Reading Word := do
      skip skipped
      readBraceWord ['}'] false n
    match (← get).rest with
    | ':' :: '-' :: _ => .orElse true <$> word 2
    | ':' :: '=' :: _ => .orAssign true <$> word 2
    | ':' :: '?' :: _ => .orFail true <$> word 2
    | ':' :: '+' :: _ => .ifSet true <$> word 2
    | '-' :: _ => .orElse false <$> word 1
    | '=' :: _ => .orAssign false <$> word 1
    | '?' :: _ => .orFail false <$> word 1
    | '+' :: _ => .ifSet false <$> word 1
    | '#' :: '#' :: _ => .cut .front true <$> pattern 2
    | '#' :: _ => .cut .front false <$> pattern 1
    | '%' :: '%' :: _ => .cut .back true <$> pattern 2
    | '%' :: _ => .cut .back false <$> pattern 1
    | '^' :: '^' :: _ => do skip 2; pure (.changeCase true true)
    | '^' :: _ => do skip 1; pure (.changeCase true false)
    | ',' :: ',' :: _ => do skip 2; pure (.changeCase false true)
    | ',' :: _ => do skip 1; pure (.changeCase false false)
    | '/' :: rest => do
      let reach := match rest with
        | '/' :: _ => Reach.every
        | '#' :: _ => Reach.atFront
        | '%' :: _ => Reach.atBack
        | _ => Reach.first
      skip (if reach = .first then 1 else 2)
      let replaced ← readBraceWord ['/', '}'] false n
      if ← look "/" then do pure (.replace reach replaced (← pattern 1))
      else pure (.replace reach replaced [])
    | ':' :: _ => do
      skip 1
      let offset ← readBraceWord [':', '}'] quoted n
      if ← look ":" then do pure (.slice offset (some (← word 1)))
      else pure (.slice offset none)
    | _ => pure .plain

/-- Reads a word in braces, up to one of the characters that end it. -/
def readBraceWord (stops : List Char) (quoted : Bool) : Nat → Reading Word
  | 0 => failAtEnd
  | n + 1 => do
    match (← get).rest with
    | [] => pure []
    | c :: _ =>
      if stops.contains c then pure []
      else do
        let pieces ← match c with
          | '\'' => if quoted then do skip 1; pure [text ['\''] true] else readPart n
          | '"' => do
            skip 1
            readQuoted (← get).line n
          | _ =>
            if c == '$' then do pure [← readDollar quoted n]
            else if c == '`' || c == '\\' then readPart n
            else do
              let cs ← span fun d =>
                d != '\'' && d != '"' && d != '$' && d != '`' && d != '\\' && !stops.contains d
              pure [text cs quoted]
        pure (pieces ++ (← readBraceWord stops quoted n))

/-- Reads up to the closing double quote and behind it; the opening one stood on a line. -/
def readQuoted (line : Nat) : Nat → Reading Word
  | 0 => failAtEnd
  | n + 1 => do
    match (← get).rest with
    | [] => throw (.unclosed line '"')
    | '"' :: _ => do
      skip 1
      pure [text [] true]
    | _ => do
      match ← readHeld true n, (← get).rest with
      | [.parameter "@" .plain true], '"' :: _ => do
        skip 1
        pure [.parameter "@" .plain true]
      | pieces, _ => pure (pieces ++ (← readQuoted line n))

/-- Reads one stretch of a text in which only the dollar sign, the backquote and the backslash
have a meaning. -/
def readHeld (quotes : Bool) : Nat → Reading Word
  | 0 => failAtEnd
  | n + 1 => do
    match (← get).rest with
    | '$' :: _ => do pure [← readDollar true n]
    | '`' :: _ => readBackquoted true n
    | '\\' :: c :: _ => do
      skip 2
      if c == '\n' then pure []
      else if c == '$' || c == '`' || c == '\\' || (quotes && c == '"') then pure [text [c] true]
      else pure [text ['\\', c] true]
    | '\\' :: [] => do skip 1; pure [text ['\\'] true]
    | _ => do
      let cs ← span fun c => c != '$' && c != '`' && c != '\\' && !(quotes && c == '"')
      pure [text cs true]

/-- Reads all of a text in which quotes have no meaning. -/
def readAllHeld : Nat → Reading Word
  | 0 => failAtEnd
  | n + 1 => do
    if (← get).rest.isEmpty then pure []
    else do
      let pieces ← readHeld false n
      pure (pieces ++ (← readAllHeld n))

/-- Reads a text other than the one that is being read. -/
def readWithin (cs : List Char) : Nat → Reading Word
  | 0 => failAtEnd
  | n + 1 => do
    let before ← get
    set { before with rest := cs }
    let word ← readAllHeld n
    modify fun r => { r with rest := before.rest, line := before.line }
    pure word

/-- Reads commands between backquotes. -/
def readBackquoted (quoted : Bool) : Nat → Reading Word
  | 0 => failAtEnd
  | n + 1 => do
    let before ← get
    match untilBackquote (before.rest.drop 1) with
    | none => throw (.unclosed before.line '`')
    | some (length, cs) => do
      set { before with rest := cs }
      let script ← readItems [] true n
      if !(← get).rest.isEmpty then unexpected
      modify fun r => { r with rest := before.rest, line := before.line }
      skip (length + 1)
      pure [.output script quoted]

/-- Reads one part of a word that is not quoted as a whole. -/
def readPart : Nat → Reading Word
  | 0 => failAtEnd
  | n + 1 => do
    match (← get).rest with
    | '\'' :: rest =>
      if rest.contains '\'' then do
        let cs := rest.takeWhile (· != '\'')
        skip (cs.length + 2)
        pure [text cs true]
      else do throw (.unclosed (← get).line '\'')
    | '"' :: _ => do
      skip 1
      readQuoted (← get).line n
    | '\\' :: c :: _ => do
      skip 2
      pure (if c == '\n' then [] else [text [c] true])
    | '\\' :: [] => do skip 1; pure [text ['\\'] true]
    | '$' :: _ => do pure [← readDollar false n]
    | '`' :: _ => readBackquoted false n
    | _ => do
      let cs ← span fun c =>
        !isMeta c && c != '\'' && c != '"' && c != '\\' && c != '$' && c != '`'
      pure [text cs false]

/-- Reads a word; there is none before a character that ends one. -/
def readWord : Nat → Reading Word
  | 0 => failAtEnd
  | n + 1 => do
    match (← get).rest with
    | [] => pure []
    | c :: _ =>
      if isMeta c then pure []
      else do
        let part ← readPart n
        pure (part ++ (← readWord n))

/-- Reads one line of commands after the other, up to a word or character that ends them. -/
def readItems (stops : List String) (mayBeEmpty : Bool) : Nat → Reading Command
  | 0 => failAtEnd
  | n + 1 => do
    readNewlines n
    let commands ← readMore stops n
    if commands.isEmpty && !mayBeEmpty then unexpected else pure (.sequence commands)

/-- Reads the commands that are left before the end. -/
def readMore (stops : List String) : Nat → Reading (List Command)
  | 0 => failAtEnd
  | n + 1 => do
    readNewlines n
    let rest := (← get).rest
    if rest.isEmpty || rest.head? == some ')' || [';', ';'].isPrefixOf rest ||
        stops.contains (← plainWord) then pure []
    else do
      let command ← readAndOr n
      let separator ← readSeparator stops n
      pure (separator.mark command ::
        (← if separator = .none then pure [] else readMore stops n))

/-- Goes behind what separates two commands. -/
def readSeparator (stops : List String) : Nat → Reading Separator
  | 0 => failAtEnd
  | _ + 1 => do
    skipBlanks
    let rest := (← get).rest
    match rest with
    | [] => pure .none
    | '\n' :: _ => pure .plain
    | ')' :: _ => pure .none
    | ';' :: ';' :: _ => pure .none
    | ';' :: _ => do skip 1; pure .plain
    | '&' :: '&' :: _ => unexpected
    | '&' :: _ => do skip 1; pure .background
    | _ => if stops.contains (← plainWord) then pure .plain else unexpected

/-- Goes behind ends of lines, and reads the documents announced before them. -/
def readNewlines : Nat → Reading Unit
  | 0 => failAtEnd
  | n + 1 => do
    skipBlanks
    if ← look "\n" then do
      skip 1
      let announced := (← get).announced
      modify fun r => { r with announced := [] }
      readDocuments announced n
      readNewlines n

/-- Reads documents. -/
def readDocuments : List Announced → Nat → Reading Unit
  | [], _ => pure ()
  | _ :: _, 0 => failAtEnd
  | a :: more, n + 1 => do
    let rest := (← get).rest
    let (body, after) := takeDocument a (rest.length + 1) rest
    skip (rest.length - after.length)
    let word ← if a.literal then pure [text body true] else readWithin body n
    modify fun r => { r with documents := r.documents.set! a.number word }
    readDocuments more n

/-- Reads pipelines between which one decides about the next. -/
def readAndOr : Nat → Reading Command
  | 0 => failAtEnd
  | n + 1 => do readAndOrAfter (← readPipeline n) n

/-- Reads what follows a pipeline that decides about the next. -/
def readAndOrAfter (first : Command) : Nat → Reading Command
  | 0 => failAtEnd
  | n + 1 => do
    skipBlanks
    if ← look "&&" then do
      skip 2
      readNewlines n
      readAndOrAfter (.both first (← readPipeline n)) n
    else if ← look "||" then do
      skip 2
      readNewlines n
      readAndOrAfter (.either first (← readPipeline n)) n
    else pure first

/-- Reads a pipeline. -/
def readPipeline : Nat → Reading Command
  | 0 => failAtEnd
  | n + 1 => do
    skipBlanks
    if (← plainWord) = "!" then do
      skip 1
      skipBlanks
      match (← get).rest.head? with
      | none => pure (.pipeline true [])
      | some '\n' => pure (.pipeline true [])
      | _ => do pure (.pipeline true (← readPipes n))
    else do
      match ← readPipes n with
      | [command] => pure command
      | commands => pure (.pipeline false commands)

/-- Reads commands each of which reads what the one before it writes. -/
def readPipes : Nat → Reading (List Command)
  | 0 => failAtEnd
  | n + 1 => do
    let command ← readCommand n
    skipBlanks
    if (← look "|") && !(← look "||") then do
      skip 1
      let command ← if ← look "&" then do
          skip 1
          pure (.redirected command [(2, .copy [text ['1'] true])])
        else pure command
      readNewlines n
      pure (command :: (← readPipes n))
    else pure [command]

/-- Reads one command. -/
def readCommand : Nat → Reading Command
  | 0 => failAtEnd
  | n + 1 => do
    skipBlanks
    let line := (← get).line
    match (← get).rest with
    | '(' :: '(' :: rest =>
      match untilParentheses 0 rest with
      | some cs => do
        skip (cs.length + 4)
        withRedirects (.arithmetic line (← readWithin cs n)) n
      | none => readSubshell n
    | '(' :: _ => readSubshell n
    | rest =>
      let word ← plainWord
      if word = "if" then do
        skip 2
        let clauses ← readClauses n
        withRedirects (.branch clauses.1 clauses.2) n
      else if word = "while" || word = "until" then do
        skip 5
        let condition ← readItems ["do"] false n
        let body ← readBody n
        withRedirects (.loop (word == "until") condition body) n
      else if word = "for" then do
        skip 3
        skipBlanks
        withRedirects (← readFor n) n
      else if word = "case" then do
        skip 4
        skipBlanks
        let subject ← readWord n
        if subject.isEmpty then unexpectedHere
        readNewlines n
        expectWord "in"
        let cases ← readCases n
        withRedirects (.choose subject cases) n
      else if word = "\x7b" then do
        skip 1
        let body ← readItems ["\x7d"] false n
        expectWord "\x7d"
        withRedirects body n
      else if word = "[[" then do
        skip 2
        let condition ← readEither n
        skipBlanks
        expectWord "]]"
        withRedirects (.test line condition) n
      else if word = "function" then do
        skip 8
        skipBlanks
        let name ← span fun c => !isMeta c
        skipBlanks
        if ← look "()" then skip 2
        readNewlines n
        pure (.define (String.ofList name) (← readCommand n))
      else if ["then", "else", "elif", "fi", "do", "done", "esac", "\x7d"].contains word then
        unexpected
      else
        let after := (dropBlanks (rest.drop word.length) 0).1
        match after with
        | '(' :: more =>
          let behind := (dropBlanks more 0).1
          if !word.isEmpty && behind.head? == some ')' then do
            skip word.length
            expect "("
            expect ")"
            readNewlines n
            pure (.define word (← readCommand n))
          else readSimple line n
        | _ => readSimple line n

/-- Reads a command in parentheses. -/
def readSubshell : Nat → Reading Command
  | 0 => failAtEnd
  | n + 1 => do
    skip 1
    let body ← readItems [] false n
    expect ")"
    withRedirects (.subshell body) n

/-- Reads the body of a loop. -/
def readBody : Nat → Reading Command
  | 0 => failAtEnd
  | n + 1 => do
    expectWord "do"
    let body ← readItems ["done"] false n
    expectWord "done"
    pure body

/-- Reads a loop over words, or one that counts. -/
def readFor : Nat → Reading Command
  | 0 => failAtEnd
  | n + 1 => do
    match (← get).rest with
    | '(' :: '(' :: rest =>
      match untilParentheses 0 rest with
      | none => unexpected
      | some cs => do
        skip (cs.length + 4)
        match (String.ofList cs).splitOn ";" with
        | [a, b, c] => do
          let start ← readWithin a.toList n
          let condition ← readWithin b.toList n
          let step ← readWithin c.toList n
          skipBlanks
          if ← look ";" then skip 1
          readNewlines n
          pure (.forCount start condition step (← readBody n))
        | _ => unexpected
    | _ => do
      let name ← span isNameChar
      if name.isEmpty then unexpectedHere
      skipBlanks
      if ← look ";" then skip 1
      readNewlines n
      let words ← if (← plainWord) = "in" then do
          skip 2
          let words ← readWords n
          skipBlanks
          if ← look ";" then skip 1
          pure (some words)
        else pure none
      readNewlines n
      pure (.forEach (String.ofList name) words (← readBody n))

/-- Reads words up to the end of the line or command. -/
def readWords : Nat → Reading (List Word)
  | 0 => failAtEnd
  | n + 1 => do
    skipBlanks
    match ← readWord n with
    | [] => pure []
    | word => do pure (word :: (← readWords n))

/-- Reads conditions with what follows each of them. -/
def readClauses : Nat → Reading (List (Command × Command) × Option Command)
  | 0 => failAtEnd
  | n + 1 => do
    let condition ← readItems ["then"] false n
    expectWord "then"
    let body ← readItems ["elif", "else", "fi"] false n
    skipBlanks
    let word ← plainWord
    if word = "elif" then do
      skip 4
      let (clauses, otherwise) ← readClauses n
      pure ((condition, body) :: clauses, otherwise)
    else if word = "else" then do
      skip 4
      let otherwise ← readItems ["fi"] false n
      expectWord "fi"
      pure ([(condition, body)], some otherwise)
    else do
      expectWord "fi"
      pure ([(condition, body)], none)

/-- Reads the cases of a choice. -/
def readCases : Nat → Reading (List (List Word × Command))
  | 0 => failAtEnd
  | n + 1 => do
    readNewlines n
    if (← plainWord) = "esac" then do
      skip 4
      pure []
    else do
      if ← look "(" then skip 1
      let patterns ← readPatterns n
      expect ")"
      let body ← readItems ["esac"] true n
      skipBlanks
      if ← look ";;" then skip 2
      pure ((patterns, body) :: (← readCases n))

/-- Reads the patterns of a case. -/
def readPatterns : Nat → Reading (List Word)
  | 0 => failAtEnd
  | n + 1 => do
    skipBlanks
    let word ← readWord n
    if word.isEmpty then unexpected
    skipBlanks
    if ← look "|" then do
      skip 1
      pure (word :: (← readPatterns n))
    else pure [word]

/-- Reads the redirections behind a command that is more than words. -/
def withRedirects (command : Command) : Nat → Reading Command
  | 0 => failAtEnd
  | n + 1 => do
    match ← readRedirects n with
    | [] => pure command
    | redirects => pure (.redirected command redirects)

/-- Reads redirections. -/
def readRedirects : Nat → Reading (List (Nat × Redirect))
  | 0 => failAtEnd
  | n + 1 => do
    skipBlanks
    match ← readRedirect? n with
    | [] => pure []
    | redirects => do pure (redirects ++ (← readRedirects n))

/-- Reads a redirection, if one follows; one for both streams of output is written as two. -/
def readRedirect? : Nat → Reading (List (Nat × Redirect))
  | 0 => failAtEnd
  | n + 1 => do
    let rest := (← get).rest
    let digits := rest.takeWhile Char.isDigit
    let after := rest.drop digits.length
    let descriptor (otherwise : Nat) : Nat :=
      if digits.isEmpty then otherwise else (String.ofList digits).toNat!
    let target (skipped : Nat) : Reading Word := do
      skip (digits.length + skipped)
      skipBlanks
      match ← readWord n with
      | [] => unexpectedHere
      | word => pure word
    let announce (skipped : Nat) (stripTabs : Bool) : Reading (List (Nat × Redirect)) := do
      skip (digits.length + skipped)
      skipBlanks
      let written := (← get).rest.takeWhile fun c => !isMeta c
      skip written.length
      let literal := written.any fun c => c == '\'' || c == '"' || c == '\\'
      let delimiter := written.filter fun c => c != '\'' && c != '"' && c != '\\'
      let number := (← get).documents.size
      modify fun r =>
        { r with
          documents := r.documents.push []
          announced := r.announced ++ [⟨number, String.ofList delimiter, literal, stripTabs⟩] }
      pure [(descriptor 0, .document number)]
    let outward (skipped : Nat) (r : Word → Redirect) : Reading (List (Nat × Redirect)) := do
      pure [(descriptor 1, r (← target skipped))]
    let inward (skipped : Nat) (r : Word → Redirect) : Reading (List (Nat × Redirect)) := do
      pure [(descriptor 0, r (← target skipped))]
    let both (skipped : Nat) (r : Word → Redirect) : Reading (List (Nat × Redirect)) := do
      pure [(1, r (← target skipped)), (2, .copy [text ['1'] true])]
    match after with
    | '<' :: '<' :: '<' :: _ => inward 3 .text
    | '<' :: '<' :: '-' :: _ => announce 3 true
    | '<' :: '<' :: _ => announce 2 false
    | '<' :: '&' :: _ => inward 2 .copy
    | '<' :: '>' :: _ => inward 2 .input
    | '<' :: _ => inward 1 .input
    | '>' :: '>' :: _ => outward 2 .append
    | '>' :: '&' :: c :: _ =>
      if c.isDigit || c == '-' || c == '$' || !digits.isEmpty then outward 2 .copy
      else both 2 .output
    | '>' :: '|' :: _ => outward 2 .output
    | '>' :: _ => outward 1 .output
    | '&' :: '>' :: '>' :: _ => if digits.isEmpty then both 3 .append else pure []
    | '&' :: '>' :: _ => if digits.isEmpty then both 2 .output else pure []
    | _ => pure []

/-- Reads a command made of assignments, words and redirections. -/
def readSimple (line : Nat) : Nat → Reading Command
  | 0 => failAtEnd
  | n + 1 => do
    let (assignments, words, redirects) ← readElements true n
    if assignments.isEmpty && words.isEmpty && redirects.isEmpty then unexpected
    if ← look "(" then
      if words.length = 1 then skip 1
      skipBlanks
      unexpectedHere
    pure (.simple line assignments words redirects)

/-- Reads the elements of a simple command; assignments stand only before its first word. -/
def readElements (mayAssign : Bool) :
    Nat → Reading (List (String × Bool × Word) × List Word × List (Nat × Redirect))
  | 0 => failAtEnd
  | n + 1 => do
    skipBlanks
    match ← readRedirect? n with
    | [] =>
      let rest := (← get).rest
      let name := rest.takeWhile isNameChar
      let after := rest.drop name.length
      let sign := match after with
        | '=' :: _ => some 1
        | '+' :: '=' :: _ => some 2
        | _ => none
      match mayAssign && isName (String.ofList name), sign with
      | true, some length => do
        skip (name.length + length)
        let value ← readWord n
        let (assignments, words, redirects) ← readElements true n
        pure ((String.ofList name, length == 2, value) :: assignments, words, redirects)
      | _, _ =>
        match ← readWord n with
        | [] => pure ([], [], [])
        | word => do
          let (assignments, words, redirects) ← readElements false n
          pure (assignments, word :: words, redirects)
    | found => do
      let (assignments, words, redirects) ← readElements mayAssign n
      pure (assignments, words, found ++ redirects)

/-- Reads conditions one of which has to hold. -/
def readEither : Nat → Reading Condition
  | 0 => failAtEnd
  | n + 1 => do
    let first ← readBoth n
    readNewlines n
    if ← look "||" then do
      skip 2
      pure (.either first (← readEither n))
    else pure first

/-- Reads conditions all of which have to hold. -/
def readBoth : Nat → Reading Condition
  | 0 => failAtEnd
  | n + 1 => do
    let first ← readCondition n
    readNewlines n
    if ← look "&&" then do
      skip 2
      pure (.both first (← readBoth n))
    else pure first

/-- Reads one condition. -/
def readCondition : Nat → Reading Condition
  | 0 => failAtEnd
  | n + 1 => do
    readNewlines n
    let word ← plainWord
    if word = "!" then do
      skip 1
      pure (.not (← readCondition n))
    else if ← look "(" then do
      skip 1
      let inner ← readEither n
      expect ")"
      pure inner
    else if word.startsWith "-" && word.length = 2 then do
      skip 2
      skipBlanks
      pure (.unary word (← readWord n))
    else do
      let left ← readWord n
      if left.isEmpty then unexpected
      skipBlanks
      let operator ← plainWord
      if ["=", "==", "!=", "-eq", "-ne", "-lt", "-le", "-gt", "-ge"].contains operator then do
        skip operator.length
        skipBlanks
        pure (.binary operator left (← readWord n))
      else if operator = "=~" then do
        skip 2
        skipBlanks
        let cs ← span fun c => c != ' ' && c != '\t' && c != '\n'
        pure (.binary operator left (← readWithin cs n))
      else if (← look "<") || (← look ">") then do
        let sign := if ← look "<" then "<" else ">"
        skip 1
        skipBlanks
        pure (.binary sign left (← readWord n))
      else pure (.word left)

end

/-! ## Whole scripts -/

/-- Reads the commands of one line. -/
def readLine : Nat → Nat → Reading (List Command)
  | 0, _ => failAtEnd
  | n + 1, fuel => do
    skipBlanks
    if (← get).rest.isEmpty || (← look "\n") then pure []
    else do
      let command ← readAndOr fuel
      let separator ← readSeparator [] fuel
      if (← get).rest.head? == some ')' || (← look ";;") then unexpected
      pure (separator.mark command ::
        (← if separator = .none then pure [] else readLine n fuel))

/-- Reads lines up to the end, or to the first fault. -/
def readLines (fuel : Nat) : Nat → Reader → Script
  | 0, r => ⟨[], r.documents, none⟩
  | n + 1, r =>
    let step : Reading (List Command) := do
      readNewlines fuel
      let commands ← readLine fuel fuel
      readNewlines fuel
      pure commands
    match step.run r with
    | .error fault => ⟨[], r.documents, some fault⟩
    | .ok (commands, after) =>
      let lines := if commands.isEmpty then [] else [Command.sequence commands]
      if after.rest.isEmpty then ⟨lines, after.documents, none⟩
      else
        let script := readLines fuel n after
        { script with lines := lines ++ script.lines }

end Reader

/-- Reads a script. -/
def Script.ofText (s : String) : Script :=
  let cs := s.toList
  Reader.readLines (8 * cs.length + 64) (cs.length + 1) { rest := cs }

end Workplan.Shell
