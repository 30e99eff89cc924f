/-
# `Workplan.Shell.Eval` — running commands

Commands change the state of the machine and set a status; what stops them from going on to the
next command is a jump.  Running is bounded by a counter that is handed down and taken one from at
every step, so that a script that does not end is stopped.
-/
import Workplan.Shell.Braces
import Workplan.Shell.Builtins
import Workplan.Shell.Reader

namespace Workplan.Shell

namespace Machine

/-- Runs something on a copy of the frame: all that it leaves is its status, and what it did to
the world outside the current directory. -/
def inSubshell (act : Running Unit) : Running Unit := do
  let frame := (← get).frame
  let current := (← files).current
  let status ← tryCatch (do act; pure (← get).frame.status) fun jump =>
    match jump with
    | .exit status => pure status
    | .killed => throw .killed
    | .dropLine => pure 1
    | _ => do pure (← get).frame.status
  modifyFrame fun _ => { frame with status }
  modifyWorld fun w => { w with files := { w.files with current } }

/-- Runs something with the descriptors that are connected now, and puts them back. -/
def keepingChannels (act : Running Unit) : Running Unit := do
  let channels := (← get).frame.channels
  tryCatch act fun jump => do
    modifyFrame fun f => { f with channels }
    throw jump
  modifyFrame fun f => { f with channels }

/-- Runs something whose failure does not stop the script. -/
def guarded (act : Running Unit) : Running Unit := do
  let before := (← get).frame.guarded
  modifyFrame fun f => { f with guarded := true }
  tryCatch act fun jump => do
    modifyFrame fun f => { f with guarded := before }
    throw jump
  modifyFrame fun f => { f with guarded := before }

/-- Stops the script after a failure, if it asked for that. -/
def checkStatus : Running Unit := do
  let f := (← get).frame
  if f.stopOnError && !f.guarded && f.status != 0 then throw (.exit f.status)

/-- Runs the body of a loop once, and tells whether the loop goes on. -/
def round (body : Running Unit) : Running Bool := do
  let loops := (← get).frame.loops
  let leave : Running Unit := modifyFrame fun f => { f with loops }
  modifyFrame fun f => { f with loops := loops + 1 }
  let goes ← tryCatch (do body; pure true) fun jump => do
    leave
    match jump with
    | .leaveLoops n => if n ≤ 1 then pure false else throw (.leaveLoops (n - 1))
    | .nextRound n => if n ≤ 1 then pure true else throw (.nextRound (n - 1))
    | _ => throw jump
  leave
  pure goes

/-- An expansion that cannot go on stops the script. -/
def stop {α : Type} (text : String) : Running α := do
  complain text
  throw (.exit 127)

/-- Changes the case of ASCII letters. -/
def changeCase (upper all : Bool) (bytes : Bytes) : Bytes :=
  let one (b : UInt8) : UInt8 :=
    if 0x80 ≤ b then b
    else
      let c := Char.ofNat b.toNat
      byteOf (if upper then c.toUpper else c.toLower)
  match bytes with
  | [] => []
  | b :: rest => one b :: if all then rest.map one else rest

/-- The part of a value from an offset on, up to a length; what is negative counts from the end. -/
def sliceOf (bytes : Bytes) (offset : Int) (length : Option Int) : Bytes :=
  let size : Int := bytes.length
  let start := if offset < 0 then size + offset else offset
  if start < 0 || size < start then []
  else
    let tail := bytes.drop start.toNat
    match length with
    | none => tail
    | some n => if n < 0 then tail.take (tail.length - n.natAbs) else tail.take n.toNat

/-- Runs a program on what the machine offers. -/
def runTool (tool : ToolInput → ToolOutput) (args : List Bytes) : Running Unit := do
  let out := tool { args, input := ← input, environment := ← environment, files := ← files }
  if out.drained then setInput []
  modifyWorld fun w => { w with files := out.files }
  write out.output
  out.complaints.forM writeError
  setStatus out.status

/-- A name as messages show it: one that does not show by itself is written with escapes. -/
def shownName (name : Bytes) : String :=
  let letters : List (UInt8 × Char) :=
    [(7, 'a'), (8, 'b'), (9, 't'), (10, 'n'), (11, 'v'), (12, 'f'), (13, 'r'), (27, 'E'),
      (39, '\''), (92, '\\')]
  let escape (b : UInt8) : List Char :=
    match letters.lookup b with
    | some c => ['\\', c]
    | none =>
      if b < 32 || 127 ≤ b then
        let digits := Nat.toDigits 8 b.toNat
        '\\' :: List.replicate (3 - digits.length) '0' ++ digits
      else [Char.ofNat b.toNat]
  if name.any fun b => b < 32 || 127 ≤ b then
    "$'" ++ String.ofList (name.flatMap escape) ++ "'"
  else Tool.wide name

/-- Says that there is no such command. -/
def notFound (name : Bytes) : Running Unit := do
  let text := Tool.textOf name
  if name.contains 47 then
    match (← files).get text with
    | .ok .directory => Builtin.fails (text ++ ": Is a directory") 126
    | .ok _ => Builtin.fails (text ++ ": Permission denied") 126
    | .error e => Builtin.fails (text ++ ": " ++ e.brief) 127
  else Builtin.fails (shownName name ++ ": command not found") 127

/-- The program that a name, or a path ending in it, stands for. -/
def tool? (name : Bytes) : Option (ToolInput → ToolOutput) :=
  let text := Tool.textOf name
  match text.splitOn "/" with
  | [n] => Tool.find? n
  | ["", "bin", n] => Tool.find? n
  | ["", "usr", "bin", n] => Tool.find? n
  | _ => none

def isAssignmentText (w : Word) : Bool :=
  match w with
  | .text bytes false :: _ =>
    let name := bytes.takeWhile (· != 61)
    name.length < bytes.length && isName (Tool.wide name)
  | _ => false

/-- A word in which a tilde at the beginning names the home directory. -/
def tilde (w : Word) : Word :=
  match w with
  | .text (126 :: bytes) false :: rest =>
    if bytes.isEmpty || bytes.head? == some 47 then
      .parameter "HOME" .plain true :: .text bytes false :: rest
    else w
  | _ => w

/-- What a name of a command can stand for. -/
inductive Meaning where
  | keyword
  | function
  | builtin
  | program

/-- The words that have a meaning of their own where a command begins. -/
def keywords : List String :=
  ["if", "then", "else", "elif", "fi", "case", "esac", "for", "select", "while", "until", "do",
    "done", "in", "function", "time", "\x7b", "\x7d", "!", "[[", "]]", "coproc"]

/-- What a name stands for, which is the first of all that it could. -/
def meaning? (name : String) : Running (Option Meaning) := do
  if keywords.contains name then pure (some .keyword)
  else if ((← get).frame.functions.lookup name).isSome then pure (some .function)
  else if (Builtin.find? name).isSome || ["eval", "command", "type", "exec"].contains name then
    pure (some .builtin)
  else if (Tool.find? name).isSome || ["env", "bash", "sh", "xargs", "which"].contains name then
    pure (some .program)
  else pure none

/-- Where the file of a program is. -/
def placeOf (name : String) : String := "/usr/bin/" ++ name

/-- The long answer about a name. -/
def Meaning.sentence (name : String) : Meaning → String
  | .keyword => name ++ " is a shell keyword"
  | .function => name ++ " is a function"
  | .builtin => name ++ " is a shell builtin"
  | .program => name ++ " is " ++ placeOf name

/-- The answer in one word. -/
def Meaning.kind : Meaning → String
  | .keyword => "keyword"
  | .function => "function"
  | .builtin => "builtin"
  | .program => "file"

/-- Answers about names one after the other; the status is that of a failure if `all` have to be
known and one is not, or if none is. -/
def answerEach (all : Bool) (names : List Bytes) (answer : String → Meaning → String)
    (otherwise : String → Running Unit) : Running Unit := do
  let known ← names.mapM fun bytes => do
    let name := Tool.textOf bytes
    match ← meaning? name with
    | some meaning => do
      write (bytesOf (answer name meaning ++ "\n"))
      pure true
    | none => do
      otherwise name
      pure false
  setStatus (if if all then known.all id else known.any id then 0 else 1)

/-- Says what names stand for. -/
def typeOf (args : List Bytes) : Running Unit :=
  if args.head? == some (bytesOf "-t") then
    answerEach true (args.drop 1) (fun _ m => m.kind) fun _ => pure ()
  else
    answerEach true args (fun name m => m.sentence name) fun name =>
      complain ("type: " ++ name ++ ": not found")

/-- Says by which words commands would be run. -/
def commandsNamed (long : Bool) (names : List Bytes) : Running Unit :=
  if long then
    answerEach false names (fun name m => m.sentence name) fun name =>
      complain ("command: " ++ name ++ ": not found")
  else
    answerEach false names
      (fun name m => if m matches .program then placeOf name else name) fun _ => pure ()

/-- Shows where programs are; some commands of the shell are programs too. -/
def which (names : List Bytes) : Running Unit := do
  let found := names.filter fun bytes =>
    let name := Tool.textOf bytes
    (Tool.find? name).isSome ||
      ["env", "bash", "sh", "xargs", "which", "echo", "printf", "test", "[", "true", "false",
        "kill", "pwd"].contains name
  found.forM fun name => write (bytesOf (placeOf (Tool.textOf name) ++ "\n"))
  setStatus (if found.length = names.length then 0 else 1)

/-- The text of a fault in a script, with the line it stands on. -/
def faultLines (source : String) : ScriptFault → List String
  | .unexpected line token =>
    let prompt := "bash: -c: line " ++ toString line ++ ": "
    [prompt ++ "syntax error near unexpected token `" ++ token ++ "'",
      prompt ++ "`" ++ (source.splitOn "\n").getD (line - 1) "" ++ "'"]
  | .endOfScript line =>
    ["bash: -c: line " ++ toString line ++ ": syntax error: unexpected end of file"]
  | .unclosed line quote =>
    ["bash: -c: line " ++ toString line ++ ": unexpected EOF while looking for matching `" ++
      String.singleton quote ++ "'"]
  | .badSubstitution line text =>
    ["bash: line " ++ toString line ++ ": " ++ text ++ ": bad substitution"]

mutual

/-- The items of a piece.  `separates` tells whether text that is not quoted may be split, as it
may in the word of an expansion. -/
def expandPiece (separates : Bool) : Nat → Piece → Running (List Item)
  | 0, _ => throw .killed
  | n + 1, p => do
    match p with
    | .text bytes quoted =>
      pure ((if quoted then [.presence] else []) ++
        Item.ofBytes bytes quoted (separates && !quoted))
    | .parameter name use quoted =>
      if (name == "@" || name == "*") && use matches .plain then
        let args := (← get).frame.args
        if quoted && name == "*" then
          let joint := (← separators).take 1
          pure (.presence :: Item.ofBytes (joint.intercalate args) true false)
        else
          pure ([Item.boundary].intercalate (args.map fun a =>
            (if quoted then [.presence] else []) ++ Item.ofBytes a quoted (!quoted)))
      else do
        let items ← expandParameter name use quoted n
        pure ((if quoted then [.presence] else []) ++ items)
    | .output script quoted => do
      let bytes ← outputOf script n
      pure ((if quoted then [.presence] else []) ++ Item.ofBytes bytes quoted (!quoted))
    | .arithmetic expression quoted => do
      let value ← evaluate (Tool.textOf (← bytesOfWord expression n))
      pure (Item.ofBytes (bytesOf (toString value)) quoted (!quoted))

/-- The items of a parameter and of what is done with its value. -/
def expandParameter (name : String) (use : Use) (quoted : Bool) : Nat → Running (List Item)
  | 0 => throw .killed
  | n + 1 => do
    let value? ← match name with
      | "@" => do
        let args := (← get).frame.args
        pure (if args.isEmpty then none else some ([32].intercalate args))
      | "*" => do
        let args := (← get).frame.args
        pure (if args.isEmpty then none else some ([32].intercalate args))
      | _ => value? name
    let missing (orEmpty : Bool) : Bool := match value? with
      | none => true
      | some bytes => orEmpty && bytes.isEmpty
    let shown (bytes : Bytes) : List Item := Item.ofBytes bytes quoted (!quoted)
    let given : Running Bytes := do
      match value? with
      | some bytes => pure bytes
      | none =>
        if (← get).frame.stopOnUnset && name != "@" && name != "*" then
          stop (name ++ ": unbound variable")
        else pure []
    let wordItems (w : Word) : Running (List Item) := do
      let items ← expandPieces true n w
      pure (if quoted then
          items.map fun i => match i with
            | .byte m _ => .byte { m with quoted := true } false
            | i => i
        else items)
    match use with
    | .plain => do pure (shown (← given))
    | .length => do
      if name == "@" || name == "*" then
        pure (shown (bytesOf (toString (← get).frame.args.length)))
      else pure (shown (bytesOf (toString (← given).length)))
    | .orElse orEmpty w => if missing orEmpty then wordItems w else do pure (shown (← given))
    | .orAssign orEmpty w =>
      if missing orEmpty then do
        let bytes ← bytesOfWord w n
        if !(← assign "" name bytes) then throw .dropLine
        pure (shown bytes)
      else do pure (shown (← given))
    | .orFail orEmpty w =>
      if missing orEmpty then do
        let text := Tool.textOf (← bytesOfWord w n)
        stop (name ++ ": " ++
          if !text.isEmpty then text
          else if orEmpty then "parameter null or not set" else "parameter not set")
      else do pure (shown (← given))
    | .ifSet orEmpty w => if missing orEmpty then pure [] else wordItems w
    | .cut side longest w => do
      let ws := Wildcard.ofMarks (← marksOfWord w n)
      pure (shown (Wildcard.cut ws side longest (← given)))
    | .replace reach w r => do
      let ws := Wildcard.ofMarks (← marksOfWord w n)
      let replacement ← marksOfWord r n
      pure (shown (Wildcard.replace ws reach replacement (← given)))
    | .slice offset length => do
      let start ← evaluate (Tool.textOf (← bytesOfWord offset n))
      let count ← match length with
        | none => pure none
        | some w => do pure (some (← evaluate (Tool.textOf (← bytesOfWord w n))))
      pure (shown (sliceOf (← given) start count))
    | .changeCase upper all => do pure (shown (changeCase upper all (← given)))

/-- The items of a word. -/
def expandPieces (separates : Bool) : Nat → Word → Running (List Item)
  | 0, _ => throw .killed
  | _ + 1, [] => pure []
  | n + 1, p :: rest => do
    let items ← expandPiece separates n p
    pure (items ++ (← expandPieces separates n rest))

/-- The marks of a word that is not split. -/
def marksOfWord (w : Word) : Nat → Running (List Mark)
  | 0 => throw .killed
  | n + 1 => do pure (joined (← expandPieces false n w))

/-- The bytes of a word that is not split. -/
def bytesOfWord (w : Word) : Nat → Running Bytes
  | 0 => throw .killed
  | n + 1 => do pure ((← marksOfWord w n).map Mark.byte)

/-- The fields of words. -/
def fieldsOfWords (declares : Bool) : Nat → List Word → Running (List Bytes)
  | 0, _ => throw .killed
  | _ + 1, [] => pure []
  | n + 1, w :: rest => do
    let first ←
      if declares && isAssignmentText w then do pure [← bytesOfWord w n]
      else fieldsOfWord (Braces.expand (tilde w)) n
    pure (first ++ (← fieldsOfWords declares n rest))

/-- The fields of the words that braces made of one. -/
def fieldsOfWord : List Word → Nat → Running (List Bytes)
  | _, 0 => throw .killed
  | [], _ + 1 => pure []
  | w :: rest, n + 1 => do
    let items ← expandPieces false n w
    let fields := fieldsOf (← separators) items
    let t ← files
    pure (fields.flatMap (paths t) ++ (← fieldsOfWord rest n))

/-- What commands write, without the ends of the last lines. -/
def outputOf (script : Command) : Nat → Running Bytes
  | 0 => throw .killed
  | n + 1 => do
    let stream ← openOutput
    inSubshell do
      connect 1 (.written stream)
      modifyFrame fun f => { f with stopOnError := false }
      runCommand script n
    modifyFrame fun f => { f with substituted := some f.status }
    let bytes ← writtenTo stream
    if bytes.contains 0 then
      complain "warning: command substitution: ignored null byte in input"
    pure ((bytes.filter (· != 0)).reverse.dropWhile (· == 10)).reverse

/-- Runs a command. -/
def runCommand (c : Command) : Nat → Running Unit
  | 0 => throw .killed
  | n + 1 => do
    match c with
    | .simple line assignments words redirects => do
      modifyFrame fun f => { f with line }
      runSimple assignments words redirects n
      checkStatus
    | .pipeline negated commands => do
      if negated then
        guarded (runPipes commands n)
        setStatus (if (← get).frame.status = 0 then 1 else 0)
      else
        runPipes commands n
        checkStatus
    | .both first second => do
      guarded (runCommand first n)
      if (← get).frame.status = 0 then runCommand second n
    | .either first second => do
      guarded (runCommand first n)
      if (← get).frame.status != 0 then runCommand second n
    | .sequence commands => runAll commands n
    | .subshell body => do
      inSubshell do
        modifyFrame fun f => { f with loops := 0 }
        runCommand body n
      checkStatus
    | .background body => do
      inSubshell (runCommand body n)
      setStatus 0
    | .redirected body redirects =>
      keepingChannels do
        if ← redirectAll redirects n then runCommand body n
        else checkStatus
    | .branch clauses otherwise => runBranches clauses otherwise n
    | .loop untilTrue condition body => do
      setStatus 0
      runLoop untilTrue condition body 0 n
    | .forEach name words body => do
      let fields ← match words with
        | some ws => fieldsOfWords false n ws
        | none => do pure (← get).frame.args
      setStatus 0
      runEach name body fields n
    | .forCount start condition step body => do
      setStatus 0
      if (← evaluateAlone (Tool.textOf (← bytesOfWord start n))).isSome then
        runCount condition step body n
    | .choose subject cases => do
      let bytes ← bytesOfWord subject n
      setStatus 0
      runCases bytes cases n
    | .define name body => do
      modifyFrame fun f => { f with functions := (name, body) :: f.functions }
      setStatus 0
    | .arithmetic line expression => do
      modifyFrame fun f => { f with line }
      let value ← evaluateAlone (Tool.textOf (← bytesOfWord expression n))
      setStatus (if value.getD 0 == 0 then 1 else 0)
      checkStatus
    | .test line condition => do
      modifyFrame fun f => { f with line }
      let holds ← testCondition condition n
      setStatus (if holds then 0 else 1)
      checkStatus

/-- Runs commands one after the other. -/
def runAll : List Command → Nat → Running Unit
  | _, 0 => throw .killed
  | [], _ + 1 => pure ()
  | c :: rest, n + 1 => do
    runCommand c n
    runAll rest n

/-- Runs the commands of a pipeline, each on what the one before it wrote. -/
def runPipes (commands : List Command) : Nat → Running Unit
  | 0 => throw .killed
  | n + 1 => do
    match commands with
    | [] => setStatus 0
    | [only] => runCommand only n
    | _ => runPipesFrom commands (← channel 0) n

/-- Runs the commands that are left of a pipeline. -/
def runPipesFrom : List Command → Channel → Nat → Running Unit
  | _, _, 0 => throw .killed
  | [], _, _ + 1 => pure ()
  | [last], source, n + 1 =>
    inSubshell do
      connect 0 source
      runCommand last n
  | c :: rest, source, n + 1 => do
    let stream ← openOutput
    inSubshell do
      connect 0 source
      connect 1 (.written stream)
      runCommand c n
    let failed := (← get).frame.status
    let next ← openInput (← writtenTo stream)
    runPipesFrom rest next n
    if (← get).frame.pipeFail && (← get).frame.status = 0 then setStatus failed

/-- Runs what follows the first condition that holds. -/
def runBranches : List (Command × Command) → Option Command → Nat → Running Unit
  | _, _, 0 => throw .killed
  | [], none, _ + 1 => setStatus 0
  | [], some otherwise, n + 1 => runCommand otherwise n
  | (condition, body) :: rest, otherwise, n + 1 => do
    guarded (runCommand condition n)
    if (← get).frame.status = 0 then runCommand body n
    else runBranches rest otherwise n

/-- Runs a loop as long as its condition asks for that; the status is that of the last round. -/
def runLoop (untilTrue : Bool) (condition body : Command) (last : Nat) : Nat → Running Unit
  | 0 => throw .killed
  | n + 1 => do
    let goes ← round (guarded (runCommand condition n))
    if goes && ((← get).frame.status = 0) != untilTrue then
      if ← round (runCommand body n) then
        runLoop untilTrue condition body (← get).frame.status n
    else setStatus last

/-- Runs a loop over fields. -/
def runEach (name : String) (body : Command) : List Bytes → Nat → Running Unit
  | _, 0 => throw .killed
  | [], _ + 1 => pure ()
  | field :: rest, n + 1 => do
    if ← assign "" name field then
      if ← round (runCommand body n) then runEach name body rest n

/-- Runs a loop that counts. -/
def runCount (condition step : Word) (body : Command) : Nat → Running Unit
  | 0 => throw .killed
  | n + 1 => do
    let text := Tool.textOf (← bytesOfWord condition n)
    let holds ←
      if (Arith.blankless text.toList).isEmpty then pure (some 1) else evaluateAlone text
    if holds.getD 0 != 0 then
      if ← round (runCommand body n) then
        if (← evaluateAlone (Tool.textOf (← bytesOfWord step n))).isSome then
          runCount condition step body n

/-- Runs the first case one of whose patterns matches. -/
def runCases (subject : Bytes) : List (List Word × Command) → Nat → Running Unit
  | _, 0 => throw .killed
  | [], _ + 1 => pure ()
  | (patterns, body) :: rest, n + 1 => do
    if ← matchesAny subject patterns n then runCommand body n
    else runCases subject rest n

/-- Whether one of some patterns matches. -/
def matchesAny (subject : Bytes) : List Word → Nat → Running Bool
  | _, 0 => throw .killed
  | [], _ + 1 => pure false
  | w :: rest, n + 1 => do
    if Wildcard.accepts (Wildcard.ofMarks (← marksOfWord w n)) subject then pure true
    else matchesAny subject rest n

/-- Whether a condition between double brackets holds. -/
def testCondition : Condition → Nat → Running Bool
  | _, 0 => throw .killed
  | .word w, n + 1 => do pure !(← bytesOfWord w n).isEmpty
  | .unary operator w, n + 1 => do
    let bytes ← bytesOfWord w n
    pure ((Test.unary? (← files) (bytesOf operator) bytes).getD false)
  | .binary operator left right, n + 1 => do
    let a ← bytesOfWord left n
    if operator == "=~" then
      match Pattern.parse (Tool.wide (← bytesOfWord right n)) with
      | .ok p => pure (p.occursIn (Tool.wide a))
      | .error _ => pure false
    else if ["=", "==", "!="].contains operator then
      let ws := Wildcard.ofMarks (← marksOfWord right n)
      pure (Wildcard.accepts ws a != (operator == "!="))
    else do
      let b ← bytesOfWord right n
      match Test.comparison? (bytesOf operator) with
      | some compare => do
        pure (compare (← evaluate (Tool.textOf a)) (← evaluate (Tool.textOf b)))
      | none =>
        match Test.binary? (bytesOf operator) a b with
        | some (.ok r) => pure r
        | _ => pure false
  | .not c, n + 1 => do pure !(← testCondition c n)
  | .both c d, n + 1 => do
    if ← testCondition c n then testCondition d n else pure false
  | .either c d, n + 1 => do
    if ← testCondition c n then pure true else testCondition d n

/-- Connects descriptors one after the other; the answer is whether all could be connected. -/
def redirectAll : List (Nat × Redirect) → Nat → Running Bool
  | _, 0 => throw .killed
  | [], _ + 1 => pure true
  | (descriptor, r) :: rest, n + 1 => do
    if ← redirect descriptor r n then redirectAll rest n else pure false

/-- Connects a descriptor. -/
def redirect (descriptor : Nat) (r : Redirect) : Nat → Running Bool
  | 0 => throw .killed
  | n + 1 => do
    let refuse (path : String) (e : FileError) : Running Bool := do
      complain (path ++ ": " ++ e.brief)
      setStatus 1
      pure false
    let toFile (w : Word) (fresh : Bool) : Running Bool := do
      let path := Tool.textOf (← bytesOfWord w n)
      let t ← files
      match path with
      | "/dev/stdout" => do connect descriptor (← channel 1); pure true
      | "/dev/stderr" => do connect descriptor (← channel 2); pure true
      | _ =>
        match if fresh then t.write path .empty else t.append path .empty with
        | .error e => refuse path e
        | .ok written => do
          modifyWorld fun w => { w with files := written }
          let place := ((written.resolve path).toOption.getD [])
          connect descriptor (.file ("/" ++ "/".intercalate place))
          pure true
    match r with
    | .input w => do
      let path := Tool.textOf (← bytesOfWord w n)
      match path, (← files).readBytes path with
      | "/dev/stdin", _ => pure true
      | _, .error .isDirectory => do connect descriptor .nothing; pure true
      | _, .error e => refuse path e
      | _, .ok content => do
        connect descriptor (← openInput content.toList)
        pure true
    | .output w => toFile w true
    | .append w => toFile w false
    | .copy w => do
      let bytes ← bytesOfWord w n
      if bytes == [45] then
        connect descriptor .nothing
        pure true
      else
        match (Tool.natural? bytes).bind fun k => (some k) with
        | some k =>
          match (← get).frame.channels.lookup k with
          | some c => do connect descriptor c; pure true
          | none => do
            complain (toString k ++ ": Bad file descriptor")
            setStatus 1
            pure false
        | none => do
          complain (Tool.textOf bytes ++ ": ambiguous redirect")
          setStatus 1
          pure false
    | .document k => do
      let word := (← get).documents.getD k []
      connect descriptor (← openInput (← bytesOfWord word n))
      pure true
    | .text w => do
      connect descriptor (← openInput ((← bytesOfWord w n) ++ [10]))
      pure true

/-- Assigns variables one after the other, and tells whether all took their values. -/
def assignAll : List (String × Bool × Word) → Nat → Running Bool
  | _, 0 => throw .killed
  | [], _ + 1 => pure true
  | (name, appends, w) :: rest, n + 1 => do
    let bytes ← bytesOfWord (tilde w) n
    let before ← if appends then do pure ((← value? name).getD []) else pure []
    let taken ← assign "" name (before ++ bytes)
    pure (taken && (← assignAll rest n))

/-- Runs a simple command. -/
def runSimple (assignments : List (String × Bool × Word)) (words : List Word)
    (redirects : List (Nat × Redirect)) : Nat → Running Unit
  | 0 => throw .killed
  | n + 1 => do
    let first : String := match words.head? with
      | some [.text bytes false] => Tool.textOf bytes
      | _ => ""
    modifyFrame fun f => { f with substituted := none }
    let fields ← fieldsOfWords (Builtin.declares first) n words
    if fields.isEmpty then
      if !(← assignAll assignments n) then throw .dropLine
      setStatus ((← get).frame.substituted.getD 0)
      keepingChannels do
        discard (redirectAll redirects n)
    else if fields == [bytesOf "exec"] then
      if ← redirectAll redirects n then setStatus 0
    else
      let run : Running Unit := keepingChannels do
        if ← redirectAll redirects n then runFields fields n
      if assignments.isEmpty then run
      else do
        let names := assignments.map fun a => a.1
        let saved ← names.mapM fun name => do pure (name, ← find? name)
        discard (assignAll assignments n)
        names.forM exportVariable
        let restore : Running Unit := saved.reverse.forM fun e => restoreVariable e.1 e.2
        tryCatch run fun jump => do
          restore
          throw jump
        restore

/-- Runs the command that fields name. -/
def runFields (fields : List Bytes) : Nat → Running Unit
  | 0 => throw .killed
  | n + 1 => do
    match fields with
    | [] => setStatus 0
    | name :: args =>
      let text := Tool.textOf name
      match (← get).frame.functions.lookup text with
      | some body => runFunction body args n
      | none =>
        match text with
        | "eval" => do
          setStatus 0
          runText (Tool.textOf ([32].intercalate args)) n
        | "command" =>
          if args.head? == some (bytesOf "-v") then commandsNamed false (args.drop 1)
          else if args.head? == some (bytesOf "-V") then commandsNamed true (args.drop 1)
          else runFields args n
        | "type" => typeOf args
        | "which" => which args
        | "exec" => do
          runFields args n
          throw (.exit (← get).frame.status)
        | "env" => runEnv args n
        | "xargs" => do
          let more := Tool.words (← input)
          setInput []
          let args := if args.isEmpty then [bytesOf "echo"] else args
          runFields (args ++ more) n
        | "bash" => runShell args n
        | "sh" => runShell args n
        | _ =>
          match Builtin.find? text with
          | some act => act args
          | none =>
            match tool? name with
            | some tool => runTool tool args
            | none => notFound name

/-- Shows the environment, or runs a command with more variables in it. -/
def runEnv (args : List Bytes) : Nat → Running Unit
  | 0 => throw .killed
  | n + 1 => do
    let bare := args.head? == some (bytesOf "-i")
    let args := if bare then args.drop 1 else args
    let assigned := args.takeWhile fun a => a.contains 61
    let rest := args.drop assigned.length
    inSubshell do
      if bare then
        modifyFrame fun f => { f with bindings := f.bindings.filter fun e => !e.2.exported }
      assigned.forM fun a => do
        let (name, value) := Builtin.nameAndValue a
        setVariable name (value.getD [])
        exportVariable name
      if rest.isEmpty then runTool Tool.printenv [] else runFields rest n

/-- Runs a script in a shell of its own. -/
def runShell (args : List Bytes) : Nat → Running Unit
  | 0 => throw .killed
  | n + 1 => do
    match args with
    | flag :: script :: rest =>
      if flag == bytesOf "-c" then
        inSubshell do
          modifyFrame fun f => { f with
            args := rest.drop 1, functions := [], stopOnError := false, stopOnUnset := false
            pipeFail := false, guarded := false, inFunction := false, loops := 0
            bindings := f.bindings.filter fun e => e.2.exported, status := 0 }
          runText (Tool.textOf script) n
      else setStatus 0
    | _ => setStatus 0

/-- Runs the body of a function on arguments. -/
def runFunction (body : Command) (args : List Bytes) : Nat → Running Unit
  | 0 => throw .killed
  | n + 1 => do
    let before := (← get).frame
    modifyFrame fun f => { f with args, inFunction := true, locals := [], loops := 0 }
    let leave : Running Unit := do
      (← get).frame.locals.forM fun e => restoreVariable e.1 e.2
      modifyFrame fun f => { f with
        args := before.args, inFunction := before.inFunction, locals := before.locals
        loops := before.loops }
    tryCatch (runCommand body n) fun jump => do
      match jump with
      | .leaveFunction => pure ()
      | jump => do
        leave
        throw jump
    leave

/-- Runs a text as a script in this shell. -/
def runText (text : String) : Nat → Running Unit
  | 0 => throw .killed
  | n + 1 => do
    let script := Script.ofText text
    let documents := (← get).documents
    modify fun m => { m with documents := script.documents }
    runLines script.lines n
    modify fun m => { m with documents }
    if let some fault := script.fault then
      (faultLines text fault).forM writeError
      setStatus (if fault matches .badSubstitution .. then 1 else 2)

/-- Runs lines of commands; a line that is dropped does not keep the next from being run. -/
def runLines : List Command → Nat → Running Unit
  | _, 0 => throw .killed
  | [], _ + 1 => pure ()
  | c :: rest, n + 1 => do
    tryCatch (runCommand c n) fun jump =>
      match jump with
      | .dropLine => setStatus 1
      | jump => throw jump
    runLines rest n

end

end Machine

end Workplan.Shell
