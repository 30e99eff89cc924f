/-
# `Workplan.Shell.Builtins` — commands that act on the shell itself

A command of this kind changes the variables, options or control of the shell that runs it, or is
so common that the shell does it by itself.  Each sets the status; some jump.
-/
import Workplan.Shell.Arithmetic
import Workplan.Shell.Fields
import Workplan.Shell.Format
import Workplan.Shell.Machine
import Workplan.Shell.Test
import Workplan.Shell.Tools

namespace Workplan.Shell

namespace Machine

/-- The value of an expression, if it has one and its variables take what is assigned to them.
Messages begin with a label. -/
def evaluate? (label text : String) : Running (Option Int) := do
  let m ← get
  let lookup (name : String) : String :=
    ((m.frame.bindings.lookup name).map fun v => Tool.textOf v.value).getD ""
  match Arith.evalText lookup text with
  | .ok (value, assigned) =>
    let taken ← assigned.reverse.mapM fun (name, n) => assign "" name (bytesOf (toString n))
    pure (if taken.all id then some value else none)
  | .error fault =>
    complain (label ++ String.ofList (Arith.blankless text.toList) ++ ": " ++ fault.message)
    setStatus 1
    pure none

/-- The value of an expression; an expression without one drops the line of commands. -/
def evaluate (text : String) : Running Int := do
  match ← evaluate? "" text with
  | some value => pure value
  | none => throw .dropLine

/-- The value of an expression that is a command by itself, which fails where there is none. -/
def evaluateAlone (text : String) : Running (Option Int) := evaluate? "((: " text

end Machine

namespace Builtin

open Machine

def done : Running Unit := setStatus 0

/-- Ends with a message and a status. -/
def fails (text : String) (status : Nat) : Running Unit := do
  complain text
  setStatus status

/-- Ends by saying how the command is used. -/
def misused (command usage : String) : Running Unit := do
  writeError (command ++ ": usage: " ++ command ++ " " ++ usage)
  setStatus 2

/-- Stops the script at a second argument. -/
def atMostOne (command : String) (args : List Bytes) : Running Unit := do
  if 1 < args.length then
    complain (command ++ ": too many arguments")
    throw (.exit 1)

/-! ## Output -/

/-- Whether an argument of `echo` is made of its options. -/
def isEchoOption (arg : Bytes) : Bool :=
  match arg with
  | 45 :: b :: more => (b :: more).all fun x => x == 110 || x == 101 || x == 69
  | _ => false

def echo (args : List Bytes) : Running Unit := do
  let options := (args.takeWhile isEchoOption).flatten
  let words := args.dropWhile isEchoOption
  let body := [32].intercalate words
  let interprets := (options.filter fun b => b == 101 || b == 69).getLast? == some 101
  let (bytes, ended) := if interprets then Escape.expand .echo body else (body, false)
  write (bytes ++ if ended || options.contains 110 then [] else [10])
  done

def printf (args : List Bytes) : Running Unit := do
  let (target, args) :=
    match args with
    | flag :: name :: rest =>
      if flag == bytesOf "-v" then (some (Tool.textOf name), rest) else (none, args)
    | _ => (none, args)
  let ended := args.head? == some (bytesOf "--")
  let args := if ended then args.drop 1 else args
  match args with
  | [] => misused "printf" "[-v var] format [arguments]"
  | format :: values =>
    if format.head? == some 45 && format.length > 1 && !ended && target.isNone then do
      complain ("printf: " ++ Tool.textOf (format.take 2) ++ ": invalid option")
      misused "printf" "[-v var] format [arguments]"
    else do
      let out := Format.apply format values
      setStatus (if out.complaints.isEmpty then 0 else 1)
      match target with
      | some name => discard (assign "" name out.bytes)
      | none => write out.bytes
      out.complaints.forM complain

/-! ## Places and variables -/

/-- Makes a directory the current one. -/
def enter (path : String) : Running Unit := do
  let files ← files
  match files.get path, files.resolve path with
  | .ok .directory, .ok p => do
    setVariable "OLDPWD" ((← value? "PWD").getD [])
    modifyWorld fun w => { w with files := { w.files with current := p } }
    setVariable "PWD" (bytesOf ("/" ++ "/".intercalate p))
    done
  | .ok _, _ => fails ("cd: " ++ path ++ ": Not a directory") 1
  | .error e, _ => fails ("cd: " ++ path ++ ": " ++ e.brief) 1

def pwd : Running Unit := do
  write (bytesOf ("/" ++ "/".intercalate (← files).current) ++ [10])
  done

/-- Enters the directory that a variable names. -/
def enterNamed (name : String) : Running Unit := do
  match ← value? name with
  | some path => enter (Tool.textOf path)
  | none => fails ("cd: " ++ name ++ " not set") 1

def cd (args : List Bytes) : Running Unit := do
  match args with
  | [] => enterNamed "HOME"
  | [target] =>
    if target == [45] then
      enterNamed "OLDPWD"
      if (← get).frame.status = 0 then pwd
    else enter (Tool.textOf target)
  | _ => fails "cd: too many arguments" 1

/-- The name and value of an argument that assigns, or the name alone. -/
def nameAndValue (arg : Bytes) : String × Option Bytes :=
  let name := arg.takeWhile (· != 61)
  (Tool.textOf name, if arg.length > name.length then some (arg.drop (name.length + 1)) else none)

/-- Handles the arguments of a declaration one by one; one that names no variable is refused. -/
def declareEach (command : String) (args : List Bytes)
    (act : String → Option Bytes → Running Unit) : Running Unit := do
  setStatus 0
  args.forM fun arg => do
    if arg.head? != some 45 then
      let (name, value) := nameAndValue arg
      if isName name then act name value
      else fails (command ++ ": `" ++ Tool.textOf arg ++ "': not a valid identifier") 1

def exportNames (args : List Bytes) : Running Unit :=
  declareEach "export" args fun name value => do
    if let some v := value then discard (assign "" name v)
    exportVariable name

/-- Gives a variable a value until the function ends. -/
def localName (command name : String) (value : Option Bytes) : Running Unit := do
  if (← get).frame.inFunction && !(← isFixed name) then
    let before ← find? name
    modifyFrame fun f => { f with locals := (name, before) :: f.locals }
  discard (assign (command ++ ": ") name (value.getD []))

def declareNames (command : String) (args : List Bytes) : Running Unit :=
  declareEach command args fun name value => do
    localName command name value
    if args.contains (bytesOf "-x") then exportVariable name
    if args.contains (bytesOf "-r") then modifyVariable name fun v => { v with fixed := true }

def fixNames (args : List Bytes) : Running Unit :=
  declareEach "readonly" args fun name value => do
    if let some v := value then discard (assign "" name v)
    modifyVariable name fun v => { v with fixed := true }

def localNames (args : List Bytes) : Running Unit := do
  if (← get).frame.inFunction then declareNames "local" args
  else fails "local: can only be used in a function" 1

def unset (args : List Bytes) : Running Unit := do
  done
  args.forM fun arg => do
    let name := Tool.textOf arg
    if arg.head? == some 45 then pure ()
    else if ← isFixed name then
      fails ("unset: " ++ name ++ ": cannot unset: readonly variable") 1
    else
      unsetVariable name
      modifyFrame fun f => { f with functions := f.functions.filter fun e => e.1 != name }

/-- The change of the options of the shell that letters ask for. -/
def setOptions (letters : Bytes) (on : Bool) : Running Unit :=
  modifyFrame fun f => { f with
    stopOnError := if letters.contains (byteOf 'e') then on else f.stopOnError
    stopOnUnset := if letters.contains (byteOf 'u') then on else f.stopOnUnset }

/-- Sets or clears the option that has a name. -/
def setNamed (name : Bytes) (on : Bool) : Running Unit :=
  match Tool.wide name with
  | "errexit" => setOptions (bytesOf "e") on
  | "nounset" => setOptions (bytesOf "u") on
  | "pipefail" => modifyFrame fun f => { f with pipeFail := on }
  | _ => pure ()

/-- Whether an argument is made of letters of options, and whether it sets or clears them. -/
def optionLetters? (arg : Bytes) : Option (Bytes × Bool) :=
  match arg with
  | 45 :: letters => some (letters, true)
  | 43 :: letters => some (letters, false)
  | _ => none

/-- Sets options; the first argument that is none begins the arguments of the shell. -/
def setCommand : List Bytes → Running Unit
  | [] => done
  | arg :: rest =>
    match optionLetters? arg with
    | none => do
      modifyFrame fun f => { f with args := arg :: rest }
      done
    | some (letters, on) =>
      if arg == bytesOf "--" then do
        modifyFrame fun f => { f with args := rest }
        done
      else do
        setOptions letters on
        match letters.contains (byteOf 'o'), rest with
        | true, name :: more => do
          setNamed name on
          setCommand more
        | _, rest => setCommand rest

def shift (args : List Bytes) : Running Unit := do
  atMostOne "shift" args
  let n := (args.head?.bind Tool.natural?).getD 1
  if n ≤ (← get).frame.args.length then
    modifyFrame fun f => { f with args := f.args.drop n }
    done
  else setStatus 1

/-! ## Input -/

/-- A line as `read` takes it: a backslash hides the byte after it, also the end of the line.
The rest, and whether the line was ended, come with it. -/
def takeLine (raw : Bool) : Bytes → List Mark × Bytes × Bool
  | [] => ([], [], false)
  | 10 :: rest => ([], rest, true)
  | 92 :: 10 :: rest => if raw then ([⟨92, false⟩], rest, true) else takeLine raw rest
  | 92 :: b :: rest =>
    let (marks, after, ended) := takeLine raw rest
    (if raw then (⟨92, false⟩ :: ⟨b, false⟩ :: marks, after, ended)
     else (⟨b, true⟩ :: marks, after, ended))
  | b :: rest =>
    let (marks, after, ended) := takeLine raw rest
    (⟨b, false⟩ :: marks, after, ended)

def isSeparator (separators : Bytes) (m : Mark) : Bool := !m.quoted && separators.contains m.byte

def isBlankSeparator (separators : Bytes) (m : Mark) : Bool :=
  isSeparator separators m && Splitting.isBlankByte m.byte

def trimEnd (separators : Bytes) (marks : List Mark) : List Mark :=
  (marks.reverse.dropWhile (isBlankSeparator separators)).reverse

/-- Deals out a line to names: a field to each, and all that is left to the last. -/
def dealOut (separators : Bytes) : List String → List Mark → List (String × Bytes)
  | [], _ => []
  | [name], marks =>
    let marks := marks.dropWhile (isBlankSeparator separators)
    [(name, (trimEnd separators marks).map Mark.byte)]
  | name :: rest, marks =>
    let marks := marks.dropWhile (isBlankSeparator separators)
    let field := marks.takeWhile fun m => !isSeparator separators m
    let after := (marks.drop field.length).dropWhile (isBlankSeparator separators)
    let after := match after with
      | m :: more =>
        if isSeparator separators m && !isBlankSeparator separators m then more else after
      | [] => []
    (name, field.map Mark.byte) :: dealOut separators rest after

def read (args : List Bytes) : Running Unit := do
  let raw := args.contains (bytesOf "-r")
  let names := (args.filter fun a => a.head? != some 45).map Tool.textOf
  let (marks, rest, ended) := takeLine raw (← input)
  setInput rest
  setStatus (if ended then 0 else 1)
  if names.isEmpty then setVariable "REPLY" (marks.map Mark.byte)
  else
    (dealOut (← separators) names marks).forM fun (name, value) =>
      discard (assign "" name value)

/-! ## Control -/

/-- The status that an argument names, which is the last one where there is no argument. -/
def statusOf (command : String) (args : List Bytes) : Running Nat := do
  match args.head? with
  | none => pure (← get).frame.status
  | some arg =>
    match Tool.integer? arg with
    | some n => do
      atMostOne command args
      pure (n.emod 256).toNat
    | none => do
      complain (command ++ ": " ++ Tool.textOf arg ++ ": numeric argument required")
      pure 2

def exit (args : List Bytes) : Running Unit := do
  throw (.exit (← statusOf "exit" args))

def returnFrom (args : List Bytes) : Running Unit := do
  if (← get).frame.inFunction then
    setStatus (← statusOf "return" args)
    throw .leaveFunction
  else
    fails "return: can only `return' from a function or sourced script" 2

/-- Jumps out of a loop, or into its next round; outside of loops there is nothing to do. -/
def jumpInLoop (command : String) (jump : Nat → Jump) (args : List Bytes) : Running Unit := do
  done
  let depth := (← get).frame.loops
  if depth = 0 then
    complain (command ++ ": only meaningful in a `for', `while', or `until' loop")
  else
    match args with
    | [] => throw (jump 1)
    | arg :: _ =>
      match Tool.integer? arg with
      | none => do
        complain (command ++ ": " ++ Tool.textOf arg ++ ": numeric argument required")
        throw (.exit 128)
      | some count => do
        atMostOne command args
        if count ≤ 0 then
          fails (command ++ ": " ++ Tool.textOf arg ++ ": loop count out of range") 1
          throw (.leaveLoops depth)
        else throw (jump (min depth count.toNat))

def kill (args : List Bytes) : Running Unit := do
  let words := args.map Tool.wide
  let harmless := words.contains "-0" || words.contains "-CHLD" || words.contains "-CONT"
  let targets := (args.filter fun a => a.head? != some 45)
  if targets.contains processId then
    if harmless then done else throw .killed
  else if targets.isEmpty then
    misused "kill" ("[-s sigspec | -n signum | -sigspec] pid | jobspec ... " ++
      "or kill -l [sigspec]")
  else fails ("kill: (" ++ Tool.textOf (targets.head?.getD []) ++ ") - No such process") 1

/-- Sets or clears what is run when the script ends. -/
def trap (args : List Bytes) : Running Unit := do
  match args with
  | [text, signal] =>
    if signal == bytesOf "EXIT" || signal == [48] then
      let atExit := if text == [45] then none else some (Tool.textOf text)
      modifyFrame fun f => { f with atExit }
  | _ => pure ()
  done

def test (name : String) (args : List Bytes) : Running Unit := do
  let args? :=
    if name == "[" then
      if args.getLast? == some (bytesOf "]") then some args.dropLast else none
    else some args
  match args? with
  | none => fails "[: missing `]'" 2
  | some args =>
    match Test.evaluate (← files) args with
    | .ok b => setStatus (if b then 0 else 1)
    | .error e => fails (name ++ ": " ++ e) 2

def letCommand (args : List Bytes) : Running Unit := do
  setStatus 1
  if args.isEmpty then complain "let: expression expected"
  for arg in args do
    match ← evaluate? "let: " (Tool.textOf arg) with
    | some value => setStatus (if value == 0 then 1 else 0)
    | none => return

/-- The commands of this module. -/
def find? (name : String) : Option (List Bytes → Running Unit) :=
  match name with
  | ":" => some fun _ => done
  | "true" => some fun _ => done
  | "false" => some fun _ => setStatus 1
  | "echo" => some echo
  | "printf" => some printf
  | "cd" => some cd
  | "pwd" => some fun _ => pwd
  | "export" => some exportNames
  | "local" => some localNames
  | "declare" => some (declareNames "declare")
  | "typeset" => some (declareNames "typeset")
  | "readonly" => some fixNames
  | "unset" => some unset
  | "set" => some setCommand
  | "shift" => some shift
  | "read" => some read
  | "exit" => some exit
  | "return" => some returnFrom
  | "break" => some (jumpInLoop "break" .leaveLoops)
  | "continue" => some (jumpInLoop "continue" .nextRound)
  | "kill" => some kill
  | "test" => some (test "test")
  | "[" => some (test "[")
  | "let" => some letCommand
  | "wait" => some fun _ => done
  | "trap" => some trap
  | "umask" => some fun _ => done
  | _ => none

/-- The commands before whose arguments an assignment is no word to be split. -/
def declares (name : String) : Bool :=
  ["export", "local", "declare", "typeset", "readonly"].contains name

end Builtin

end Workplan.Shell
