/-
# `Workplan.Shell.Machine` — the state of a running script

The state has two parts.  The world is shared by everything that runs: files, streams being
written, streams being read.  The frame belongs to one shell: variables, functions, arguments,
options and the descriptors; a subshell works on a copy of it.
-/
import Workplan.Files.Tree
import Workplan.Shell.Wildcard

namespace Workplan.Shell

/-- What a descriptor is connected to: a stream that is written or read, a file that is written at
its end, or nothing. -/
inductive Channel where
  | written (number : Nat)
  | read (number : Nat)
  | file (path : String)
  | nothing
deriving DecidableEq

/-- The value of a variable, whether programs get to see it, and whether it stays as it is. -/
structure Variable where
  value : Bytes
  exported : Bool := false
  fixed : Bool := false

/-- What all shells of a script share. -/
structure World where
  files : FileTree
  written : Array ByteArray
  read : Array Bytes

/-- What belongs to one shell.  `substituted` is the status of the last command whose output was
inserted into the command that is being expanded; `loops` is the number of loops around it;
`atExit` is the script to be run in the end. -/
structure Frame where
  bindings : List (String × Variable)
  functions : List (String × Command) := []
  args : List Bytes := []
  channels : List (Nat × Channel)
  locals : List (String × Option Variable) := []
  inFunction : Bool := false
  stopOnError : Bool := false
  stopOnUnset : Bool := false
  pipeFail : Bool := false
  guarded : Bool := false
  loops : Nat := 0
  status : Nat := 0
  substituted : Option Nat := none
  atExit : Option String := none
  line : Nat := 1

/-- A running script. -/
structure Machine where
  world : World
  frame : Frame
  documents : Array Word

/-- Why control does not go on to the next command. -/
inductive Jump where
  | exit (status : Nat)
  | leaveLoops (count : Nat)
  | nextRound (count : Nat)
  | leaveFunction
  | dropLine
  | killed

abbrev Running := ExceptT Jump (StateM Machine)

namespace Machine

def modifyFrame (change : Frame → Frame) : Running Unit :=
  modify fun m => { m with frame := change m.frame }

def modifyWorld (change : World → World) : Running Unit :=
  modify fun m => { m with world := change m.world }

def files : Running FileTree := do pure (← get).world.files

def setStatus (n : Nat) : Running Unit := modifyFrame fun f => { f with status := n }

/-! ## Streams -/

/-- What a descriptor is connected to. -/
def channel (descriptor : Nat) : Running Channel := do
  pure (((← get).frame.channels.lookup descriptor).getD .nothing)

/-- Writes to a channel. -/
def writeTo (c : Channel) (bytes : Bytes) : Running Unit :=
  match c with
  | .written n =>
    modifyWorld fun w => { w with written := w.written.modify n fun b => b ++ ⟨bytes.toArray⟩ }
  | .file path =>
    modifyWorld fun w => { w with
      files := (w.files.append path ⟨bytes.toArray⟩).toOption.getD w.files }
  | _ => pure ()

def write (bytes : Bytes) : Running Unit := do writeTo (← channel 1) bytes

def writeError (text : String) : Running Unit := do
  writeTo (← channel 2) (bytesOf (text ++ "\n"))

/-- Writes a message of the shell itself; inside of a function it goes by another name. -/
def complain (text : String) : Running Unit := do
  let f := (← get).frame
  writeError ((if f.inFunction then "environment" else "bash") ++ ": line " ++ toString f.line ++
    ": " ++ text)

/-- What is left of the input. -/
def input : Running Bytes := do
  match ← channel 0 with
  | .read n => pure ((← get).world.read.getD n [])
  | _ => pure []

/-- Leaves only so much of the input. -/
def setInput (bytes : Bytes) : Running Unit := do
  match ← channel 0 with
  | .read n => modifyWorld fun w => { w with read := w.read.set! n bytes }
  | _ => pure ()

/-- A new stream to be read. -/
def openInput (bytes : Bytes) : Running Channel := do
  let n := (← get).world.read.size
  modifyWorld fun w => { w with read := w.read.push bytes }
  pure (.read n)

/-- A new stream to be written. -/
def openOutput : Running Nat := do
  let n := (← get).world.written.size
  modifyWorld fun w => { w with written := w.written.push .empty }
  pure n

def writtenTo (n : Nat) : Running Bytes := do
  pure ((← get).world.written.getD n .empty).toList

/-- Connects a descriptor. -/
def connect (descriptor : Nat) (c : Channel) : Running Unit :=
  modifyFrame fun f => { f with
    channels := (descriptor, c) :: f.channels.filter fun e => e.1 != descriptor }

/-! ## Variables -/

/-- The number by which the shell knows itself. -/
def processId : Bytes := bytesOf "4711"

def find? (name : String) : Running (Option Variable) := do
  pure ((← get).frame.bindings.lookup name)

/-- The value of a parameter, if it has one. -/
def value? (name : String) : Running (Option Bytes) := do
  let f := (← get).frame
  match name with
  | "?" => pure (some (bytesOf (toString f.status)))
  | "#" => pure (some (bytesOf (toString f.args.length)))
  | "$" => pure (some processId)
  | "-" => pure (some (bytesOf "hBc"))
  | "!" => pure none
  | "0" => pure (some (bytesOf "bash"))
  | "LINENO" => pure (some (bytesOf (toString f.line)))
  | _ =>
    match name.toNat? with
    | some n => pure (f.args[n - 1]?)
    | none => pure ((f.bindings.lookup name).map Variable.value)

/-- Changes a variable; one that is not there yet starts out empty. -/
def modifyVariable (name : String) (change : Variable → Variable) : Running Unit :=
  modifyFrame fun f => { f with
    bindings := if f.bindings.any fun e => e.1 == name then
        f.bindings.map fun e => if e.1 == name then (name, change e.2) else e
      else f.bindings ++ [(name, change ⟨[], false, false⟩)] }

/-- Gives a variable a value, and leaves open to whom it is visible. -/
def setVariable (name : String) (value : Bytes) : Running Unit :=
  modifyVariable name fun v => { v with value }

def unsetVariable (name : String) : Running Unit :=
  modifyFrame fun f => { f with bindings := f.bindings.filter fun e => e.1 != name }

/-- Puts a variable back to what it was. -/
def restoreVariable (name : String) : Option Variable → Running Unit
  | none => unsetVariable name
  | some v => modifyVariable name fun _ => v

/-- Makes a variable that is set visible to programs. -/
def exportVariable (name : String) : Running Unit := do
  if (← find? name).isSome then modifyVariable name fun v => { v with exported := true }

/-- Whether a variable stays as it is. -/
def isFixed (name : String) : Running Bool := do
  pure (((← find? name).map Variable.fixed).getD false)

/-- Gives a variable a value, and tells whether it took it; one that is fixed does not.  The
message begins with a label. -/
def assign (label name : String) (value : Bytes) : Running Bool := do
  if ← isFixed name then
    complain (label ++ name ++ ": readonly variable")
    setStatus 1
    pure false
  else
    setVariable name value
    pure true

/-- The bytes at which unquoted expansions are split. -/
def separators : Running Bytes := do
  pure (((← find? "IFS").map Variable.value).getD (bytesOf " \t\n"))

/-- The variables that programs get to see. -/
def environment : Running (List (Bytes × Bytes)) := do
  pure ((← get).frame.bindings.filterMap fun e =>
    if e.2.exported then some (bytesOf e.1, e.2.value) else none)

end Machine

end Workplan.Shell
