/-
# `Workplan.Main` — the program

The program reads the files that its arguments name, runs the command on them, writes back what
the command changed, and prints what it said.
-/
import Std.Time.DateTime.Timestamp
import Workplan.CommandLine.Program
import Workplan.Journal.Stamp

namespace Workplan.CommandLine

/-- The files that a command may read. -/
def Command.paths : Command → List String
  | .init path => [FileTree.joinPath path manifestName]
  | .validate file => [file]
  | .list file _ _ _ => [file]
  | .describe file _ _ => [file]
  | .plan file _ _ => [file]
  | .run file _ bindings state _ _ =>
    [file, Journal.path state] ++
      bindings.filterMap fun b => (splitAtSign b.toList).map fun s => String.ofList s.2
  | .history state _ => [Journal.path state]

/-- A tree with a file in it, and the directories above the file. -/
def placeFile (t : FileTree) (path : String) (content : ByteArray) : FileTree :=
  let parent := "/".intercalate (path.splitOn "/").dropLast
  let parent := if path.startsWith "/" then "/" ++ parent else parent
  let t := (t.makeDirectories parent).toOption.getD t
  (t.write path content).toOption.getD t

/-- A tree with a file as the disk has it, if it can be read. -/
def loadFile (t : FileTree) (path : String) : IO FileTree := do
  try
    pure (placeFile t path (← IO.FS.readBinFile path))
  catch _ => pure t

/-- Whether a tree has the same under a path. -/
def unchanged (t : FileTree) (p : Path) : FileNode → Bool
  | .file content =>
    match t.node? p with
    | some (.file old) => old == content
    | _ => false
  | _ => (t.node? p).isSome

/-- Writes back what is not as it was. -/
def storeChanges (before after : FileTree) : IO Unit :=
  after.nodes.forM fun (p, node) => do
    if !unchanged before p node then
      let path :=
        if after.current.isPrefixOf p then "/".intercalate (p.drop after.current.length)
        else "/" ++ "/".intercalate p
      match node with
      | .directory => IO.FS.createDirAll path
      | .file content => IO.FS.writeBinFile path content
      | .null => pure ()

/-- Runs a command on the disk; the result is the status of the program. -/
def runOnDisk (c : Command) : IO UInt32 := do
  let now ← Std.Time.Timestamp.now
  let setting : Setting :=
    { run := Journal.runName now.toNanosecondsSinceUnixEpoch.toInt.toNat
      time := Journal.timestamp now.toSecondsSinceUnixEpoch.toInt.toNat }
  let before ← c.paths.foldlM loadFile .fresh
  let (ending, console) := execute setting before c
  storeChanges before console.files
  IO.print console.stdout
  IO.eprint console.stderr
  match ending with
  | .ok () => pure 0
  | .error e => do
    IO.eprintln ("error: " ++ e.message)
    pure 1

end Workplan.CommandLine

open Workplan.CommandLine in
/-- The program: its status is 2 if the arguments name no command. -/
def main (args : List String) : IO UInt32 := do
  match Command.read args with
  | .ok c => runOnDisk c
  | .error _ => do
    IO.eprintln "error: usage: capforge init|validate|list|describe|plan|run|history ..."
    pure 2
