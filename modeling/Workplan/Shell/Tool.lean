/-
# `Workplan.Shell.Tool` — programs that scripts call

A program gets its arguments, all that stands in its input, its environment and the files, and
leaves output, complaints and a status.  Operands name files; a dash names the input.
-/
import Workplan.Files.Tree
import Workplan.Shell.Escape

namespace Workplan.Shell

/-- What a program is started with. -/
structure ToolInput where
  args : List Bytes
  input : Bytes
  environment : List (Bytes × Bytes)
  files : FileTree

/-- What a program leaves; its complaints are lines of the error stream.  `drained` tells whether
it read its input to the end. -/
structure ToolOutput where
  output : Bytes := []
  complaints : List String := []
  status : Nat := 0
  files : FileTree
  drained : Bool := false

namespace Tool

open Escape

/-- The text of bytes, a character for each of them. -/
def wide (bytes : Bytes) : String := String.ofList (bytes.map fun b => Char.ofNat b.toNat)

/-- The text of bytes that are UTF-8, and the wide one of others. -/
def textOf (bytes : Bytes) : String := (String.fromUTF8? ⟨bytes.toArray⟩).getD (wide bytes)

/-- The lines of bytes; a last line without an end is a line too. -/
def lines (bytes : Bytes) : List Bytes :=
  let pieces := bytes.splitOnP (· == 10)
  match pieces.getLast? with
  | some [] => pieces.dropLast
  | _ => pieces

def unlines (ls : List Bytes) : Bytes := ls.flatMap fun l => l ++ [10]

def natural? (bytes : Bytes) : Option Nat :=
  if !bytes.isEmpty && bytes.all isDigit then some (numeral 10 bytes) else none

/-- The integer that an argument is. -/
def integer? (bytes : Bytes) : Option Int :=
  match bytes with
  | 45 :: digits => (natural? digits).map fun n => -(n : Int)
  | 43 :: digits => (natural? digits).map fun n => (n : Int)
  | _ => (natural? bytes).map fun n => (n : Int)

/-- The order of bytes. -/
def bytesLe : Bytes → Bytes → Bool
  | [], _ => true
  | _ :: _, [] => false
  | a :: as, b :: bs => a < b || (a == b && bytesLe as bs)

/-! ## Options -/

/-- The options and operands of a program: letters, some of which take a value. -/
def optionsUpTo (flags valued : List Char) :
    Nat → List Bytes → Except Char (List (Char × Bytes) × List Bytes)
  | 0, args => .ok ([], args)
  | _, [] => .ok ([], [])
  | n + 1, arg :: rest =>
    match arg with
    | 45 :: b :: more =>
      if b == 45 && more.isEmpty then .ok ([], rest)
      else
        let c := Char.ofNat b.toNat
        if flags.contains c then do
          let rest := if more.isEmpty then rest else (45 :: more) :: rest
          let (os, left) ← optionsUpTo flags valued n rest
          .ok ((c, []) :: os, left)
        else if valued.contains c then
          let (value, left) :=
            if more.isEmpty then (rest.head?.getD [], rest.drop 1) else (more, rest)
          (optionsUpTo flags valued n left).map fun (os, left) => ((c, value) :: os, left)
        else .error c
    | _ => do
      let (os, left) ← optionsUpTo flags valued n rest
      .ok (os, arg :: left)

/-- The number of letters and arguments bounds the number of options. -/
def options (flags valued : String) (args : List Bytes) :
    Except Char (List (Char × Bytes) × List Bytes) :=
  optionsUpTo flags.toList valued.toList (args.flatten.length + args.length + 1) args

def has (os : List (Char × Bytes)) (c : Char) : Bool := os.any fun o => o.1 == c

def valueOf? (os : List (Char × Bytes)) (c : Char) : Option Bytes := os.reverse.lookup c

/-- How much of what has no end is written or read. -/
def endless : Nat := 131072

/-- The content of an operand: a file, or the input for a dash. -/
def content (i : ToolInput) (operand : Bytes) : Except FileError Bytes :=
  if operand == [45] then .ok i.input
  else if operand == bytesOf "/dev/zero" then .ok (List.replicate endless 0)
  else (i.files.readBytes (textOf operand)).map ByteArray.toList

/-- The contents of the operands, or the input where there are none, and the complaints about
those that cannot be read.  The input can be read only once. -/
def contents (name : String) (i : ToolInput) (operands : List Bytes) :
    List (Bytes × Bytes) × List String :=
  let operands := if operands.isEmpty then [[45]] else operands
  let first := operands.idxOf [45]
  operands.zipIdx.foldr (fun (operand, k) (found, complaints) =>
    match content (if k ≤ first then i else { i with input := [] }) operand with
    | .ok bytes => ((operand, bytes) :: found, complaints)
    | .error e => (found, (name ++ ": " ++ textOf operand ++ ": " ++ e.brief) :: complaints))
    ([], [])

/-- The output of a program that changes the bytes of its operands taken together. -/
def filter (name : String) (i : ToolInput) (operands : List Bytes) (change : Bytes → Bytes) :
    ToolOutput :=
  let (found, complaints) := contents name i operands
  { output := change (found.flatMap Prod.snd), complaints, files := i.files
    status := if complaints.isEmpty then 0 else 1, drained := found.any fun f => f.1 == [45] }

def refused (name : String) (i : ToolInput) (c : Char) (status : Nat) : ToolOutput :=
  { complaints := [name ++ ": invalid option -- '" ++ String.singleton c ++ "'",
      "Try '" ++ name ++ " --help' for more information."]
    status, files := i.files }

end Tool

end Workplan.Shell
