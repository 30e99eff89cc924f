/-
# `Workplan.Shell.Tools` — all programs that scripts can call

The programs on texts, those on numbers, names and files, and the table of them all.
-/
import Workplan.Shell.TextTools

namespace Workplan.Shell.Tool

/-! ## Numbers and names -/

/-- The numbers from the first to the last in steps. -/
def range (first step last : Int) : List Int :=
  if step = 0 then []
  else
    let span := if 0 < step then last - first else first - last
    if span < 0 then []
    else (List.range ((span / (step.natAbs : Int)).toNat + 1)).map fun (k : Nat) => first + step * k

def seq (i : ToolInput) : ToolOutput :=
  let (mark, args) :=
    match i.args with
    | (45 :: 115 :: []) :: value :: rest => (value, rest)
    | (45 :: 115 :: value) :: rest => (value, rest)
    | _ => ([10], i.args)
  let (wide, args) :=
    match args with
    | flag :: rest => if flag == bytesOf "-w" then (true, rest) else (false, args)
    | [] => (false, args)
  let written (ns : List Int) : ToolOutput :=
    let texts := ns.map fun n => (toString n).toList
    let width := (texts.map List.length).foldl max 0
    let texts := if wide then texts.map fun t => List.replicate (width - t.length) '0' ++ t
      else texts
    let body := mark.intercalate (texts.map fun t => bytesOf (String.ofList t))
    { output := if ns.isEmpty then [] else body ++ [10], files := i.files }
  let bad (arg : Bytes) : ToolOutput :=
    { complaints := ["seq: invalid floating point argument: '" ++ textOf arg ++ "'",
        "Try 'seq --help' for more information."]
      status := 1, files := i.files }
  match args.find? fun a => (integer? a).isNone with
  | some arg => bad arg
  | none =>
    match args.filterMap integer? with
    | [last] => written (range 1 1 last)
    | [first, last] => written (range first 1 last)
    | [first, step, last] => written (range first step last)
    | _ =>
      { complaints := ["seq: missing operand", "Try 'seq --help' for more information."]
        status := 1, files := i.files }

/-- A path without slashes at its end. -/
def withoutSlashes (path : Bytes) : Bytes :=
  let cut := (path.reverse.dropWhile (· == 47)).reverse
  if cut.isEmpty && !path.isEmpty then [47] else cut

def basename (i : ToolInput) : ToolOutput :=
  match i.args with
  | path :: more =>
    let path := withoutSlashes path
    let last := if path == [47] then path else (path.splitOnP (· == 47)).getLast?.getD []
    let suffix := more.head?.getD []
    let last :=
      if !suffix.isEmpty && suffix != last && suffix.isSuffixOf last then
        last.take (last.length - suffix.length)
      else last
    { output := last ++ [10], files := i.files }
  | [] =>
    { complaints := ["basename: missing operand", "Try 'basename --help' for more information."]
      status := 1, files := i.files }

def dirname (i : ToolInput) : ToolOutput :=
  match i.args with
  | path :: _ =>
    let path := withoutSlashes path
    let parent :=
      if path == [47] then path
      else if path.contains 47 then
        withoutSlashes (path.reverse.dropWhile (· != 47)).reverse
      else [46]
    { output := parent ++ [10], files := i.files }
  | [] =>
    { complaints := ["dirname: missing operand", "Try 'dirname --help' for more information."]
      status := 1, files := i.files }

def printenv (i : ToolInput) : ToolOutput :=
  match i.args with
  | [] =>
    { output := unlines (i.environment.map fun e => e.1 ++ [61] ++ e.2), files := i.files }
  | names =>
    let found := names.filterMap fun n => i.environment.lookup n
    { output := unlines found, files := i.files
      status := if found.length = names.length then 0 else 1 }

/-- Two operands and the operator between them. -/
def expr (i : ToolInput) : ToolOutput :=
  let answer (bytes : Bytes) : ToolOutput :=
    { output := bytes ++ [10], files := i.files
      status := if bytes.isEmpty || bytes == [48] then 1 else 0 }
  let fault (text : String) : ToolOutput :=
    { complaints := ["expr: " ++ text], status := 2, files := i.files }
  let number (n : Int) : ToolOutput := answer (bytesOf (toString n))
  let truth (b : Bool) : ToolOutput := answer (if b then [49] else [48])
  match i.args with
  | [] => { fault "missing operand" with
      complaints := ["expr: missing operand", "Try 'expr --help' for more information."] }
  | [a] => answer a
  | [a, op, b] =>
    let compare (test : Int → Bool) : ToolOutput :=
      match integer? a, integer? b with
      | some x, some y => truth (test (x - y))
      | _, _ => truth (test (if a == b then 0 else if bytesLe a b then -1 else 1))
    let compute (f : Int → Int → ToolOutput) : ToolOutput :=
      match integer? a, integer? b with
      | some x, some y => f x y
      | _, _ => fault "non-integer argument"
    match wide op with
    | "+" => compute fun x y => number (x + y)
    | "-" => compute fun x y => number (x - y)
    | "*" => compute fun x y => number (x * y)
    | "/" => compute fun x y => if y = 0 then fault "division by zero" else number (x.tdiv y)
    | "%" => compute fun x y => if y = 0 then fault "division by zero" else number (x.tmod y)
    | "=" => compare fun d => d == 0
    | "!=" => compare fun d => d != 0
    | "<" => compare fun d => decide (d < 0)
    | "<=" => compare fun d => decide (d ≤ 0)
    | ">" => compare fun d => decide (0 < d)
    | ">=" => compare fun d => decide (0 ≤ d)
    | _ => fault ("syntax error: unexpected argument '" ++ textOf op ++ "'")
  | _ => fault "syntax error"

/-! ## Files -/

/-- Applies a change for each operand, with a complaint where it fails. -/
def change (i : ToolInput) (operands : List Bytes) (complaint : String → FileError → String)
    (apply : FileTree → String → Except FileError FileTree) : ToolOutput :=
  operands.foldl (fun out operand =>
    let path := textOf operand
    match apply out.files path with
    | .ok files => { out with files }
    | .error e =>
      { out with complaints := out.complaints ++ [complaint path e], status := 1 })
    { files := i.files }

def touch (i : ToolInput) : ToolOutput :=
  change i i.args (fun path e => "touch: cannot touch '" ++ path ++ "': " ++ e.brief)
    fun files path => if files.exists? path then .ok files else files.append path .empty

def mkdir (i : ToolInput) : ToolOutput :=
  match options "p" "" i.args with
  | .error c => refused "mkdir" i c 1
  | .ok (os, operands) =>
    change i operands (fun path e => "mkdir: cannot create directory '" ++ path ++ "': " ++ e.brief)
      fun files path =>
        if has os 'p' then files.makeDirectories path
        else if files.exists? path then .error .exists
        else do
          let p ← files.resolve path
          match files.node? p.dropLast with
          | some .directory => files.makeDirectories path
          | some _ => .error .notDirectory
          | none => .error .notFound

def rm (i : ToolInput) : ToolOutput :=
  match options "rRf" "" i.args with
  | .error c => refused "rm" i c 1
  | .ok (os, operands) =>
    change i operands (fun path e => "rm: cannot remove '" ++ path ++ "': " ++ e.brief)
      fun files path =>
        match files.get path with
        | .error e => if has os 'f' && e = .notFound then .ok files else .error e
        | .ok .directory =>
          if has os 'r' || has os 'R' then (files.resolve path).map files.removeNode
          else .error .isDirectory
        | .ok _ => (files.resolve path).map files.removeNode

def tee (i : ToolInput) : ToolOutput :=
  match options "a" "" i.args with
  | .error c => refused "tee" i c 1
  | .ok (os, operands) =>
    let bytes : ByteArray := ⟨i.input.toArray⟩
    let out := change i operands (fun path e => "tee: " ++ path ++ ": " ++ e.brief)
      fun files path => if has os 'a' then files.append path bytes else files.write path bytes
    { out with output := i.input, drained := true }

def ls (i : ToolInput) : ToolOutput :=
  match options "1a" "" i.args with
  | .error c => refused "ls" i c 2
  | .ok (_, operands) =>
    let operands := if operands.isEmpty then [bytesOf "."] else operands
    operands.foldl (fun out operand =>
      let path := textOf operand
      match i.files.get path, i.files.resolve path with
      | .ok .directory, .ok p =>
        { out with output := out.output ++ unlines ((i.files.namesIn p).map bytesOf) }
      | .ok _, _ => { out with output := out.output ++ operand ++ [10] }
      | .error e, _ =>
        { out with complaints :=
            out.complaints ++ ["ls: cannot access '" ++ path ++ "': " ++ e.brief], status := 2 })
      { files := i.files }

/-- Writes a line again and again; no program reads more of it than is written here. -/
def yes (i : ToolInput) : ToolOutput :=
  let line := (if i.args.isEmpty then bytesOf "y" else [32].intercalate i.args) ++ [10]
  { output := (List.replicate (endless / line.length + 1) line).flatten, files := i.files }

/-! ## All programs -/

/-- The program with a name. -/
def find? (name : String) : Option (ToolInput → ToolOutput) :=
  match name with
  | "cat" => some cat
  | "tr" => some tr
  | "grep" => some (grep false)
  | "egrep" => some (grep true)
  | "sort" => some sort
  | "uniq" => some uniq
  | "head" => some head
  | "tail" => some tail
  | "wc" => some wc
  | "cut" => some cut
  | "tac" => some tac
  | "rev" => some rev
  | "seq" => some seq
  | "expr" => some expr
  | "basename" => some basename
  | "dirname" => some dirname
  | "printenv" => some printenv
  | "touch" => some touch
  | "mkdir" => some mkdir
  | "rm" => some rm
  | "tee" => some tee
  | "ls" => some ls
  | "yes" => some yes
  | "sleep" => some fun i => { files := i.files }
  | _ => none

end Workplan.Shell.Tool
