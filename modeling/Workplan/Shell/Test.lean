/-
# `Workplan.Shell.Test` — conditions on texts, numbers and files

The arguments of `test` are an expression whose meaning depends first of all on how many there
are: one argument holds if it is not empty, whatever it says.
-/
import Workplan.Shell.Tool

namespace Workplan.Shell.Test

/-- The operators on one argument. -/
def unary? (files : FileTree) (operator : Bytes) (arg : Bytes) : Option Bool :=
  let path := Tool.textOf arg
  match Tool.wide operator with
  | "-z" => some arg.isEmpty
  | "-n" => some (!arg.isEmpty)
  | "-e" => some (files.exists? path)
  | "-a" => some (files.exists? path)
  | "-d" => some (files.isDirectory path)
  | "-f" => some (match files.get path with
    | .ok (.file _) => true
    | _ => false)
  | "-r" => some (files.exists? path)
  | "-w" => some (files.exists? path)
  | "-x" => some (files.isDirectory path)
  | "-s" => some (match files.get path with
    | .ok (.file content) => content.size != 0
    | .ok .directory => true
    | _ => false)
  | "-h" => some false
  | "-L" => some false
  | "-t" => some false
  | _ => none

/-- An integer with blanks around it. -/
def integer? (arg : Bytes) : Option Int :=
  let trimmed := (arg.dropWhile (· == 32)).reverse.dropWhile (· == 32) |>.reverse
  Tool.integer? trimmed

/-- The comparisons of numbers. -/
def comparison? (operator : Bytes) : Option (Int → Int → Bool) :=
  match Tool.wide operator with
  | "-eq" => some fun a b => a == b
  | "-ne" => some fun a b => a != b
  | "-lt" => some fun a b => decide (a < b)
  | "-le" => some fun a b => decide (a ≤ b)
  | "-gt" => some fun a b => decide (b < a)
  | "-ge" => some fun a b => decide (b ≤ a)
  | _ => none

/-- The operators on two arguments; the error names an argument that is no integer. -/
def binary? (operator left right : Bytes) : Option (Except String Bool) :=
  match comparison? operator with
  | some compare =>
    match integer? left, integer? right with
    | some a, some b => some (.ok (compare a b))
    | none, _ => some (.error (Tool.textOf left ++ ": integer expression expected"))
    | _, none => some (.error (Tool.textOf right ++ ": integer expression expected"))
  | none =>
    match Tool.wide operator with
    | "=" => some (.ok (left == right))
    | "==" => some (.ok (left == right))
    | "!=" => some (.ok (left != right))
    | "<" => some (.ok (left != right && Tool.bytesLe left right))
    | ">" => some (.ok (left != right && Tool.bytesLe right left))
    | _ => none

/-- Whether the expression of some arguments holds. -/
def holds (files : FileTree) : Nat → List Bytes → Except String Bool
  | 0, _ => .error "too many arguments"
  | _, [] => .ok false
  | _, [a] => .ok (!a.isEmpty)
  | n + 1, [a, b] =>
    if a == bytesOf "!" then (holds files n [b]).map (!·)
    else
      match unary? files a b with
      | some r => .ok r
      | none => .error (Tool.textOf a ++ ": unary operator expected")
  | n + 1, a :: b :: c :: rest =>
    match rest, binary? b a c with
    | [], some r => r
    | _, found =>
      let junction := (a :: b :: c :: rest).zipIdx.find? fun e =>
        0 < e.2 && e.1 == bytesOf "-o"
      let junction := junction.orElse fun _ => (a :: b :: c :: rest).zipIdx.find? fun e =>
        0 < e.2 && e.1 == bytesOf "-a"
      match junction with
      | some (word, k) => do
        let left ← holds files n ((a :: b :: c :: rest).take k)
        let right ← holds files n ((a :: b :: c :: rest).drop (k + 1))
        .ok (if word == bytesOf "-o" then left || right else left && right)
      | none =>
        if a == bytesOf "!" then (holds files n (b :: c :: rest)).map (!·)
        else if a == bytesOf "(" && (c :: rest).getLast? == some (bytesOf ")") then
          holds files n (b :: c :: rest).dropLast
        else
          match found with
          | some _ => .error "too many arguments"
          | none =>
            if rest.isEmpty then .error (Tool.textOf b ++ ": binary operator expected")
            else .error "too many arguments"

/-- Whether the expression of all arguments holds. -/
def evaluate (files : FileTree) (args : List Bytes) : Except String Bool :=
  holds files (args.length + 1) args

end Workplan.Shell.Test
