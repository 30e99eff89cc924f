/-
# `Workplan.Shell.TextTools` — programs that work on texts

These programs read their operands, or their input, line by line or byte by byte, and write what
they make of it.
-/
import Workplan.Pattern.Basic
import Workplan.Shell.Tool
import Workplan.Shell.Wildcard

namespace Workplan.Shell.Tool

open Escape

def cat (i : ToolInput) : ToolOutput :=
  match options "nu" "" i.args with
  | .error c => refused "cat" i c 1
  | .ok (os, operands) =>
    filter "cat" i operands fun bytes =>
      if has os 'n' then
        (lines bytes).zipIdx.flatMap fun (l, k) =>
          let number := (toString (k + 1)).toList
          bytesOf (String.ofList (List.replicate (6 - number.length) ' ' ++ number ++ ['\t'])) ++
            l ++ [10]
      else bytes

/-- The bytes that a set of `tr` stands for. -/
def setOfUpTo : Nat → Bytes → Bytes
  | 0, _ => []
  | _, [] => []
  | n + 1, bytes =>
    let classNamed :=
      if bytes.take 2 == bytesOf "[:" then
        let name := (bytes.drop 2).takeWhile fun b => b != byteOf ':'
        if (bytes.drop (2 + name.length)).take 2 == bytesOf ":]" then
          (namedClass? (wide name)).map fun p => (p, name.length + 4)
        else none
      else none
    match classNamed with
    | some (p, length) =>
      (List.range 256).filterMap (fun k => if p k.toUInt8 then some k.toUInt8 else none) ++
        setOfUpTo n (bytes.drop length)
    | none =>
      let (first, length) : Bytes × Nat :=
        match bytes with
        | 92 :: c :: more =>
          match one .format c more with
          | some (found, taken) => (found.drop (if found.length = 2 then 1 else 0), taken + 1)
          | none => ([c], 2)
        | b :: _ => ([b], 1)
        | [] => ([], 1)
      let rest := bytes.drop length
      match rest, first with
      | 45 :: last :: more, [low] =>
        (List.range 256).filterMap (fun k =>
          if low.toNat ≤ k && k ≤ last.toNat then some k.toUInt8 else none) ++ setOfUpTo n more
      | _, _ => first ++ setOfUpTo n rest

def setOf (bytes : Bytes) : Bytes := setOfUpTo (bytes.length + 1) bytes

/-- Leaves one of each run of equal bytes of a set. -/
def squeeze (set : Bytes) : Bytes → Bytes
  | a :: b :: rest =>
    if a == b && set.contains a then squeeze set (b :: rest) else a :: squeeze set (b :: rest)
  | bytes => bytes

def tr (i : ToolInput) : ToolOutput :=
  match options "dscC" "" i.args with
  | .error c => refused "tr" i c 1
  | .ok (os, operands) =>
    let done (bytes : Bytes) : ToolOutput :=
      { output := bytes, files := i.files, drained := true }
    let complement := has os 'c' || has os 'C'
    let first := setOf (operands.head?.getD [])
    let second := setOf ((operands.drop 1).head?.getD [])
    let first :=
      if complement then
        (List.range 256).filterMap fun k =>
          if first.contains k.toUInt8 then none else some k.toUInt8
      else first
    let exchange (bytes : Bytes) : Bytes :=
      match second.getLast? with
      | none => bytes
      | some last =>
        bytes.map fun b =>
          match (first.zipIdx.reverse.find? fun e => e.1 == b) with
          | some (_, k) => second.getD k last
          | none => b
    match operands with
    | [] =>
      { complaints := ["tr: missing operand", "Try 'tr --help' for more information."]
        status := 1, files := i.files }
    | [operand] =>
      if has os 'd' then done (i.input.filter fun b => !first.contains b)
      else if has os 's' then done (squeeze first i.input)
      else
        { complaints := ["tr: missing operand after '" ++ textOf operand ++ "'",
            "Two strings must be given when translating.",
            "Try 'tr --help' for more information."]
          status := 1, files := i.files }
    | _ =>
      if has os 'd' then done (squeeze second (i.input.filter fun b => !first.contains b))
      else if has os 's' then done (squeeze second (exchange i.input))
      else done (exchange i.input)

/-- A basic or extended expression in the notation of `Pattern`. -/
def expression (extended : Bool) : Nat → Bool → List Char → List Char
  | 0, _, _ => []
  | _, _, [] => []
  | n + 1, start, c :: rest =>
    let special := "()\x7b\x7d|+?".toList
    match c, rest with
    | '\\', d :: more =>
      if special.contains d then
        (if extended then ['\\', d] else [d]) ++
          expression extended n (!extended && (d == '(' || d == '|')) more
      else c :: d :: expression extended n false more
    | '[', _ =>
      let lead := if rest.head? == some '^' then ['^'] else []
      let body := rest.drop lead.length
      let first := body.take 1
      let inner := first ++ (body.drop 1).takeWhile fun x => x != ']'
      let written := inner.flatMap fun x =>
        if x == '\\' || x == '&' || x == '~' || (x == ']') then ['\\', x] else [x]
      if inner.contains '[' && inner.contains ':' then
        let named := body.takeWhile fun x => x != ':'
        let close := (body.drop (named.length + 1)).takeWhile fun x => x != ':'
        let used := named.length + close.length + 3
        '[' :: lead ++ body.take used ++
          (body.drop used).takeWhile (fun x => x != ']') ++ ']' ::
          expression extended n false
            ((body.drop used).dropWhile (fun x => x != ']') |>.drop 1)
      else
        '[' :: lead ++ written ++ ']' ::
          expression extended n false (body.drop (inner.length + 1))
    | '*', _ => (if start then ['\\', '*'] else ['*']) ++ expression extended n false rest
    | '^', _ =>
      (if extended || start then ['^'] else ['\\', '^']) ++ expression extended n start rest
    | '$', _ =>
      (if extended || rest.isEmpty then ['$'] else ['\\', '$']) ++ expression extended n false rest
    | _, _ =>
      if special.contains c then
        (if extended then [c] else ['\\', c]) ++
          expression extended n (extended && (c == '(' || c == '|')) rest
      else c :: expression extended n false rest

/-- An expression that stands for a text itself. -/
def literally (cs : List Char) : List Char :=
  cs.flatMap fun c => if c.isAlphanum || c.toNat ≥ 0x80 then [c] else ['\\', c]

def grep (extended : Bool) (i : ToolInput) : ToolOutput :=
  match options "vicqnEFhsx" "e" i.args with
  | .error c => refused "grep" i c 2
  | .ok (os, operands) =>
    let (expr, operands) := match valueOf? os 'e' with
      | some e => (some e, operands)
      | none => (operands.head?, operands.drop 1)
    match expr with
    | none =>
      { complaints := ["Usage: grep [OPTION]... PATTERNS [FILE]...",
          "Try 'grep --help' for more information."]
        status := 2, files := i.files }
    | some expr =>
      let cs := (wide expr).toList
      let body :=
        if has os 'F' then literally cs
        else expression (extended || has os 'E') (cs.length + 1) true cs
      let body := if has os 'x' then "^(?:".toList ++ body ++ ")$".toList else body
      let body := if has os 'i' then "(?i)".toList ++ body else body
      match Pattern.parse (String.ofList body) with
      | .error _ =>
        { complaints := ["grep: Invalid regular expression"], status := 2, files := i.files }
      | .ok a =>
        let (found, complaints) := contents "grep" i operands
        let many := found.length > 1 && !has os 'h'
        let hits := found.flatMap fun (name, bytes) =>
          (lines bytes).zipIdx.filterMap fun (l, k) =>
            if a.occursIn (wide l) != has os 'v' then
              some ((if many then name ++ [58] else []) ++
                (if has os 'n' then bytesOf (toString (k + 1)) ++ [58] else []) ++ l)
            else none
        { output :=
            if has os 'q' then []
            else if has os 'c' then bytesOf (toString hits.length) ++ [10] else unlines hits
          complaints
          status := if !complaints.isEmpty then 2 else if hits.isEmpty then 1 else 0
          files := i.files
          drained := found.any fun f => f.1 == [45] }

/-- The number that a line begins with. -/
def leadingNumber (l : Bytes) : Int :=
  let l := l.dropWhile fun b => b == 32 || b == 9
  let negative := l.head? == some 45
  let digits := (if negative then l.drop 1 else l).takeWhile isDigit
  if negative then -(numeral 10 digits : Int) else numeral 10 digits

/-- Leaves the first of equal lines that follow each other. -/
def distinct : List Bytes → List Bytes
  | a :: b :: rest => if a == b then distinct (a :: rest) else a :: distinct (b :: rest)
  | ls => ls
termination_by ls => ls.length

def sort (i : ToolInput) : ToolOutput :=
  match options "rnuf" "" i.args with
  | .error c => refused "sort" i c 2
  | .ok (os, operands) =>
    filter "sort" i operands fun bytes =>
      let le (a b : Bytes) : Bool :=
        if has os 'n' then
          leadingNumber a < leadingNumber b || (leadingNumber a == leadingNumber b && bytesLe a b)
        else bytesLe a b
      let sorted := (lines bytes).mergeSort le
      let sorted := if has os 'u' then distinct sorted else sorted
      unlines (if has os 'r' then sorted.reverse else sorted)

/-- Lines with the number of their repetitions. -/
def runs : List Bytes → List (Nat × Bytes)
  | [] => []
  | l :: rest =>
    match runs rest with
    | (n, m) :: more => if l == m then (n + 1, m) :: more else (1, l) :: (n, m) :: more
    | [] => [(1, l)]

def uniq (i : ToolInput) : ToolOutput :=
  match options "cdu" "" i.args with
  | .error c => refused "uniq" i c 1
  | .ok (os, operands) =>
    filter "uniq" i (operands.take 1) fun bytes =>
      ((runs (lines bytes)).filter fun (n, _) =>
        (!has os 'd' || n > 1) && (!has os 'u' || n == 1)).flatMap fun (n, l) =>
          (if has os 'c' then
            let number := (toString n).toList
            bytesOf (String.ofList (List.replicate (7 - number.length) ' ' ++ number ++ [' ']))
          else []) ++ l ++ [10]

/-- Arguments with a number written as an option, such as `-3`, in its long spelling. -/
def spellCount (args : List Bytes) : List Bytes :=
  match args with
  | (45 :: digits) :: rest =>
    if (natural? digits).isSome then bytesOf "-n" :: digits :: rest else args
  | _ => args

def head (i : ToolInput) : ToolOutput :=
  match options "q" "nc" (spellCount i.args) with
  | .error c => refused "head" i c 1
  | .ok (os, operands) =>
    let n := ((valueOf? os 'n').bind natural?).getD 10
    filter "head" i operands fun bytes =>
      match (valueOf? os 'c').bind natural? with
      | some k => bytes.take k
      | none =>
        let all := lines bytes
        if all.length ≤ n then bytes else unlines (all.take n)

def tail (i : ToolInput) : ToolOutput :=
  match options "q" "nc" (spellCount i.args) with
  | .error c => refused "tail" i c 1
  | .ok (os, operands) =>
    let value := (valueOf? os 'n').getD (bytesOf "10")
    filter "tail" i operands fun bytes =>
      match (valueOf? os 'c').bind natural? with
      | some k => bytes.drop (bytes.length - k)
      | none =>
        let all := lines bytes
        let skipped :=
          match value with
          | 43 :: digits => (natural? digits).getD 1 - 1
          | _ => all.length - (natural? value).getD 10
        let kept := unlines (all.drop skipped)
        if bytes.getLast? == some 10 then kept else kept.dropLast

/-- The words of bytes. -/
def words (bytes : Bytes) : List Bytes :=
  (bytes.splitOnP fun b => b == 32 || (9 ≤ b && b ≤ 13)).filter fun w => !w.isEmpty

def wc (i : ToolInput) : ToolOutput :=
  match options "lwcm" "" i.args with
  | .error c => refused "wc" i c 1
  | .ok (os, operands) =>
    let (found, complaints) := contents "wc" i operands
    let os := if os.isEmpty then [('l', []), ('w', []), ('c', [])] else os
    let counts (bytes : Bytes) : List Nat :=
      (if has os 'l' then [bytes.count 10] else []) ++
        (if has os 'w' then [(words bytes).length] else []) ++
        (if has os 'c' || has os 'm' then [bytes.length] else [])
    let width (ns : List Nat) : Nat :=
      if operands.isEmpty then (if ns.length > 1 then 7 else 1)
      else ((found.map fun f => (toString f.2.length).length).foldl max 1)
    let row (ns : List Nat) (name : Bytes) : Bytes :=
      let cell (n : Nat) : String :=
        String.ofList (List.replicate (width ns - (toString n).length) ' ') ++ toString n
      bytesOf (" ".intercalate (ns.map cell)) ++
        (if operands.isEmpty then [] else 32 :: name) ++ [10]
    let rows := found.map fun (name, bytes) => (counts bytes, name)
    let total := rows.foldl (fun acc r =>
      if acc.isEmpty then r.1 else List.zipWith (· + ·) acc r.1) []
    { output := rows.flatMap (fun r => row r.1 r.2) ++
        (if rows.length > 1 then row total (bytesOf "total") else [])
      complaints, status := if complaints.isEmpty then 0 else 1, files := i.files
      drained := found.any fun f => f.1 == [45] }

/-- The numbers that a list such as `1,3-5` holds, as a test. -/
def inList (list : Bytes) (k : Nat) : Bool :=
  (list.splitOnP (· == 44)).any fun part =>
    match part.splitOnP (· == 45) with
    | [a] => natural? a == some k
    | [a, b] => (natural? a).getD 1 ≤ k && (b.isEmpty || k ≤ (natural? b).getD 0)
    | _ => false

def cut (i : ToolInput) : ToolOutput :=
  match options "s" "dfcb" i.args with
  | .error c => refused "cut" i c 1
  | .ok (os, operands) =>
    let mark := ((valueOf? os 'd').bind List.head?).getD 9
    let pick {α : Type} (list : Bytes) (xs : List α) : List α :=
      xs.zipIdx.filterMap fun (x, k) => if inList list (k + 1) then some x else none
    filter "cut" i operands fun bytes =>
      unlines ((lines bytes).filterMap fun l =>
        match valueOf? os 'f', (valueOf? os 'c').orElse fun _ => valueOf? os 'b' with
        | some list, _ =>
          if l.contains mark then
            some ([mark].intercalate (pick list (l.splitOnP (· == mark))))
          else if has os 's' then none else some l
        | none, some list => some (pick list l)
        | none, none => some l)

def tac (i : ToolInput) : ToolOutput :=
  filter "tac" i i.args fun bytes => unlines (lines bytes).reverse

def rev (i : ToolInput) : ToolOutput :=
  filter "rev" i i.args fun bytes => unlines ((lines bytes).map List.reverse)

end Workplan.Shell.Tool
