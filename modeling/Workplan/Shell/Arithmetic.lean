/-
# `Workplan.Shell.Arithmetic` — integer expressions

Expressions are over 64-bit integers that wrap around.  A variable stands for the value of the
expression that it holds, and for zero if it holds none; an expression may assign variables.
-/
import Workplan.Shell.Cursor
import Workplan.Shell.Escape

namespace Workplan.Shell

/-- An expression. -/
inductive Arith where
  | number (n : Int)
  | variable (name : String)
  | unary (operator : String) (operand : Arith)
  | binary (operator : String) (left right : Arith) (place : String)
  | assign (name operator : String) (value : Arith) (place : String)
  | step (name : String) (change : Int) (before : Bool)
  | choice (condition yes no : Arith)

/-- Why an expression has no value; the place is the text from the token at fault to the end. -/
inductive ArithFault where
  | operandExpected (place : String)
  | unexpected (place : String)
  | divisionByZero (place : String)
deriving DecidableEq

/-- What a message says about an expression. -/
def ArithFault.message : ArithFault → String
  | .operandExpected place =>
    "syntax error: operand expected (error token is \"" ++ place ++ "\")"
  | .unexpected place => "syntax error in expression (error token is \"" ++ place ++ "\")"
  | .divisionByZero place => "division by 0 (error token is \"" ++ place ++ "\")"

namespace Arith

/-! ## Reading -/

/-- What reading gives: an expression and the characters that follow it. -/
abbrev Step := Except ArithFault (Arith × List Char)

def blankless (cs : List Char) : List Char :=
  cs.dropWhile fun c => c == ' ' || c == '\t' || c == '\n'

/-- The operators, a longer one before those that it begins with. -/
def operators : List String :=
  ["<<=", ">>=", "**", "<<", ">>", "<=", ">=", "==", "!=", "&&", "||", "+=", "-=", "*=", "/=",
    "%=", "&=", "^=", "|=", "++", "--", "+", "-", "*", "/", "%", "<", ">", "=", "!", "~", "&",
    "^", "|", "?", ":", ",", "(", ")"]

/-- The operator that comes next, and what follows it. -/
def operator? (cs : List Char) : Option (String × List Char) :=
  let cs := blankless cs
  (operators.find? fun o => o.toList.isPrefixOf cs).map fun o => (o, cs.drop o.length)

/-- The operators that take two operands, those that bind loosest first. -/
def levels : List (List String) :=
  [["||"], ["&&"], ["|"], ["^"], ["&"], ["==", "!="], ["<=", ">=", "<", ">"], ["<<", ">>"],
    ["+", "-"], ["*", "/", "%"]]

def assignments : List String :=
  ["=", "+=", "-=", "*=", "/=", "%=", "&=", "^=", "|=", "<<=", ">>="]

def digitOf (c : Char) : Nat := Escape.digitValue (byteOf c)

def numeral (base : Nat) (digits : List Char) : Nat :=
  digits.foldl (fun n c => n * base + digitOf c) 0

/-- The value of a literal: decimal, octal after a zero, hexadecimal after `0x`, or any base before
a number sign. -/
def literal (cs : List Char) : Int :=
  match cs with
  | '0' :: 'x' :: rest => numeral 16 rest
  | '0' :: 'X' :: rest => numeral 16 rest
  | '0' :: rest => numeral 8 rest
  | _ =>
    match cs.dropWhile Char.isDigit with
    | '#' :: rest => numeral (numeral 10 (cs.takeWhile Char.isDigit)) rest
    | _ => numeral 10 cs

mutual

/-- Reads expressions with commas between them; the last one counts. -/
def readList : Nat → List Char → Step
  | 0, cs => .error (.unexpected (String.ofList cs))
  | n + 1, cs => do
    let (a, rest) ← readAssignment n cs
    match operator? rest with
    | some (",", more) => do
      let (b, after) ← readList n more
      pure (.binary "," a b "", after)
    | _ => pure (a, rest)

/-- Reads an assignment, or an expression that assigns nothing itself. -/
def readAssignment : Nat → List Char → Step
  | 0, cs => .error (.unexpected (String.ofList cs))
  | n + 1, cs => do
    let start := blankless cs
    let name := start.takeWhile isNameChar
    match isName (String.ofList name), operator? (start.drop name.length) with
    | true, some (o, more) =>
      if assignments.contains o then do
        let (value, after) ← readAssignment n more
        pure (.assign (String.ofList name) o value (String.ofList (blankless more)), after)
      else readChoice n start
    | _, _ => readChoice n start

/-- Reads a choice between two expressions, or a condition alone. -/
def readChoice : Nat → List Char → Step
  | 0, cs => .error (.unexpected (String.ofList cs))
  | n + 1, cs => do
    let (condition, rest) ← readLevel levels n cs
    match operator? rest with
    | some ("?", more) => do
      let (yes, rest) ← readAssignment n more
      match operator? rest with
      | some (":", more) => do
        let (no, rest) ← readAssignment n more
        pure (.choice condition yes no, rest)
      | _ => .error (.unexpected (String.ofList (blankless rest)))
    | _ => pure (condition, rest)

/-- Reads operands of the operators that bind at least this tight. -/
def readLevel (ls : List (List String)) : Nat → List Char → Step
  | 0, cs => .error (.unexpected (String.ofList cs))
  | n + 1, cs => do
    match ls with
    | [] => readPower n cs
    | os :: tighter => do
      let (a, rest) ← readLevel tighter n cs
      readMore os tighter a n rest

/-- Reads further operands behind the first. -/
def readMore (os : List String) (tighter : List (List String)) (a : Arith) :
    Nat → List Char → Step
  | 0, cs => .error (.unexpected (String.ofList cs))
  | n + 1, cs => do
    match operator? cs with
    | some (o, more) =>
      if os.contains o then
        match readLevel tighter n more with
        | .error (.operandExpected "") => .error (.operandExpected (String.ofList (blankless cs)))
        | .error fault => .error fault
        | .ok (b, rest) =>
          readMore os tighter (.binary o a b (String.ofList (blankless more))) n rest
      else pure (a, cs)
    | none => pure (a, cs)

/-- Reads a power; powers group from the right. -/
def readPower : Nat → List Char → Step
  | 0, cs => .error (.unexpected (String.ofList cs))
  | n + 1, cs => do
    let (a, rest) ← readUnary n cs
    match operator? rest with
    | some ("**", more) => do
      let (b, after) ← readPower n more
      pure (.binary "**" a b "", after)
    | _ => pure (a, rest)

/-- Reads an operand with the operators before and behind it. -/
def readUnary : Nat → List Char → Step
  | 0, cs => .error (.unexpected (String.ofList cs))
  | n + 1, cs => do
    let start := blankless cs
    match operator? start with
    | some (o, more) =>
      let name := (blankless more).takeWhile isNameChar
      if (o == "++" || o == "--") && isName (String.ofList name) then
        pure (.step (String.ofList name) (if o == "++" then 1 else -1) true,
          (blankless more).drop name.length)
      else if o == "++" || o == "--" then do
        let (a, rest) ← readUnary n (start.drop 1)
        pure (.unary (o.take 1).toString a, rest)
      else if ["!", "~", "+", "-"].contains o then do
        let (a, rest) ← readUnary n more
        pure (.unary o a, rest)
      else if o == "(" then do
        let (a, rest) ← readList n more
        match operator? rest with
        | some (")", after) => pure (a, after)
        | _ => .error (.unexpected (String.ofList (blankless rest)))
      else .error (.operandExpected (String.ofList start))
    | none =>
      let word := start.takeWhile fun c => isNameChar c || c == '#' || c == '@'
      let rest := start.drop word.length
      match word with
      | [] => .error (.operandExpected (String.ofList start))
      | c :: _ =>
        if c.isDigit then pure (.number (literal word), rest)
        else
          let name := String.ofList word
          match operator? rest with
          | some ("++", more) => pure (.step name 1 false, more)
          | some ("--", more) => pure (.step name (-1) false, more)
          | _ => pure (.variable name, rest)

end

/-- Reads a whole text; an empty one is zero. -/
def ofText (s : String) : Except ArithFault Arith := do
  let cs := blankless s.toList
  if cs.isEmpty then pure (.number 0)
  else
    let (a, rest) ← readList (16 * cs.length + 64) cs
    match blankless rest with
    | [] => pure a
    | more => .error (.unexpected (String.ofList more))

/-! ## Values -/

/-- The number that 64 bits hold in place of a larger one. -/
def wrap (n : Int) : Int := n.bmod 0x10000000000000000

def ofBool (b : Bool) : Int := if b then 1 else 0

/-- The bits of a number. -/
def bits (n : Int) : UInt64 := (n.emod 0x10000000000000000).toNat.toUInt64

def ofBits (u : UInt64) : Int := wrap u.toNat

/-- The value of an operator on two numbers; none where it has none. -/
def operate? (operator : String) (a b : Int) : Option Int :=
  match operator with
  | "+" => some (wrap (a + b))
  | "-" => some (wrap (a - b))
  | "*" => some (wrap (a * b))
  | "/" => if b = 0 then none else some (wrap (a.tdiv b))
  | "%" => if b = 0 then none else some (wrap (a.tmod b))
  | "**" => some (wrap (a.pow b.toNat))
  | "<<" => some (ofBits (bits a <<< bits b))
  | ">>" => some (wrap (a >>> (b.emod 64).toNat))
  | "<" => some (ofBool (a < b))
  | ">" => some (ofBool (b < a))
  | "<=" => some (ofBool (a ≤ b))
  | ">=" => some (ofBool (b ≤ a))
  | "==" => some (ofBool (a == b))
  | "!=" => some (ofBool (a != b))
  | "&" => some (ofBits (bits a &&& bits b))
  | "^" => some (ofBits (bits a ^^^ bits b))
  | "|" => some (ofBits (bits a ||| bits b))
  | _ => some b

/-- Evaluation keeps the variables that were assigned. -/
abbrev Evaluation := StateT (List (String × Int)) (Except ArithFault)

/-- The value of an expression; the counter bounds its depth, with the expressions in variables. -/
def eval (lookup : String → String) : Nat → Arith → Evaluation Int
  | 0, _ => pure 0
  | _ + 1, .number n => pure (wrap n)
  | n + 1, .variable name => do
    match (← get).lookup name with
    | some v => pure v
    | none =>
      match ofText (lookup name) with
      | .ok (.number v) => pure (wrap v)
      | .ok a => eval lookup n a
      | .error fault => throw fault
  | n + 1, .unary o a => do
    let v ← eval lookup n a
    match o with
    | "!" => pure (ofBool (v == 0))
    | "~" => pure (wrap (-v - 1))
    | "-" => pure (wrap (-v))
    | _ => pure v
  | n + 1, .binary "&&" a b _ => do
    if (← eval lookup n a) == 0 then pure 0 else pure (ofBool ((← eval lookup n b) != 0))
  | n + 1, .binary "||" a b _ => do
    if (← eval lookup n a) != 0 then pure 1 else pure (ofBool ((← eval lookup n b) != 0))
  | n + 1, .binary o a b place => do
    let x ← eval lookup n a
    let y ← eval lookup n b
    match operate? o x y with
    | some v => pure v
    | none => throw (.divisionByZero place)
  | n + 1, .assign name o a place => do
    let y ← eval lookup n a
    let x ← if o == "=" then pure 0 else eval lookup n (.variable name)
    match operate? (o.dropEnd 1).toString x y with
    | some v => do
      modify ((name, v) :: ·)
      pure v
    | none => throw (.divisionByZero place)
  | n + 1, .step name change before => do
    let v ← eval lookup n (.variable name)
    modify ((name, wrap (v + change)) :: ·)
    pure (if before then wrap (v + change) else v)
  | n + 1, .choice c a b => do
    if (← eval lookup n c) != 0 then eval lookup n a else eval lookup n b

/-- The value of a text, and the variables that it assigns, the last assignment first. -/
def evalText (lookup : String → String) (s : String) :
    Except ArithFault (Int × List (String × Int)) := do
  let a ← ofText s
  (eval lookup (16 * s.length + 1024) a).run []

end Arith

end Workplan.Shell
