/-
# `Workplan.CommandLine.Grammar` — arguments of a command

A command takes options with values, flags and operands, in any order; what follows a double dash
is operands only.  An option takes its value from the argument itself or from the next one.  Such
a value, and an operand, is looked at only when the next argument has been recognised, so an
argument that is not known is reported first.
-/
import Workplan.CommandLine.Binding

namespace Workplan.CommandLine

/-- What a value has to be: a path is not empty, a count is a number, a text is anything. -/
inductive ValueKind where
  | path
  | count
  | text
deriving DecidableEq

/-- An option with a value. -/
structure OptionSpec where
  name : String
  short : Option Char := none
  kind : ValueKind := .text
  repeatable : Bool := false

/-- The arguments that a command takes. -/
structure Grammar where
  options : List OptionSpec := []
  flags : List String := []
  operands : List (String × ValueKind) := []

/-- Why arguments do not fit. -/
inductive UsageError where
  | unknownArgument
  | invalidSubcommand
  | missingSubcommand
  | missingRequiredArgument
  | valueValidation
  | invalidValue
  | argumentConflict
  | tooManyValues
  | helpRequested
deriving DecidableEq

/-- The number of 64 bits that a text writes, with or without a plus sign. -/
def count? (s : String) : Option Nat := do
  let (negative, ds) ← signedDigits? s.toList
  let n := decimal ds
  if negative || 0x10000000000000000 ≤ n then none else some n

/-- Whether a value is of a kind. -/
def ValueKind.check (kind : ValueKind) (value : String) : Except UsageError Unit :=
  match kind with
  | .path => if value.isEmpty then .error .invalidValue else .ok ()
  | .count => if (count? value).isNone then .error .valueValidation else .ok ()
  | .text => .ok ()

/-- What a value is still to be stored under. -/
inductive Pending where
  | option (o : OptionSpec) (value : Option String)
  | operand (name : String) (kind : ValueKind) (value : String)

/-- What has been read of the arguments. -/
structure Scan where
  values : List (String × String) := []
  flags : List String := []
  used : Nat := 0
  pending : Option Pending := none

namespace Scan

def store (s : Scan) (name value : String) : Scan :=
  { s with values := s.values ++ [(name, value)] }

/-- Stores the value of an option. -/
def storeOption (s : Scan) (o : OptionSpec) (value : String) : Except UsageError Scan := do
  if !o.repeatable && s.values.any fun v => v.1 == o.name then .error .argumentConflict
  else
    o.kind.check value
    .ok (s.store o.name value)

/-- Looks at the value that was put aside. -/
def settle (s : Scan) : Except UsageError Scan :=
  let rest := { s with pending := none }
  match s.pending with
  | none => .ok rest
  | some (.option _ none) => .error .invalidValue
  | some (.option o (some value)) => rest.storeOption o value
  | some (.operand name kind value) => do
    kind.check value
    .ok (rest.store name value)

/-- Takes an option, with a value in the same argument or one to come. -/
def takeOption (s : Scan) (o : OptionSpec) : Option String → Except UsageError Scan
  | some value => do (← s.settle).storeOption o value
  | none => do .ok { ← s.settle with pending := some (.option o none) }

/-- Takes a flag. -/
def takeFlag (s : Scan) (name : String) : Except UsageError Scan := do
  let s ← s.settle
  if s.flags.contains name then .error .argumentConflict
  else .ok { s with flags := s.flags ++ [name] }

/-- Takes an operand. -/
def takeOperand (g : Grammar) (s : Scan) (arg : String) : Except UsageError Scan :=
  match g.operands[s.used]? with
  | none => .error .unknownArgument
  | some (name, kind) => do
    .ok { ← s.settle with used := s.used + 1, pending := some (.operand name kind arg) }

/-- Takes an argument that begins with two dashes. -/
def takeLong (g : Grammar) (s : Scan) (body : List Char) : Except UsageError Scan :=
  let name := String.ofList (body.takeWhile (· != '='))
  let value := match body.dropWhile (· != '=') with
    | _ :: rest => some (String.ofList rest)
    | [] => none
  match g.options.find? fun o => o.name == name with
  | some o => s.takeOption o value
  | none =>
    if g.flags.contains name then
      match value with
      | some _ => .error .tooManyValues
      | none => s.takeFlag name
    else if name == "help" then .error .helpRequested
    else .error .unknownArgument

/-- Takes an argument that begins with one dash. -/
def takeShort (g : Grammar) (s : Scan) (letter : Char) (rest : List Char) :
    Except UsageError Scan :=
  match g.options.find? fun o => o.short == some letter with
  | some o =>
    s.takeOption o (match rest with
      | [] => none
      | '=' :: value => some (String.ofList value)
      | value => some (String.ofList value))
  | none => if letter == 'h' then .error .helpRequested else .error .unknownArgument

/-- Takes an argument that is no option: the value of the last one, or an operand. -/
def takeWord (g : Grammar) (s : Scan) (arg : String) : Except UsageError Scan :=
  match s.pending with
  | some (.option o none) => .ok { s with pending := some (.option o (some arg)) }
  | _ => takeOperand g s arg

/-- Takes one argument before a double dash. -/
def take (g : Grammar) (s : Scan) (arg : String) : Except UsageError Scan :=
  match arg.toList with
  | '-' :: '-' :: body => takeLong g s body
  | '-' :: letter :: rest => takeShort g s letter rest
  | _ => takeWord g s arg

/-- Takes all arguments; the flag tells whether a double dash was passed. -/
def takeAll (g : Grammar) : Bool → Scan → List String → Except UsageError Scan
  | _, s, [] => s.settle
  | true, s, arg :: rest => do takeAll g true (← takeOperand g s arg) rest
  | false, s, arg :: rest =>
    if arg = "--" then takeAll g true s rest
    else do takeAll g false (← take g s arg) rest

end Scan

/-- Reads the arguments of a command. -/
def Grammar.read (g : Grammar) (args : List String) : Except UsageError Scan :=
  Scan.takeAll g false {} args

namespace Scan

/-- The last value under a name. -/
def value? (s : Scan) (name : String) : Option String :=
  (s.values.reverse.find? fun v => v.1 == name).map Prod.snd

/-- All values under a name, in order. -/
def valuesOf (s : Scan) (name : String) : List String :=
  (s.values.filter fun v => v.1 == name).map Prod.snd

/-- The value under a name that has to be there. -/
def require (s : Scan) (name : String) : Except UsageError String :=
  match s.value? name with
  | some v => .ok v
  | none => .error .missingRequiredArgument

end Scan

end Workplan.CommandLine
