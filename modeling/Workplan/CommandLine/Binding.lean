/-
# `Workplan.CommandLine.Binding` — values for the context as arguments

An argument `key=value` binds a key.  The value has the type that its text suggests: the spellings
of the booleans, integers of 64 bits, JSON arrays and objects; any other text stands for itself.
-/
import Workplan.Json.Reader
import Workplan.Text.Blank
import Workplan.Value

namespace Workplan.CommandLine

/-- Why an argument binds nothing. -/
inductive BindingError where
  | noSign (arg : String)
  | emptyKey (arg : String)
deriving DecidableEq

def BindingError.message : BindingError → String
  | .noSign arg => "context '" ++ arg ++ "' must be KEY=VALUE"
  | .emptyKey arg => "context '" ++ arg ++ "' has an empty key"

/-- The digits and the sign of a text that is an integer. -/
def signedDigits? : List Char → Option (Bool × List Char)
  | '+' :: ds => if !ds.isEmpty && ds.all Char.isDigit then some (false, ds) else none
  | '-' :: ds => if !ds.isEmpty && ds.all Char.isDigit then some (true, ds) else none
  | ds => if !ds.isEmpty && ds.all Char.isDigit then some (false, ds) else none

/-- The value of decimal digits. -/
def decimal (ds : List Char) : Nat :=
  ds.foldl (fun n c => n * 10 + (c.toNat - '0'.toNat)) 0

/-- The integer that a text is, if it fits 64 bits with a sign. -/
def integer? (s : String) : Option Int := do
  let (negative, ds) ← signedDigits? s.toList
  let n : Int := if negative then -(decimal ds : Int) else decimal ds
  if -0x8000000000000000 ≤ n ∧ n < 0x8000000000000000 then some n else none

/-- The value that a text suggests. -/
def valueOfText (raw : String) : Value :=
  if raw = "true" then .data (.bool true)
  else if raw = "false" then .data (.bool false)
  else
    match (integer? raw).bind Number.ofInt? with
    | some n => .data (.num n)
    | none =>
      if raw.startsWith "[" || raw.startsWith "\x7b" then
        match Json.parse raw with
        | some j => .data j
        | none => .ofString raw
      else .ofString raw

/-- What stands before and behind the first equals sign. -/
def splitAtSign (cs : List Char) : Option (List Char × List Char) :=
  match cs.dropWhile (· != '=') with
  | _ :: raw => some (cs.takeWhile (· != '='), raw)
  | [] => none

/-- The key and the value of an argument. -/
def parseBinding (arg : String) : Except BindingError (String × Value) :=
  match splitAtSign arg.toList with
  | none => .error (.noSign arg)
  | some (key, raw) =>
    match Text.trimChars key with
    | [] => .error (.emptyKey arg)
    | key => .ok (String.ofList key, valueOfText (String.ofList raw))

end Workplan.CommandLine
