/-
# `Workplan.Contract` — inputs against a contract

Inputs satisfy a contract when every required input is present, every declared input that is
present has its type, and every verifier of it accepts.  The three are looked at in this order,
each in the order of declaration, and the first violation is the one reported.  Inputs that the
contract does not declare are not looked at.
-/
import Workplan.WorkUnit

namespace Workplan

/-- A violation of a contract. -/
inductive Violation where
  | missingRequiredInput (property : String)
  | typeMismatch (property : String) (expected : TypeTag) (actual : String)
  | verificationFailed (property verifier : String) (reason : Option String)
  | selfCheckFailed (unit reason : String)
deriving DecidableEq

def Violation.message : Violation → String
  | .missingRequiredInput property => "missing required input: " ++ property
  | .typeMismatch property expected actual =>
    "input " ++ property ++ " has type " ++ actual ++ ", expected " ++ expected.text
  | .verificationFailed property verifier reason =>
    "input " ++ property ++ " failed verification " ++ verifier ++
      (match reason with
        | some r => ": " ++ r
        | none => "")
  | .selfCheckFailed unit reason => "unit '" ++ unit ++ "' rejected its inputs: " ++ reason

namespace Descriptor

/-- The first required input that is absent. -/
def missingInput? (d : Descriptor) (inputs : Inputs) : Option Violation :=
  (d.requiredKeys.find? fun key => !inputs.contains key).map .missingRequiredInput

/-- The violation of a declared input by the type of its value. -/
def typeViolation? (inputs : Inputs) (key : String) (p : Property) : Option Violation :=
  match inputs.get? key with
  | none => none
  | some value =>
    if value.hasType p.type then none else some (.typeMismatch key p.type value.typeName)

/-- The violation of a declared input by the verdict of one verifier. -/
def verdictViolation? (key verifier : String) : Verdict → Option Violation
  | .accepted => none
  | .refused => some (.verificationFailed key verifier none)
  | .failed reason => some (.verificationFailed key verifier (some reason))
  | .crashed crash => some (.verificationFailed key verifier (some crash.note))

/-- The violation of a declared input by the first verifier that does not accept it. -/
def verifierViolation? (inputs : Inputs) (key : String) (p : Property) : Option Violation :=
  match inputs.get? key with
  | none => none
  | some value =>
    p.verifiers.findSome? fun v => verdictViolation? key v.name (v.judge key value inputs)

/-- The first violation of the contract. -/
def violation? (d : Descriptor) (inputs : Inputs) : Option Violation :=
  (d.missingInput? inputs).or <|
    (d.inputs.entries.findSome? fun e => typeViolation? inputs e.1 e.2).or <|
      d.inputs.entries.findSome? fun e => verifierViolation? inputs e.1 e.2

/-- Whether inputs satisfy the contract, with the first violation if they do not. -/
def validateInputs (d : Descriptor) (inputs : Inputs) : Except Violation Unit :=
  match d.violation? inputs with
  | none => .ok ()
  | some v => .error v

end Descriptor

end Workplan
