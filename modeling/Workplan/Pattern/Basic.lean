/-
# `Workplan.Pattern.Basic` — patterns

A pattern is read, weighed and turned into an automaton once; afterwards it tells of any text
whether some part of it matches.
-/
import Workplan.Pattern.Automaton
import Workplan.Pattern.Reader

namespace Workplan

/-- Why a text is no pattern. -/
inductive PatternError where
  | malformed
  | tooHeavy
deriving DecidableEq

def PatternError.message : PatternError → String
  | .malformed => "regex parse error:"
  | .tooHeavy => "Compiled regex exceeds size limit of " ++ toString Pattern.Expr.weightLimit ++
      " bytes."

namespace Pattern

/-- The automaton of the pattern that a text writes. -/
def parse (text : String) : Except PatternError Automaton :=
  match read? text with
  | none => .error .malformed
  | some e => if e.weight ≤ Expr.weightLimit then .ok e.automaton else .error .tooHeavy

end Pattern

end Workplan
