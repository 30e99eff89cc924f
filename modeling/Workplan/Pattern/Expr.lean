/-
# `Workplan.Pattern.Expr` — patterns as expressions

What a pattern consists of once it is read: classes, places between characters, sequences,
alternatives and counted repetitions.  `weight` estimates the memory of a matcher, which a limit
keeps from growing without bound.
-/
import Workplan.Pattern.CharClass

namespace Workplan.Pattern

/-- A condition on a place of the text, by the characters before and after it. -/
inductive Place where
  | textStart
  | textEnd
  | lineStart
  | lineEnd
  | anyLineStart
  | anyLineEnd
  | boundary (unicode : Bool)
  | notBoundary (unicode : Bool)
  | wordStart (unicode : Bool)
  | wordEnd (unicode : Bool)
  | wordStartHalf (unicode : Bool)
  | wordEndHalf (unicode : Bool)
deriving DecidableEq

/-- Whether a character belongs to words. -/
def wordAt (unicode : Bool) : Option Char → Bool
  | none => false
  | some c => if unicode then Text.Category.isWord c else CharClass.word.contains c.toNat

/-- Whether a place satisfies a condition. -/
def Place.holds (before after : Option Char) : Place → Bool
  | .textStart => before.isNone
  | .textEnd => after.isNone
  | .lineStart => before.isNone || before = some '\n'
  | .lineEnd => after.isNone || after = some '\n'
  | .anyLineStart =>
    before.isNone || before = some '\n' || (before = some '\r' && after != some '\n')
  | .anyLineEnd =>
    after.isNone || after = some '\r' || (after = some '\n' && before != some '\r')
  | .boundary u => wordAt u before != wordAt u after
  | .notBoundary u => wordAt u before == wordAt u after
  | .wordStart u => !wordAt u before && wordAt u after
  | .wordEnd u => wordAt u before && !wordAt u after
  | .wordStartHalf u => !wordAt u before
  | .wordEndHalf u => !wordAt u after

/-- A pattern.  A repetition without a greatest count may go on. -/
inductive Expr where
  | empty
  | one (set : CharClass)
  | place (p : Place)
  | seq (first second : Expr)
  | either (first second : Expr)
  | times (body : Expr) (least : Nat) (most : Option Nat)

namespace Expr

def seqs (es : List Expr) : Expr :=
  match es with
  | [] => .empty
  | [e] => e
  | e :: rest => .seq e (seqs rest)

def eithers (es : List Expr) : Expr :=
  match es with
  | [] => .empty
  | [e] => e
  | e :: rest => .either e (eithers rest)

/-- The bytes that the states of a matcher take, about. -/
def weight : Expr → Nat
  | .empty => 32
  | .one set => 32 + 60 * set.pieces
  | .place _ => 32
  | .seq a b => a.weight + b.weight
  | .either a b => a.weight + b.weight + 40
  | .times body least most => 40 + (body.weight + 40) * (max least (most.getD (least + 1)))

/-- The greatest weight of a pattern in bytes. -/
def weightLimit : Nat := 10485760

end Expr

end Workplan.Pattern
