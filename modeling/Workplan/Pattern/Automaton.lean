/-
# `Workplan.Pattern.Automaton` — matching by sets of states

A pattern is turned into nodes, each of which tells where to go on.  Matching keeps the set of
nodes that are reached at a place of the text; the nodes that need no character are followed at
once, and the others wait for the next character.  A node enters a set once, so matching takes
time in proportion to the length of the text, whatever the pattern.
-/
import Workplan.Pattern.Expr

namespace Workplan.Pattern

/-- A node of an automaton, with the numbers of the nodes after it. -/
inductive State where
  | accept
  | consume (set : CharClass) (next : Nat)
  | check (p : Place) (next : Nat)
  | fork (first second : Nat)

instance : Inhabited State := ⟨.accept⟩

/-- The nodes made so far; the number of a node is its place. -/
abbrev Nodes := Array State

/-- Adds a node and tells its number. -/
def Nodes.add (ns : Nodes) (s : State) : Nat × Nodes := (ns.size, ns.push s)

/-- Copies one after the other, the last of which goes on to `next`. -/
def copies (compile : Nat → Nodes → Nat × Nodes) : Nat → Nat → Nodes → Nat × Nodes
  | 0, next, ns => (next, ns)
  | count + 1, next, ns =>
    let (entry, ns) := copies compile count next ns
    compile entry ns

/-- Copies each of which may be left out together with those after it. -/
def optionalCopies (compile : Nat → Nodes → Nat × Nodes) : Nat → Nat → Nodes → Nat × Nodes
  | 0, next, ns => (next, ns)
  | count + 1, next, ns =>
    let (rest, ns) := optionalCopies compile count next ns
    let (entry, ns) := compile rest ns
    ns.add (.fork entry next)

/-- A body that goes on any number of times. -/
def loop (compile : Nat → Nodes → Nat × Nodes) (next : Nat) (ns : Nodes) : Nat × Nodes :=
  let (head, ns) := ns.add .accept
  let (entry, ns) := compile head ns
  (head, ns.setIfInBounds head (.fork entry next))

/-- Adds the nodes of a pattern in front of the node `next`; the result tells where to begin. -/
def Expr.compile : Expr → Nat → Nodes → Nat × Nodes
  | .empty, next, ns => (next, ns)
  | .one set, next, ns => ns.add (.consume set next)
  | .place p, next, ns => ns.add (.check p next)
  | .seq a b, next, ns =>
    let (entry, ns) := b.compile next ns
    a.compile entry ns
  | .either a b, next, ns =>
    let (first, ns) := a.compile next ns
    let (second, ns) := b.compile next ns
    ns.add (.fork first second)
  | .times body least most, next, ns =>
    let (entry, ns) := match most with
      | none => loop body.compile next ns
      | some count => optionalCopies body.compile (count - least) next ns
    copies body.compile least entry ns

/-- A pattern ready for matching. -/
structure Automaton where
  start : Nat
  nodes : Nodes

def Expr.automaton (e : Expr) : Automaton :=
  let (start, nodes) := e.compile 0 #[.accept]
  ⟨start, nodes⟩

namespace Automaton

/-- The nodes at one place: those seen, those that wait for a character, and whether the text is
accepted here. -/
structure Front where
  seen : Array Bool
  waiting : List (CharClass × Nat)
  accepted : Bool

/-- Follows nodes that need no character; `steps` bounds their number. -/
def follow (a : Automaton) (before after : Option Char) : Nat → List Nat → Front → Front
  | 0, _, f => f
  | _, [], f => f
  | steps + 1, n :: todo, f =>
    if f.seen.getD n true then a.follow before after steps todo f
    else
      let f := { f with seen := f.seen.setIfInBounds n true }
      match a.nodes.getD n .accept with
      | .accept => { f with accepted := true }
      | .consume set next =>
        a.follow before after steps todo { f with waiting := (set, next) :: f.waiting }
      | .check p next =>
        a.follow before after steps (if p.holds before after then next :: todo else todo) f
      | .fork first second => a.follow before after steps (first :: second :: todo) f

/-- The front that some nodes lead to. -/
def front (a : Automaton) (before after : Option Char) (entries : List Nat) : Front :=
  let empty : Front := ⟨Array.replicate a.nodes.size false, [], false⟩
  a.follow before after (2 * a.nodes.size + entries.length + 1) entries empty

/-- Whether a match ends at the front of the text or later; a match may begin anywhere. -/
def search (a : Automaton) (before : Option Char) (entries : List Nat) : List Char → Bool
  | [] => (a.front before none (a.start :: entries)).accepted
  | c :: rest =>
    let f := a.front before (some c) (a.start :: entries)
    f.accepted ||
      a.search (some c)
        (f.waiting.filterMap fun w => if w.1.contains c.toNat then some w.2 else none) rest

/-- Whether some part of a text matches. -/
def occursIn (a : Automaton) (text : String) : Bool := a.search none [] text.toList

end Automaton

end Workplan.Pattern
