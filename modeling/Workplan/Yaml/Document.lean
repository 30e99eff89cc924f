/-
# `Workplan.Yaml.Document` — YAML documents

A text holds documents, each with directives in front of it and a node in it.  Here the first one
is read; `single` tells whether the text is free of faults to its end and holds no other document.
-/
import Workplan.Yaml.Node

namespace Workplan.Yaml

/-- The first document of a text. -/
structure Document where
  root : Node
  anchored : List Anchored
  single : Bool

namespace Document

/-- The node that an anchor with this number stands for: the one that took it last. -/
def target (d : Document) (number : Nat) : Node :=
  let same := d.anchored.filter fun a => a.number == number
  match same with
  | [] => .broken
  | first :: more => (more.foldl (fun best a => if best.turn < a.turn then a else best) first).node

/-- Directives in front of a document: one version at most, which must be known, and handles for
tags, each once. -/
def readDirectives (hasVersion : Bool) (seen : List String) :
    List Token → Building → Option Building
  | .versionDirective major minor :: rest, b =>
    if hasVersion || major != 1 || (minor != 1 && minor != 2) then none
    else readDirectives true seen rest b
  | .tagDirective handle lead :: rest, b =>
    if seen.contains handle then none
    else
      readDirectives hasVersion (handle :: seen) rest
        { b with handles := (handle, lead) :: b.handles }
  | rest, b => some { b with tokens := rest }

/-- Whether a token stands outside of the nodes of a document. -/
def isOutside : Token → Bool
  | .versionDirective _ _ | .tagDirective _ _ | .documentStart | .documentEnd | .streamEnd => true
  | _ => false

/-- Whether nothing but the end follows a node. -/
def endsHere (ts : List Token) : Bool := ts.dropWhile (· == .documentEnd) == [.streamEnd]

/-- The document of a node that begins here. -/
def ofNode (b : Building) : Document :=
  let (root, after) := (Builder.node (3 * b.tokens.length + 3) true false).run b
  ⟨root, after.anchored, !after.stopped && endsHere after.tokens⟩

/-- The document after its directives and its first line. -/
def ofContent (b : Building) : Document :=
  match b.tokens with
  | t :: _ => if isOutside t then ⟨.empty, [], endsHere b.tokens⟩ else ofNode b
  | [] => ⟨.broken, [], false⟩

/-- The first document of a list of tokens. -/
def ofTokens (ts : List Token) : Document :=
  let fault : Document := ⟨.broken, [], false⟩
  match ts with
  | [] => fault
  | .streamEnd :: _ => ⟨.empty, [], true⟩
  | .documentStart :: rest => ofContent { tokens := rest }
  | .versionDirective _ _ :: _ | .tagDirective _ _ :: _ =>
    match readDirectives false [] ts { tokens := [] } with
    | none => fault
    | some b =>
      match b.tokens with
      | .documentStart :: rest => ofContent { b with tokens := rest }
      | _ => fault
  | _ => ofNode { tokens := ts }

/-- The first document of a text. -/
def ofText (text : String) : Document := ofTokens (tokens text)

end Document

end Workplan.Yaml
