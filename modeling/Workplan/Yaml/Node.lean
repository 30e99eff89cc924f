/-
# `Workplan.Yaml.Node` — the nodes of a YAML document

A document is a tree of scalars, sequences and mappings; an alias stands for the node that was
anchored under its name before.  A tree that cannot be completed ends in a `broken` leaf: what
comes before it in the text is there, and a reader that meets the leaf has met the fault.
-/
import Workplan.Yaml.Token

namespace Workplan.Yaml

/-- A node.  An alias holds the number of an anchor. -/
inductive Node where
  | scalar (tag : Option String) (style : Style) (text : String)
  | sequence (tag : Option String) (items : List Node)
  | mapping (tag : Option String) (pairs : List (Node × Node))
  | alias (number : Nat)
  | broken

instance : Inhabited Node := ⟨.broken⟩

namespace Node

/-- What stands where nothing is written. -/
def empty : Node := .scalar none .plain ""

mutual

/-- Whether a tree is complete. -/
def isWhole : Node → Bool
  | .sequence _ items => itemsWhole items
  | .mapping _ pairs => pairsWhole pairs
  | .broken => false
  | _ => true

/-- Whether every item is complete. -/
def itemsWhole : List Node → Bool
  | [] => true
  | n :: rest => n.isWhole && itemsWhole rest

/-- Whether every key and every value is complete. -/
def pairsWhole : List (Node × Node) → Bool
  | [] => true
  | (k, v) :: rest => k.isWhole && v.isWhole && pairsWhole rest

end

end Node

/-- An anchored node: the number of its anchor, and its turn among all anchored nodes. -/
structure Anchored where
  number : Nat
  turn : Nat
  node : Node

/-- The state of building nodes from tokens. -/
structure Building where
  tokens : List Token
  handles : List (String × String) := [("!", "!"), ("!!", "tag:yaml.org,2002:")]
  numbers : List (String × Nat) := []
  turns : Nat := 0
  anchored : List Anchored := []
  stopped : Bool := false

/-- A step of building nodes. -/
abbrev Builder := StateM Building

namespace Builder

def peek? : Builder (Option Token) := return (← get).tokens.head?

def drop : Builder Unit := modify fun b => { b with tokens := b.tokens.drop 1 }

/-- Ends the building at a fault. -/
def stop : Builder Node := do
  modify fun b => { b with stopped := true }
  pure .broken

/-- Takes a name for an anchor.  The number is the count of names so far, so that an anchor which
takes a name again shares its number with the next new name. -/
def number (name : String) : Builder (Nat × Nat) := do
  let b ← get
  let n := b.numbers.length
  let others := b.numbers.filter fun e => e.1 != name
  set { b with numbers := (name, n) :: others, turns := b.turns + 1 }
  pure (n, b.turns)

/-- The properties in front of a node: its anchor and its tag, in either order. -/
structure Properties where
  anchor : Option String := none
  tag : Option (String × String) := none

def readProperties : Builder Properties := do
  match ← peek? with
  | some (.anchor name) =>
    drop
    match ← peek? with
    | some (.tag h s) =>
      drop
      pure { anchor := some name, tag := some (h, s) }
    | _ => pure { anchor := some name }
  | some (.tag h s) =>
    drop
    match ← peek? with
    | some (.anchor name) =>
      drop
      pure { anchor := some name, tag := some (h, s) }
    | _ => pure { tag := some (h, s) }
  | _ => pure {}

/-- The full tag, if its handle is known. -/
def fullTag (handle suffix : String) : Builder (Option String) := do
  if handle.isEmpty then pure (some suffix)
  else pure (((← get).handles.lookup handle).map (· ++ suffix))

/-- A scalar with the tag of a single mark has none. -/
def plainTag (tag : Option String) : Option String := if tag = some "!" then none else tag

mutual

/-- A node.  `block` allows block collections, `indentless` a block sequence without indentation
of its own. -/
def node : Nat → Bool → Bool → Builder Node
  | 0, _, _ => stop
  | fuel + 1, block, indentless => do
    match ← peek? with
    | none => stop
    | some (.alias name) =>
      drop
      match (← get).numbers.lookup name with
      | some n => pure (.alias n)
      | none => stop
    | some _ =>
      let properties ← readProperties
      let tag? ← match properties.tag with
        | none => pure (some none)
        | some (h, s) => pure ((← fullTag h s).map some)
      match tag? with
      | none => stop
      | some tag =>
        match properties.anchor with
        | none => content fuel block indentless tag (properties.tag.isSome)
        | some name =>
          let (number, turn) ← number name
          let built ← content fuel block indentless tag true
          modify fun b => { b with anchored := ⟨number, turn, built⟩ :: b.anchored }
          pure built

/-- What follows the properties of a node; it may be left out after some. -/
def content : Nat → Bool → Bool → Option String → Bool → Builder Node
  | 0, _, _, _, _ => stop
  | fuel + 1, block, indentless, tag, optional => do
    match ← peek? with
    | none => stop
    | some .blockEntry =>
      if indentless then
        return .sequence tag (← indentlessItems fuel)
      else if optional then pure (.scalar (plainTag tag) .plain "")
      else stop
    | some (.scalar style text) =>
      drop
      pure (.scalar (plainTag tag) style text)
    | some .flowSequenceStart =>
      drop
      return .sequence tag (← flowItems fuel true)
    | some .flowMappingStart =>
      drop
      return .mapping tag (← flowPairs fuel true)
    | some .blockSequenceStart =>
      if block then
        drop
        return .sequence tag (← blockItems fuel)
      else if optional then pure (.scalar (plainTag tag) .plain "")
      else stop
    | some .blockMappingStart =>
      if block then
        drop
        return .mapping tag (← blockPairs fuel)
      else if optional then pure (.scalar (plainTag tag) .plain "")
      else stop
    | some _ => if optional then pure (.scalar (plainTag tag) .plain "") else stop

/-- A node, or nothing where one of some tokens comes next. -/
def nodeUnless (ends : Token → Bool) : Nat → Bool → Bool → Builder Node
  | 0, _, _ => stop
  | fuel + 1, block, indentless => do
    match ← peek? with
    | none => stop
    | some t => if ends t then pure .empty else node fuel block indentless

/-- The items of a block sequence. -/
def blockItems : Nat → Builder (List Node)
  | 0 => return [← stop]
  | fuel + 1 => do
    match ← peek? with
    | some .blockEntry =>
      drop
      let item ← nodeUnless (fun t => t == .blockEntry || t == .blockEnd) fuel true false
      if (← get).stopped then pure [item] else return item :: (← blockItems fuel)
    | some .blockEnd =>
      drop
      pure []
    | _ => return [← stop]

/-- The items of a block sequence without indentation of its own. -/
def indentlessItems : Nat → Builder (List Node)
  | 0 => return [← stop]
  | fuel + 1 => do
    match ← peek? with
    | some .blockEntry =>
      drop
      let item ← nodeUnless
        (fun t => t == .blockEntry || t == .key || t == .value || t == .blockEnd) fuel true false
      if (← get).stopped then pure [item] else return item :: (← indentlessItems fuel)
    | some _ => pure []
    | none => return [← stop]

/-- The value after a key of a block mapping, which may be left out. -/
def blockValue : Nat → Builder Node
  | 0 => stop
  | fuel + 1 => do
    match ← peek? with
    | some .value =>
      drop
      nodeUnless (fun t => t == .key || t == .value || t == .blockEnd) fuel true true
    | some _ => pure .empty
    | none => stop

/-- The pairs of a block mapping. -/
def blockPairs : Nat → Builder (List (Node × Node))
  | 0 => return [(← stop, .broken)]
  | fuel + 1 => do
    match ← peek? with
    | some .key =>
      drop
      let key ← nodeUnless (fun t => t == .key || t == .value || t == .blockEnd) fuel true true
      if (← get).stopped then pure [(key, .broken)]
      else
        let value ← blockValue fuel
        if (← get).stopped then pure [(key, value)]
        else return (key, value) :: (← blockPairs fuel)
    | some .blockEnd =>
      drop
      pure []
    | _ => return [(← stop, .broken)]

/-- The single pair of a mapping that is an item of a flow sequence, after its mark. -/
def flowPair : Nat → Builder (Node × Node)
  | 0 => return (← stop, .broken)
  | fuel + 1 => do
    let ends (t : Token) : Bool := t == .value || t == .flowEntry || t == .flowSequenceEnd
    let key ← match ← peek? with
      | none => stop
      | some t =>
        if ends t then do
          -- the token that ends a key which is left out is passed over
          drop
          pure Node.empty
        else node fuel false false
    if (← get).stopped then pure (key, .broken)
    else
      match ← peek? with
      | some .value =>
        drop
        let value ← nodeUnless (fun t => t == .flowEntry || t == .flowSequenceEnd) fuel false false
        pure (key, value)
      | some _ => pure (key, .empty)
      | none => return (key, ← stop)

/-- The items of a flow sequence. -/
def flowItems : Nat → Bool → Builder (List Node)
  | 0, _ => return [← stop]
  | fuel + 1, first => do
    if (← peek?) == some .flowSequenceEnd then
      drop
      pure []
    else
      let separated ← if first then pure true else do
        if (← peek?) == some .flowEntry then
          drop
          pure true
        else pure false
      if !separated then return [← stop]
      else
        match ← peek? with
        | some .flowSequenceEnd =>
          drop
          pure []
        | some .key =>
          drop
          let (key, value) ← flowPair fuel
          let item := Node.mapping none [(key, value)]
          if (← get).stopped then pure [item] else return item :: (← flowItems fuel false)
        | _ =>
          let item ← node fuel false false
          if (← get).stopped then pure [item] else return item :: (← flowItems fuel false)

/-- The pairs of a flow mapping. -/
def flowPairs : Nat → Bool → Builder (List (Node × Node))
  | 0, _ => return [(← stop, .broken)]
  | fuel + 1, first => do
    if (← peek?) == some .flowMappingEnd then
      drop
      pure []
    else
      let separated ← if first then pure true else do
        if (← peek?) == some .flowEntry then
          drop
          pure true
        else pure false
      let ends (t : Token) : Bool := t == .flowEntry || t == .flowMappingEnd
      if !separated then return [(← stop, .broken)]
      else
        match ← peek? with
        | some .flowMappingEnd =>
          drop
          pure []
        | some .key =>
          drop
          let key ← nodeUnless (fun t => t == .value || ends t) fuel false false
          if (← get).stopped then pure [(key, .broken)]
          else
            let value ← match ← peek? with
              | some .value => do
                drop
                nodeUnless ends fuel false false
              | some _ => pure Node.empty
              | none => stop
            if (← get).stopped then pure [(key, value)]
            else return (key, value) :: (← flowPairs fuel false)
        | _ =>
          let key ← node fuel false false
          if (← get).stopped then pure [(key, .broken)]
          else return (key, .empty) :: (← flowPairs fuel false)

end

end Builder

end Workplan.Yaml
