/-
# `Workplan.Manifest.Reader` — reading manifests

A manifest is read from YAML by the types of its fields.  A text takes any scalar as it is written;
a choice takes a scalar, or a tag on nothing; an optional text is absent where the scalar is empty
or a spelling of null.  A record is a mapping with known fields at most once, or a sequence with
the fields in order; fields that are not known are passed over.  The first fault in the order of
the text ends the reading, and is reported by itself only if it is an unknown type.
-/
import Workplan.Manifest.Basic
import Workplan.Yaml.Document

namespace Workplan

/-- Why a text is no manifest. -/
inductive ManifestFault where
  | malformed
  | unknownType (text : String)
deriving DecidableEq

/-- The words that open the report of a text that is no manifest. -/
def ManifestFault.message : ManifestFault → String
  | .malformed => "YAML parse error"
  | .unknownType text => "YAML parse error: " ++ TypeTag.unknownMessage text

namespace Manifest

open Yaml

/-- What reading gives: a value, or the fault that ended it. -/
abbrev Read := Except ManifestFault

def malformed {α : Type} : Read α := .error .malformed

/-- The node itself, or the one that an alias leads to. -/
def follow (d : Document) : Node → Node
  | .alias number => d.target number
  | n => n

/-! ## Scalars -/

def isNull (text : String) : Bool := ["~", "null", "Null", "NULL"].contains text

/-- The text of a scalar. -/
def readText (d : Document) (n : Node) : Read String :=
  match follow d n with
  | .scalar _ _ text => .ok text
  | _ => malformed

/-- The text of a scalar, unless it is empty or null. -/
def readOptionalText (d : Document) (n : Node) : Read (Option String) :=
  match follow d n with
  | .scalar tag style text =>
    if style != Style.plain then .ok (some text)
    else
      match tag with
      | some "tag:yaml.org,2002:null" => if isNull text then .ok none else malformed
      | some _ => .ok (some text)
      | none => .ok (if text.isEmpty || isNull text then none else some text)
  | _ => malformed

/-- A truth value, in one of the spellings of a plain scalar. -/
def readBool (d : Document) (n : Node) : Read Bool :=
  match follow d n with
  | .scalar tag style text =>
    if style = Style.plain || (style = Style.literal && tag = some "tag:yaml.org,2002:bool") then
      if ["true", "True", "TRUE"].contains text then .ok true
      else if ["false", "False", "FALSE"].contains text then .ok false
      else malformed
    else malformed
  | _ => malformed

/-- The name after the mark of a local tag. -/
def localTag? (tag : Option String) : Option String :=
  tag.bind fun t =>
    match t.toList with
    | ['!'] => some "!"
    | '!' :: name => some (String.ofList name)
    | _ => none

/-- One of several choices: by the text of a scalar, or by a tag on nothing. -/
def readChoice {α : Type} (parse? : String → Option α) (d : Document) (n : Node) : Read α :=
  match follow d n with
  | .scalar tag style text =>
    let name := match localTag? tag with
      | some name =>
        if style = Style.plain && (text.isEmpty || isNull text) then some name else none
      | none => some text
    match name.bind parse? with
    | some a => .ok a
    | none => malformed
  | _ => malformed

/-- A declared type. -/
def readType (d : Document) (n : Node) : Read TypeTag := do
  let text ← readText d n
  match TypeTag.parse? text with
  | some t => .ok t
  | none => .error (.unknownType text)

/-! ## Collections -/

/-- Whether a node stands for an empty collection without being one. -/
def isVoid : Node → Bool
  | .scalar _ style text => style = Style.plain && text.isEmpty
  | _ => false

/-- The items of a sequence. -/
def readItems {α : Type} (item : Node → Read α) (d : Document) (n : Node) : Read (List α) :=
  match follow d n with
  | .sequence _ items => items.mapM item
  | n => if isVoid n then .ok [] else malformed

/-- The entries of a mapping.  A repeated key keeps its place and takes the last value. -/
def readTable {α : Type} (value : Node → Read α) (d : Document) (n : Node) : Read (Table α) :=
  match follow d n with
  | .mapping _ pairs =>
    pairs.foldlM (fun t p => do
      let key ← readText d p.1
      return t.insert key (← value p.2)) {}
  | n => if isVoid n then .ok {} else malformed

/-- A field of a record under construction. -/
structure Field (σ : Type) where
  name : String
  required : Bool := false
  read : σ → Node → Read σ

/-- The fields of a record that have been read, and what they give. -/
structure Filled (σ : Type) where
  seen : List String := []
  value : σ

/-- Takes in one pair of a mapping. -/
def readPair {σ : Type} (fields : List (Field σ)) (d : Document) (r : Filled σ)
    (p : Node × Node) : Read (Filled σ) := do
  let name ← readText d p.1
  match fields.find? fun f => f.name == name with
  | none => if p.2.isWhole then .ok r else malformed
  | some f =>
    if r.seen.contains name then malformed
    else .ok ⟨name :: r.seen, ← f.read r.value p.2⟩

/-- Takes in the items of a sequence, field by field. -/
def readPositions {σ : Type} : List (Field σ) → Filled σ → List Node → Read (Filled σ)
  | _, r, [] => .ok r
  | [], _, _ :: _ => malformed
  | f :: fields, r, n :: rest => do
    let value ← f.read r.value n
    readPositions fields ⟨f.name :: r.seen, value⟩ rest

/-- A record; `start` holds what its fields are where they are left out. -/
def readRecord {σ : Type} (fields : List (Field σ)) (start : σ) (d : Document) (n : Node) :
    Read σ := do
  let r ← match follow d n with
    | .mapping _ pairs => pairs.foldlM (readPair fields d) ⟨[], start⟩
    | .sequence _ items => readPositions fields ⟨[], start⟩ items
    | n => if isVoid n then .ok ⟨[], start⟩ else malformed
  if fields.all fun f => !f.required || r.seen.contains f.name then .ok r.value else malformed

/-! ## The records of a manifest -/

def inputFields (d : Document) : List (Field InputSpec) :=
  [ { name := "type", required := true,
      read := fun i n => do return { i with type := ← readType d n } },
    { name := "required", read := fun i n => do return { i with required := ← readBool d n } },
    { name := "description",
      read := fun i n => do return { i with description := ← readOptionalText d n } },
    { name := "verify",
      read := fun i n => do return { i with verify := ← readItems (readText d) d n } } ]

def readInput (d : Document) : Node → Read InputSpec :=
  readRecord (inputFields d) { type := .string } d

def raiseFields (d : Document) : List (Field RaisedError) :=
  [ { name := "code", required := true,
      read := fun r n => do return { r with code := ← readText d n } },
    { name := "description",
      read := fun r n => do return { r with description := ← readText d n } } ]

def readRaise (d : Document) : Node → Read RaisedError := readRecord (raiseFields d) ⟨"", ""⟩ d

def requestFields (d : Document) : List (Field Request) :=
  [ { name := "id", required := true
      read := fun r n => do return { r with id := ← readText d n } },
    { name := "condition",
      read := fun r n => do return { r with condition := ← readOptionalText d n } } ]

def readRequest (d : Document) : Node → Read Request :=
  readRecord (requestFields d) { id := "" } d

def unitFields (d : Document) : List (Field UnitSpec) :=
  [ { name := "kind",
      read := fun u n => do return { u with kind := ← readChoice UnitKind.parse? d n } },
    { name := "version", read := fun u n => do return { u with version := ← readText d n } },
    { name := "name", read := fun u n => do return { u with name := ← readOptionalText d n } },
    { name := "description",
      read := fun u n => do return { u with description := ← readOptionalText d n } },
    { name := "tags",
      read := fun u n => do return { u with tags := ← readItems (readText d) d n } },
    { name := "inputs",
      read := fun u n => do return { u with inputs := ← readTable (readInput d) d n } },
    { name := "outputs",
      read := fun u n => do return { u with outputs := ← readItems (readText d) d n } },
    { name := "raises",
      read := fun u n => do return { u with raises := ← readItems (readRaise d) d n } },
    { name := "requests",
      read := fun u n => do return { u with requests := ← readItems (readRequest d) d n } },
    { name := "run", read := fun u n => do return { u with run := ← readOptionalText d n } } ]

def readUnit (d : Document) : Node → Read UnitSpec := readRecord (unitFields d) {} d

def policyFields (d : Document) : List (Field RunPolicy) :=
  [ { name := "bindings",
      read := fun p n => do return { p with bindings := ← readChoice BindingPolicy.parse? d n } },
    { name := "journal", read := fun p n => do return { p with journal := ← readBool d n } },
    { name := "parallel", read := fun p n => do return { p with parallel := ← readBool d n } } ]

def readPolicy (d : Document) : Node → Read RunPolicy := readRecord (policyFields d) {} d

def fields (d : Document) : List (Field Manifest) :=
  [ { name := "version", required := true,
      read := fun m n => do return { m with version := ← readText d n } },
    { name := "name", required := true,
      read := fun m n => do return { m with name := ← readText d n } },
    { name := "description",
      read := fun m n => do return { m with description := ← readOptionalText d n } },
    { name := "policy", read := fun m n => do return { m with policy := ← readPolicy d n } },
    { name := "units",
      read := fun m n => do return { m with units := ← readTable (readUnit d) d n } } ]

/-- The manifest that a document holds. -/
def ofDocument (d : Document) : Read Manifest := do
  let m ← readRecord (fields d) { version := "", name := "" } d d.root
  if d.single then .ok m else malformed

/-- The manifest that a text writes. -/
def parse (text : String) : Read Manifest := ofDocument (Document.ofText text)

end Manifest

end Workplan
