/-
# `Workplan.Json.Basic` — JSON data

A document is read as it is written: the fields of an object in the order of the text, repeated
ones included.  As a *value* an object is a map: `canonical` sorts the fields by code point and
keeps the last of those that share a name.  `Canonical` is the predicate for that form.
-/
import Workplan.Json.Number

namespace Workplan

/-- A JSON document. -/
inductive Json where
  | null
  | bool (value : Bool)
  | num (value : Number)
  | str (value : String)
  | arr (items : List Json)
  | obj (fields : List (String × Json))

namespace Json

instance : Inhabited Json := ⟨.null⟩

/-- Puts a field into a list sorted by name, in place of a field with the same name. -/
def insertField (name : String) (value : Json) : List (String × Json) → List (String × Json)
  | [] => [(name, value)]
  | (n, v) :: rest =>
    if name < n then (name, value) :: (n, v) :: rest
    else if n = name then (name, value) :: rest
    else (n, v) :: insertField name value rest

/-- The fields sorted by name; of those that share a name the last one stays. -/
def sortFields (fields : List (String × Json)) : List (String × Json) :=
  fields.foldl (fun sorted f => insertField f.1 f.2 sorted) []

/-- The object with these fields. -/
def mkObject (fields : List (String × Json)) : Json := .obj (sortFields fields)

mutual

/-- The value that a document denotes: every object in it is sorted and free of repetitions. -/
def canonical : Json → Json
  | .arr items => .arr (canonicalItems items)
  | .obj fields => mkObject (canonicalFields fields)
  | j => j

/-- The values of a list of documents. -/
def canonicalItems : List Json → List Json
  | [] => []
  | j :: rest => j.canonical :: canonicalItems rest

/-- The fields with the values of their documents. -/
def canonicalFields : List (String × Json) → List (String × Json)
  | [] => []
  | (n, j) :: rest => (n, j.canonical) :: canonicalFields rest

end

mutual

/-- A document all of whose objects have strictly increasing names. -/
def Canonical : Json → Prop
  | .arr items => CanonicalItems items
  | .obj fields => (fields.map Prod.fst).Pairwise (· < ·) ∧ CanonicalFields fields
  | _ => True

/-- Every document of a list is canonical. -/
def CanonicalItems : List Json → Prop
  | [] => True
  | j :: rest => j.Canonical ∧ CanonicalItems rest

/-- Every field holds a canonical document. -/
def CanonicalFields : List (String × Json) → Prop
  | [] => True
  | (_, j) :: rest => j.Canonical ∧ CanonicalFields rest

end

mutual

/-- Equality of values.  Numbers are equal within one form only, the two zeros of the fractional
form with each other. -/
def same : Json → Json → Bool
  | .null, .null => true
  | .bool a, .bool b => a == b
  | .num a, .num b => a.same b
  | .str a, .str b => a == b
  | .arr a, .arr b => sameItems a b
  | .obj a, .obj b => sameFields a b
  | _, _ => false

/-- Equality of values, item by item. -/
def sameItems : List Json → List Json → Bool
  | [], [] => true
  | a :: as, b :: bs => a.same b && sameItems as bs
  | _, _ => false

/-- Equality of values, field by field. -/
def sameFields : List (String × Json) → List (String × Json) → Bool
  | [], [] => true
  | (m, a) :: as, (n, b) :: bs => m == n && a.same b && sameFields as bs
  | _, _ => false

end

/-- The text of a string. -/
def asString? : Json → Option String
  | .str s => some s
  | _ => none

/-- The last field with this name. -/
def field? (name : String) : Json → Option Json
  | .obj fields => (fields.reverse.find? fun f => f.1 == name).map Prod.snd
  | _ => none

/-- The document of a natural number, which must fit 64 bits. -/
def ofNat? (n : Nat) : Option Json := (Number.ofInt? n).map .num

/-- The document of a list of strings. -/
def ofStrings (ss : List String) : Json := .arr (ss.map .str)

end Json

end Workplan
