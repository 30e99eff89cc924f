/-
# `Workplan.Value` — the values that contexts bind

A value is JSON data or a port, a collaborator object that advertises interface names.  Ports are
compared by identity, data by structure.
-/
import Workplan.Json.Printer
import Workplan.TypeTag
import Workplan.Table

namespace Workplan

/-- A collaborator object: which one it is, and the interfaces that it offers. -/
structure Port where
  identity : Nat
  interfaces : List String
deriving DecidableEq

/-- A value bound in a context. -/
inductive Value where
  | data (json : Json)
  | port (port : Port)

namespace Value

instance : Inhabited Value := ⟨.data .null⟩

/-- The short name of the value's type. -/
def typeName : Value → String
  | .data .null => "null"
  | .data (.bool _) => "boolean"
  | .data (.num (.int _ _)) => "integer"
  | .data (.num (.real _)) => "number"
  | .data (.str _) => "string"
  | .data (.arr _) => "array"
  | .data (.obj _) => "object"
  | .port p => "port:" ++ "+".intercalate p.interfaces

/-- Whether the value satisfies a declared type. -/
def hasType : Value → TypeTag → Bool
  | .data (.str _), .string => true
  | .data (.num (.int _ _)), .integer => true
  | .data (.bool _), .boolean => true
  | .data (.arr _), .array => true
  | .data (.obj _), .object => true
  | .port p, .port interface => p.interfaces.contains interface
  | _, _ => false

/-- Whether the value makes a condition hold: null, false, zero and everything empty do not. -/
def truthy : Value → Bool
  | .data .null => false
  | .data (.bool b) => b
  | .data (.num n) => !n.isZero
  | .data (.str s) => !s.isEmpty
  | .data (.arr items) => !items.isEmpty
  | .data (.obj fields) => !fields.isEmpty
  | .port _ => true

/-- The JSON data that stands for the value; a port stands as a text that names its interfaces. -/
def toJson : Value → Json
  | .data j => j
  | .port p => .str ("<" ++ (Value.port p).typeName ++ ">")

/-- The compact JSON text of the value. -/
def text (v : Value) : String := v.toJson.compact

def asString? : Value → Option String
  | .data j => j.asString?
  | .port _ => none

/-- Equality of values: data by structure, ports by identity. -/
def same : Value → Value → Bool
  | .data a, .data b => a.same b
  | .port a, .port b => a.identity == b.identity
  | _, _ => false

def ofString (s : String) : Value := .data (.str s)

end Value

/-- The values handed to a unit, under the names of its inputs. -/
abbrev Inputs := Table Value

/-- The values returned by a unit. -/
abbrev Outputs := Table Value

/-- The object that holds the values of a table. -/
def Table.toJson (values : Table Value) : Json :=
  Json.mkObject (values.entries.map fun e => (e.1, e.2.toJson))

end Workplan
