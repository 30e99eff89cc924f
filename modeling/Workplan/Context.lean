/-
# `Workplan.Context` — the values that a run accumulates

A context binds keys to values.  The host seeds it, and then the outputs of units are merged into
it: a key that is bound keeps its first value.  Under the strict policy a second value for a key
is a conflict, and the merge stops there; what was merged before it stays.
-/
import Workplan.Descriptor

namespace Workplan

/-- What happens when a unit returns a key that is bound: the first value wins, or the run
stops. -/
inductive BindingPolicy where
  | firstWins
  | strict
deriving DecidableEq

namespace BindingPolicy

def text : BindingPolicy → String
  | .firstWins => "first_wins"
  | .strict => "strict"

def parse? (text : String) : Option BindingPolicy :=
  if text = "first_wins" then some .firstWins
  else if text = "strict" then some .strict
  else none

theorem parse?_text (p : BindingPolicy) : parse? p.text = some p := by cases p <;> rfl

end BindingPolicy

/-- Bound values and the policy for further ones. -/
structure Context where
  values : Table Value := {}
  policy : BindingPolicy := .firstWins

/-- What a merge did: the values after it, the keys that it bound, those that it left alone, and
the key that stopped it. -/
structure Merge where
  values : Table Value
  bound : List String := []
  discarded : List String := []
  conflict : Option String := none

namespace Context

instance : Inhabited Context := ⟨{}⟩

/-- Binds a value of the host's; a later one replaces an earlier one in its place. -/
def insert (c : Context) (key : String) (value : Value) : Context :=
  { c with values := c.values.insert key value }

def get? (c : Context) (key : String) : Option Value := c.values.get? key

def contains (c : Context) (key : String) : Bool := c.values.contains key

def keys (c : Context) : List String := c.values.keys

/-- Whether a key is bound to a truthy value. -/
def truthy (c : Context) (key : String) : Bool := (c.get? key).any Value.truthy

/-- The bound values among a list of keys, in the order of the list. -/
def pick (values : Table Value) (keys : List String) : List (String × Value) :=
  keys.filterMap fun k => (values.get? k).map fun v => (k, v)

/-- The inputs of a unit: every declared input that is bound, in the order of declaration. -/
def slice (c : Context) (d : Descriptor) : Inputs :=
  Table.ofList (pick c.values d.inputs.keys)

/-- Merges pairs from left to right. -/
def mergePairs (policy : BindingPolicy) (values : Table Value) :
    List (String × Value) → Merge
  | [] => { values }
  | (key, value) :: rest =>
    if values.contains key then
      match policy with
      | .strict => { values, conflict := some key }
      | .firstWins =>
        let m := mergePairs policy values rest
        { m with discarded := key :: m.discarded }
    else
      let m := mergePairs policy (values.insert key value) rest
      { m with bound := key :: m.bound }

/-- Merges the outputs of a unit. -/
def merge (c : Context) (outputs : Outputs) : Merge :=
  mergePairs c.policy c.values outputs.entries

end Context

end Workplan
